import BuildRepair.Build.Outcome
import BuildRepair.Proofs.Build.Words

/-
  Build commands of quoted words. Within single quotes every character stands for itself, blanks,
  backslashes and double quotes too; only the single quote does not, so it is put between double
  ones, outside of the others. A word that is written so adds exactly its characters to what the
  reader has begun (`wordsFrom_singleQuoted`), hence a line of such words has these words and no
  others (`words_quotedLine`), the empty ones among them, and the command of the line hands on each
  word as it is (`command_quotedLine`).
-/

namespace BuildRepair.Build

/-! ## Writing -/

/-- A character within single quotes; for a single quote they are closed and opened again. -/
def quotedChar (c : Char) : List Char :=
  if c = '\'' then ['\'', '"', '\'', '"', '\''] else [c]

/-- A word in single quotes. -/
def singleQuoted (word : List Char) : List Char :=
  '\'' :: (word.flatMap quotedChar ++ ['\''])

/-- The line of some words in single quotes, with a blank between two of them. -/
def quotedLine (ws : List String) : String :=
  " ".intercalate (ws.map fun w => String.ofList (singleQuoted w.toList))

/-! ## Reading -/

theorem wordsFrom_quotedChar (begun : List Char) (c : Char) (s : List Char) :
    wordsFrom (.quoted '\'') (some begun) (quotedChar c ++ s) =
      wordsFrom (.quoted '\'') (some (begun ++ [c])) s := by
  unfold quotedChar
  split
  next hc =>
    -- the quotes are closed, the double ones add the character, and the quotes are opened again
    subst hc
    rfl
  next hc =>
    rw [List.singleton_append, wordsFrom, if_neg hc, if_neg fun h => absurd h.2 (by decide)]
    rfl

theorem wordsFrom_quotedChars (word begun s : List Char) :
    wordsFrom (.quoted '\'') (some begun) (word.flatMap quotedChar ++ s) =
      wordsFrom (.quoted '\'') (some (begun ++ word)) s := by
  induction word generalizing begun with
  | nil => rw [List.flatMap_nil, List.nil_append, List.append_nil]
  | cons c word ih =>
    rw [List.flatMap_cons, List.append_assoc, wordsFrom_quotedChar, ih, List.append_assoc,
      List.singleton_append]

/-- A quoted word adds its characters to the word in which it stands, and begins one if it has
none. -/
theorem wordsFrom_singleQuoted (begun : Option (List Char)) (word s : List Char) :
    wordsFrom .plain begun (singleQuoted word ++ s) =
      wordsFrom .plain (some (begun.getD [] ++ word)) s := by
  unfold singleQuoted
  rw [List.cons_append, List.append_assoc, wordsFrom_quote (.inl rfl), wordsFrom_quotedChars,
    List.singleton_append, wordsFrom, if_pos rfl]

theorem wordsFrom_blank (word s : List Char) :
    wordsFrom .plain (some word) (' ' :: s) = (wordsFrom .plain none s).map (word :: ·) := by
  rw [wordsFrom, if_pos (by decide)]
  cases wordsFrom .plain none s <;> rfl

theorem wordsFrom_quotedLine (ws : List (List Char)) :
    wordsFrom .plain none ([' '].intercalate (ws.map singleQuoted)) = .ok ws := by
  induction ws with
  | nil => rfl
  | cons w ws ih =>
    cases ws with
    | nil =>
      have hword := wordsFrom_singleQuoted none w []
      rw [List.append_nil] at hword
      rw [List.map_singleton, List.intercalate_singleton, hword]
      rfl
    | cons next ws =>
      rw [List.map_cons, List.map_cons, List.intercalate_cons_cons, ← List.map_cons,
        List.append_assoc, wordsFrom_singleQuoted, List.singleton_append, wordsFrom_blank, ih]
      rfl

/-- A line of quoted words has the words that were written, whatever they hold. -/
theorem words_quotedLine (ws : List String) : words (quotedLine ws) = .ok ws := by
  have hline : (quotedLine ws).toList =
      [' '].intercalate ((ws.map String.toList).map singleQuoted) := by
    unfold quotedLine
    rw [String.toList_intercalate, List.map_map, List.map_map]
    congr 1
    exact List.map_congr_left fun _ _ => String.toList_ofList
  unfold words
  rw [hline, wordsFrom_quotedLine]
  simp [Except.map]

/-! ## Starting -/

/-- The package manager that runs a script, npm where none is named. -/
def runner (manager : String) : String := if manager = "" then "npm" else manager

/-- What stands between a script and its arguments: npm would read them itself if nothing did. -/
def separator (manager : String) (arguments : List String) : List String :=
  if runner manager = "npm" ∧ arguments ≠ [] then ["--"] else []

theorem command_of_words {manager line first : String} {rest : List String}
    (h : words line = .ok (first :: rest)) :
    command manager line = .ok
      (if first ∈ packageManagers then first :: rest
      else [runner manager, "run", first] ++ separator manager rest ++ rest) := by
  unfold command separator runner
  rw [h]
  dsimp only
  generalize (if manager = "" then "npm" else manager) = m
  by_cases hfull : first ∈ packageManagers
  · rw [if_pos hfull, if_pos (List.contains_iff_mem.mpr hfull)]
  rw [if_neg hfull, if_neg fun hc => hfull (List.contains_iff_mem.mp hc)]
  by_cases hbehind : m = "npm" ∧ rest ≠ []
  · rw [if_pos hbehind, if_pos hbehind]
    rfl
  · rw [if_neg hbehind, if_neg hbehind]
    rfl

/-- The command of a line of quoted words hands each of them on unchanged and in its place: to the
package manager that they begin with, or to the script that the first of them names. -/
theorem command_quotedLine (manager first : String) (rest : List String) :
    command manager (quotedLine (first :: rest)) = .ok
      (if first ∈ packageManagers then first :: rest
      else [runner manager, "run", first] ++ separator manager rest ++ rest) :=
  command_of_words (words_quotedLine (first :: rest))

example : command "" "'build' 'it'\"'\"'s' '--' ''" =
    .ok ["npm", "run", "build", "--", "it's", "--", ""] := rfl

end BuildRepair.Build
