import BuildRepair.Text.Class

/-
  Scanning at a position of a text and searching for the leftmost position. A scanner takes the
  characters from a position on and gives what it read with the rest. `search` tries a scanner at
  every position from the left; the scanner also sees the character before the position, which
  decides word boundaries and line starts.
-/

namespace BuildRepair.Text

/-- The rest of a text after a literal at its start. -/
def literal : List Char → List Char → Option (List Char)
  | [], s => some s
  | _ :: _, [] => none
  | a :: p, c :: s => if a = c then literal p s else none

/-- The rest of a text after a literal at its start, whatever the case of its letters. -/
def anyCase : List Char → List Char → Option (List Char)
  | [], s => some s
  | _ :: _, [] => none
  | a :: p, c :: s => if sameLetter a c then anyCase p s else none

/-- The longest non-empty run of a class at the start of a text, and the rest. -/
def run (p : Char → Bool) (s : List Char) : Option (List Char × List Char) :=
  match s.takeWhile p with
  | [] => none
  | taken => some (taken, s.dropWhile p)

/-- The rest of a text after the longest non-empty run of a class. -/
def skip (p : Char → Bool) (s : List Char) : Option (List Char) :=
  (run p s).map (·.2)

/-- The rest of a text after one character of a class. -/
def one (p : Char → Bool) : List Char → Option (List Char)
  | [] => none
  | c :: s => if p c then some s else none

/-- The rest of a text after at most one character of a class. -/
def optional (p : Char → Bool) (s : List Char) : List Char :=
  (one p s).getD s

/-- Whether exactly one of the characters on both sides of a position belongs to a word. -/
def atBoundary (before : Option Char) (s : List Char) : Bool :=
  before.any isWord != s.head?.any isWord

/-- What the scanner reads at the leftmost position where it reads anything. -/
def search (scan : Option Char → List Char → Option α) : Option Char → List Char → Option α
  | before, [] => scan before []
  | before, c :: s =>
    match scan before (c :: s) with
    | some a => some a
    | none => search scan (some c) s

/-- What the scanner reads at the leftmost position of a text where it reads anything. -/
def find (scan : List Char → Option α) (s : List Char) : Option α :=
  search (fun _ => scan) none s

/-- Whether a text holds the literal `p`. -/
def holds (p : String) (s : List Char) : Bool :=
  (find (literal p.toList) s).isSome

/-- Whether a text holds the literal `p`, whatever the case of its letters. -/
def holdsAnyCase (p : String) (s : List Char) : Bool :=
  (find (anyCase p.toList) s).isSome

/-- Whether a text starts with the literal `p`. -/
def startsWith (p : String) (s : List Char) : Bool :=
  (literal p.toList s).isSome

/-- Whether a text starts with the literal `p`, whatever the case of its letters. -/
def startsAnyCase (p : String) (s : List Char) : Bool :=
  (anyCase p.toList s).isSome

theorem literal_eq_some_iff {p s r : List Char} : literal p s = some r ↔ s = p ++ r := by
  induction p generalizing s with
  | nil => simp [literal]
  | cons a p ih =>
    cases s with
    | nil => simp [literal]
    | cons c s =>
      by_cases h : a = c
      · simp [literal, h, ih]
      · simp [literal, h, Ne.symm h]

theorem run_eq_some {p : Char → Bool} {s taken r : List Char} (h : run p s = some (taken, r)) :
    s = taken ++ r ∧ taken ≠ [] := by
  unfold run at h
  split at h
  · cases h
  · rename_i hne
    cases h
    exact ⟨(List.takeWhile_append_dropWhile).symm, hne⟩

/-- A text is found if the scanner reads something at one of its positions. -/
theorem isSome_find_iff {scan : List Char → Option α} {s : List Char} :
    (find scan s).isSome = true ↔ ∃ t, t <:+ s ∧ (scan t).isSome = true := by
  unfold find
  generalize (none : Option Char) = before
  induction s generalizing before with
  | nil => simp [search]
  | cons c s ih =>
    rw [search]
    cases h : scan (c :: s) with
    | some a => exact iff_of_true rfl ⟨c :: s, List.suffix_refl _, by rw [h]; rfl⟩
    | none =>
      rw [ih]
      constructor
      · rintro ⟨t, ht, hs⟩
        exact ⟨t, ht.trans (List.suffix_cons c s), hs⟩
      · rintro ⟨t, ht, hs⟩
        rcases List.suffix_cons_iff.mp ht with rfl | ht
        · simp [h] at hs
        · exact ⟨t, ht, hs⟩

theorem holds_iff {p : String} {s : List Char} : holds p s = true ↔ p.toList <:+: s := by
  have hhere (t : List Char) : (literal p.toList t).isSome = true ↔ p.toList <+: t := by
    rw [Option.isSome_iff_exists]
    simp only [literal_eq_some_iff]
    exact exists_congr fun r => eq_comm
  unfold holds
  rw [isSome_find_iff, List.infix_iff_prefix_suffix]
  simp only [hhere, and_comm]

end BuildRepair.Text
