import BuildRepair.Text.Line
import Mathlib.Data.List.DropRight

/-
  Lines and what is left of a text when it is trimmed. A text is cut at a separator whatever stands
  on its two sides (`splitOn_append`). Trimming leaves nothing of blanks only (`trim_eq_nil_iff`) and
  no blank at either end of anything else (`trimmed_trim`), it keeps all that is not blank
  (`mem_trim`), and a text that goes on begins as it did (`trim_isPrefix`).
-/

namespace BuildRepair.Text

variable {sep c : Char} {p s piece : List Char} {pieces : List (List Char)}

/-! ## Pieces -/

theorem splitOn_ne_nil (sep : Char) (s : List Char) : splitOn sep s ≠ [] := by
  cases s with
  | nil => simp [splitOn]
  | cons c s =>
    unfold splitOn
    split
    · simp
    · split <;> simp

/-- A text is cut at a separator. -/
theorem splitOn_append (sep : Char) (s t : List Char) :
    splitOn sep (s ++ sep :: t) = splitOn sep s ++ splitOn sep t := by
  induction s with
  | nil => simp [splitOn]
  | cons c s ih =>
    rw [List.cons_append, splitOn, splitOn, ih]
    split
    · rfl
    · obtain ⟨first, rest, hsplit⟩ := List.exists_cons_of_ne_nil (splitOn_ne_nil sep s)
      rw [hsplit]
      rfl

theorem splitOn_of_not_mem (h : sep ∉ s) : splitOn sep s = [s] := by
  induction s with
  | nil => rfl
  | cons c s ih =>
    rw [List.mem_cons, not_or] at h
    rw [splitOn, if_neg (Ne.symm h.1), ih h.2]

theorem not_mem_of_mem_splitOn (h : piece ∈ splitOn sep s) : sep ∉ piece := by
  induction s generalizing piece with
  | nil =>
    rw [splitOn, List.mem_singleton] at h
    simp [h]
  | cons c s ih =>
    rw [splitOn] at h
    split at h
    · rcases List.mem_cons.mp h with rfl | h
      · exact List.not_mem_nil
      · exact ih h
    · next hc =>
      obtain ⟨first, rest, hsplit⟩ := List.exists_cons_of_ne_nil (splitOn_ne_nil sep s)
      rw [hsplit] at h ih
      rcases List.mem_cons.mp h with rfl | h
      · rw [List.mem_cons, not_or]
        exact ⟨Ne.symm hc, ih (List.mem_cons_self ..)⟩
      · exact ih (List.mem_cons_of_mem _ h)

/-- Pieces without the separator are found again. -/
theorem splitOn_joinWith (hne : pieces ≠ []) (h : ∀ piece ∈ pieces, sep ∉ piece) :
    splitOn sep (joinWith [sep] pieces) = pieces := by
  induction pieces with
  | nil => exact absurd rfl hne
  | cons first rest ih =>
    rw [List.forall_mem_cons] at h
    cases rest with
    | nil => exact splitOn_of_not_mem h.1
    | cons next rest =>
      have hjoin : joinWith [sep] (first :: next :: rest) =
          first ++ sep :: joinWith [sep] (next :: rest) := by
        rw [joinWith, List.append_assoc]
        · rfl
        · simp
      rw [hjoin, splitOn_append, splitOn_of_not_mem h.1, ih (by simp) h.2]
      rfl

/-- What stands in a piece stands in the whole. -/
theorem mem_joinWith (sep : List Char) (hpiece : piece ∈ pieces) (hc : c ∈ piece) :
    c ∈ joinWith sep pieces := by
  induction pieces with
  | nil => cases hpiece
  | cons first rest ih =>
    cases rest with
    | nil =>
      obtain rfl := List.mem_singleton.mp hpiece
      exact hc
    | cons next rest =>
      show c ∈ first ++ sep ++ joinWith sep (next :: rest)
      rw [List.mem_append, List.mem_append]
      rcases List.mem_cons.mp hpiece with rfl | hpiece
      · exact .inl (.inl hc)
      · exact .inr (ih hpiece)

/-! ## Trimming -/

/-- A text with no blank at either end. -/
structure Trimmed (s : List Char) : Prop where
  ne_nil : s ≠ []
  head : ∀ c ∈ s.head?, isBlank c = false
  last : ∀ c ∈ s.getLast?, isBlank c = false

theorem trimmed_iff : Trimmed s ↔
    s.isEmpty = false ∧ s.head?.any isBlank = false ∧ s.getLast?.any isBlank = false := by
  have hany : ∀ o : Option Char, o.any isBlank = false ↔ ∀ c ∈ o, isBlank c = false := by
    intro o
    cases o <;> simp
  rw [hany, hany, List.isEmpty_eq_false_iff]
  exact ⟨fun h => ⟨h.ne_nil, h.head, h.last⟩, fun ⟨hne, hhead, hlast⟩ => ⟨hne, hhead, hlast⟩⟩

instance (s : List Char) : Decidable (Trimmed s) := decidable_of_iff _ trimmed_iff.symm

theorem trimRight_eq (s : List Char) : trimRight s = s.rdropWhile isBlank := rfl

theorem trim_eq_nil_iff : trim s = [] ↔ ∀ c ∈ s, isBlank c = true := by
  unfold trim
  rw [trimRight_eq, List.rdropWhile_eq_nil_iff]
  constructor
  · intro h
    have hleft : trimLeft s = [] := by
      by_contra hne
      have hhead : isBlank ((trimLeft s).head hne) = false := List.head_dropWhile_not isBlank hne
      rw [h _ (List.head_mem hne)] at hhead
      cases hhead
    exact List.dropWhile_eq_nil_iff.mp hleft
  · intro h c hc
    exact h c ((List.dropWhile_suffix isBlank).subset hc)

theorem trimmed_trim (h : trim s ≠ []) : Trimmed (trim s) := by
  refine ⟨h, ?_, ?_⟩
  · intro c hc
    -- trimming at the end leaves the start
    obtain ⟨rest, hrest⟩ : trim s <+: trimLeft s := List.rdropWhile_prefix isBlank _
    have hhead : (trimLeft s).head? = some c := by
      rw [← hrest, List.head?_append, hc]
      rfl
    have hnot := List.head?_dropWhile_not isBlank s
    unfold trimLeft at hhead
    rw [hhead] at hnot
    exact hnot
  · intro c hc
    have hnot : ¬ isBlank ((trim s).getLast h) = true :=
      List.rdropWhile_last_not isBlank (trimLeft s) h
    rw [Option.mem_def, List.getLast?_eq_some_getLast h, Option.some.injEq] at hc
    rw [← hc]
    simpa using hnot

theorem trimLeft_eq_self (h : ∀ c ∈ s.head?, isBlank c = false) : trimLeft s = s := by
  cases s with
  | nil => rfl
  | cons c s => exact List.dropWhile_cons_of_neg (by simp [h c rfl])

theorem trimRight_eq_self (h : ∀ c ∈ s.getLast?, isBlank c = false) : trimRight s = s := by
  rw [trimRight_eq, List.rdropWhile_eq_self_iff]
  intro hne
  rw [h _ (List.getLast?_eq_some_getLast hne)]
  simp

theorem Trimmed.trim_eq (h : Trimmed s) : trim s = s := by
  unfold trim
  rw [trimLeft_eq_self h.head, trimRight_eq_self h.last]

theorem trim_subset (s : List Char) : trim s ⊆ s := by
  intro c hc
  exact (List.dropWhile_suffix isBlank).subset ((List.rdropWhile_prefix isBlank _).subset hc)

/-- Trimming keeps what is not blank. -/
theorem mem_trim (hc : c ∈ s) (hblank : isBlank c = false) : c ∈ trim s := by
  have hdrop : ∀ t : List Char, c ∈ t → c ∈ t.dropWhile isBlank := by
    intro t ht
    rw [← List.takeWhile_append_dropWhile (p := isBlank) (l := t), List.mem_append] at ht
    rcases ht with ht | ht
    · have := List.mem_takeWhile_imp ht
      simp [hblank] at this
    · exact ht
  unfold trim trimRight trimLeft
  rw [List.mem_reverse]
  exact hdrop _ (List.mem_reverse.mpr (hdrop _ hc))

theorem trimRight_isPrefix (s t : List Char) : trimRight s <+: trimRight (s ++ t) := by
  unfold trimRight
  rw [List.reverse_append, List.dropWhile_append, List.reverse_prefix]
  split
  · exact List.suffix_refl _
  · exact (List.dropWhile_suffix isBlank).trans (List.suffix_append _ _)

/-- A text that goes on begins as it did, but for blanks. -/
theorem trim_isPrefix (s t : List Char) : trim s <+: trim (s ++ t) := by
  unfold trim trimLeft
  rw [List.dropWhile_append]
  split
  · next hnil =>
    rw [List.isEmpty_iff.mp hnil]
    exact List.nil_prefix
  · exact trimRight_isPrefix _ t

theorem Trimmed.prefix_trim (hp : Trimmed p) (h : p <+: s) : p <+: trim s := by
  obtain ⟨t, rfl⟩ := h
  have hbegins := trim_isPrefix p t
  rwa [hp.trim_eq] at hbegins

theorem Trimmed.infix_trim (hp : Trimmed p) (h : p <:+: s) : p <:+: trim s := by
  obtain ⟨a, b, rfl⟩ := h
  have hlast : ∀ x : List Char, trimRight (x ++ p) = x ++ p := by
    intro x
    refine trimRight_eq_self ?_
    rw [List.getLast?_append_of_ne_nil _ hp.ne_nil]
    exact hp.last
  have hsuffix : p <:+ trim (a ++ p) := by
    unfold trim
    have hleft := trimLeft_eq_self hp.head
    unfold trimLeft at hleft ⊢
    rw [List.dropWhile_append, hleft]
    split
    · exact ⟨[], (trimRight_eq_self hp.last).symm⟩
    · rw [hlast]
      exact List.suffix_append _ p
  exact hsuffix.isInfix.trans (trim_isPrefix (a ++ p) b).isInfix

theorem trim_trimLeft (s : List Char) : trim (trimLeft s) = trim s := by
  unfold trim trimLeft
  rw [List.dropWhile_idempotent]

end BuildRepair.Text
