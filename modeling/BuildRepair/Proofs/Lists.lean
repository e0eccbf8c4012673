import Mathlib.Data.List.Induction
import Mathlib.Data.List.Nodup

/-
  Lists by the first occurrences of their items. `eraseDups` keeps these, in their order
  (`pairwise_idxOf_eraseDups`). A stable sort moves an item past another one only where the order
  asks for it (`pairwise_mergeSort_stable`).
-/

namespace BuildRepair

variable {α : Type u}

section FirstOccurrences

variable [BEq α] [LawfulBEq α]

/-- A further item stays if it is new. -/
theorem eraseDups_concat (l : List α) (a : α) [Decidable (a ∈ l)] :
    (l ++ [a]).eraseDups = if a ∈ l then l.eraseDups else l.eraseDups ++ [a] := by
  rw [List.eraseDups_append]
  by_cases ha : a ∈ l
  · simp [List.removeAll, ha]
  · simp [List.removeAll, ha, List.eraseDups_cons]

theorem nodup_eraseDups (l : List α) : l.eraseDups.Nodup := by
  classical
  induction l using List.reverseRecOn with
  | nil => simp
  | append_singleton l a ih =>
    rw [eraseDups_concat]
    split
    · exact ih
    · next ha =>
      rw [← List.concat_eq_append]
      exact ih.concat fun hmem => ha (List.mem_eraseDups.mp hmem)

/-- What is left comes in the order of first occurrences. -/
theorem pairwise_idxOf_eraseDups (l : List α) :
    l.eraseDups.Pairwise fun a b => l.idxOf a < l.idxOf b := by
  classical
  induction l using List.reverseRecOn with
  | nil => simp
  | append_singleton l a ih =>
    -- an item that was there has its first occurrence still
    have hold : l.eraseDups.Pairwise fun x y => (l ++ [a]).idxOf x < (l ++ [a]).idxOf y := by
      refine ih.imp_of_mem ?_
      intro x y hx hy hxy
      rw [List.idxOf_append_of_mem (List.mem_eraseDups.mp hx),
        List.idxOf_append_of_mem (List.mem_eraseDups.mp hy)]
      exact hxy
    rw [eraseDups_concat]
    split
    · exact hold
    · next ha =>
      rw [List.pairwise_append]
      refine ⟨hold, List.pairwise_singleton _ _, ?_⟩
      intro x hx y hy
      rw [List.mem_singleton.mp hy, List.idxOf_append_of_mem (List.mem_eraseDups.mp hx),
        List.idxOf_append_of_notMem ha]
      have := List.idxOf_lt_length_iff.mpr (List.mem_eraseDups.mp hx)
      omega

end FirstOccurrences

/-- Sorted items are in order, and those that could stand either way stand as they stood. -/
theorem pairwise_mergeSort_stable {le : α → α → Bool} {R : α → α → Prop} {l : List α}
    (htrans : ∀ a b c, le a b → le b c → le a c) (htotal : ∀ a b, le a b || le b a)
    (h : l.Pairwise R) :
    (l.mergeSort le).Pairwise fun a b => le a b = true ∧ (le b a = true → R a b) := by
  induction l with
  | nil => simp
  | cons a l ih =>
    rw [List.pairwise_cons] at h
    have hsorted := List.pairwise_mergeSort htrans htotal (a :: l)
    obtain ⟨before, after, hal, hl, hbefore⟩ := List.mergeSort_cons htrans htotal a l
    have ih := ih h.2
    rw [hal] at hsorted ⊢
    rw [hl, List.pairwise_append] at ih
    obtain ⟨hb, hafter, hcross⟩ := ih
    rw [List.pairwise_append, List.pairwise_cons] at hsorted ⊢
    refine ⟨hb, ⟨?_, hafter⟩, ?_⟩
    · intro c hc
      have hmem : c ∈ l := by
        have hmem : c ∈ l.mergeSort le := by
          rw [hl]
          exact List.mem_append_right _ hc
        exact List.mem_mergeSort.mp hmem
      exact ⟨hsorted.2.1.1 c hc, fun _ => h.1 c hmem⟩
    · intro b hb' c hc
      rcases List.mem_cons.mp hc with rfl | hc
      · refine ⟨hsorted.2.2 b hb' c (List.mem_cons_self ..), fun hle => ?_⟩
        have := hbefore b hb'
        simp [hle] at this
      · exact hcross b hb' c hc

end BuildRepair
