import BuildRepair.Proofs.History.Room
import BuildRepair.Proofs.Remedy.Effect
import BuildRepair.Proofs.Repair.Step

/-
  The fixes that a run has applied, and their recording. Recording fixes respects what memories
  remember (`Memory.Agrees.recordFixes`) and takes room for as many successes as there are fixes
  (`Memory.hasRoom_recordFixes`). A run with a memory of proper remedies applies at most one fix an
  iteration, and reports proper remedies only (`Reaches.applied`).
-/

namespace BuildRepair

/-! ## Recording fixes -/

namespace Memory

variable {m n : Memory} {repo : String} {now : Timestamp} {k : Nat}

/-- A memory after fixes for a repository were recorded in order. -/
def recordFixes (m : Memory) (repo : String) (now : Timestamp) (fixes : List AppliedFix) :
    Memory :=
  fixes.foldl (fun m f => m.record repo f.fault.pattern f.result.remedy now) m

theorem Agrees.recordFixes (h : m.Agrees now n) (repo : String) (fixes : List AppliedFix) :
    (m.recordFixes repo now fixes).Agrees now (n.recordFixes repo now fixes) := by
  induction fixes generalizing m n with
  | nil => exact h
  | cons f fixes ih => exact ih h.record

theorem base_recordFixes (m : Memory) (repo : String) (now : Timestamp)
    (fixes : List AppliedFix) : (m.recordFixes repo now fixes).base = m.base := by
  induction fixes generalizing m with
  | nil => rfl
  | cons f fixes ih => exact ih _

theorem hasRoom_recordFixes {fixes : List AppliedFix}
    (hfixes : ∀ f ∈ fixes, f.result.remedy.Proper) (hk : k + fixes.length < History.countLimit)
    (hroom : (m.history repo now).HasRoom (k + fixes.length)) :
    ((m.recordFixes repo now fixes).history repo now).HasRoom k := by
  induction fixes generalizing m with
  | nil => exact hroom
  | cons f fixes ih =>
    rw [List.forall_mem_cons] at hfixes
    rw [List.length_cons] at hk hroom
    refine ih hfixes.2 (by omega) ?_
    rw [history_record, if_pos rfl]
    exact hroom.record hfixes.1 (by omega)

end Memory

namespace RepairState

variable {c : RepairContext} {t : Tree} {m : Memory} {u : RepairState} {n : Nat}

theorem recordAll_eq (c : RepairContext) (applied : List AppliedFix) (m : Memory) :
    recordAll c applied m = m.recordFixes c.repo c.now (applied.filter (·.result.success)) := by
  unfold recordAll Memory.recordFixes
  rw [List.foldl_filter]

/-! ## The fixes of a run -/

theorem Reaches.applied (hm : m.Proper) (h : Reaches c (fresh t m) n u) :
    u.applied.length ≤ n ∧ ∀ f ∈ u.applied, f.result.remedy.Proper := by
  induction h with
  | start => exact ⟨Nat.le_refl 0, fun f hf => by cases hf⟩
  | next n u v hr hv ih =>
    obtain ⟨hlen, hproper⟩ := ih
    cases stepped_of_step hv with
    | exhausted build d ds _ hi =>
      rw [hi.applied]
      exact ⟨Nat.le_succ_of_le hlen, hproper⟩
    | treated build d ds r known a _ ht _ _ _ _ hchoose =>
      obtain ⟨hmem, -, -⟩ := hr.of_fresh
      obtain ⟨chosen, hc, hfirst⟩ := choose_spec (c := c) (hmem ▸ hm : u.memory.Proper) d
      cases hchoose.symm.trans hc
      rw [hmem] at hfirst
      have hnew : a.remedy.Proper := (hm.candidates _ hfirst.mem).of_apply ht.applies
      rw [ht.applied]
      refine ⟨?_, ?_⟩
      · rw [List.length_append, List.length_singleton]
        omega
      · intro f hf
        rcases List.mem_append.mp hf with hf | hf
        · exact hproper f hf
        · rw [List.mem_singleton.mp hf]
          exact hnew

theorem reaches_of_iterate (h : (fresh t m).iterate c n = (u, .next)) :
    Reaches c (fresh t m) n u := by
  rcases iterate_cases c n (fresh t m) with ⟨v, hv, hr⟩ | ⟨_, -, _, _, ending, -, -, hne, hi⟩
  · cases h.symm.trans hv
    exact hr
  · cases h.symm.trans hi
    exact absurd rfl hne

end RepairState

end BuildRepair
