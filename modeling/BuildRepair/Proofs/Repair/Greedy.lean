import BuildRepair.Proofs.Repair.Step

/-
  The remedies of a whole run, over builds that are known beforehand, are those of a greedy rule
  (`repair_greedy`). An iteration whose build fails with an error to work on takes the first of the
  error's candidates that no earlier iteration took for the same error, and takes none exactly when
  all of them were taken. So no remedy is taken twice for one error, in whatever order the errors
  come.

  The candidates are fixed by the memory at the start of the run. What was taken is read off the
  attempts that the run reports (`entriesUpTo`), and the rotation's own record is shown to agree with
  them. `Greedy` is the invariant of the run, and `Greedy.next` its one step.
-/

namespace BuildRepair

open Rotation (entry IsFirstUntried)

/-! ## What a run chose -/

/-- The remedies of some choices that were made in iteration `n`. -/
def remediesAt (choices : List (Nat × Remedy)) (n : Nat) : List Remedy :=
  (choices.filter (·.1 == n)).map (·.2)

/-- The errors and remedies of some choices, if iteration `n + 1` had the result `builds n`. -/
def entriesOf (builds : Nat → BuildResult) (choices : List (Nat × Remedy)) : List Rotation.Entry :=
  choices.filterMap fun p => (builds (p.1 - 1)).fault?.map (entry · p.2)

/-- The errors and remedies that the first `n` iterations chose. -/
def entriesUpTo (builds : Nat → BuildResult) (choices : List (Nat × Remedy)) (n : Nat) :
    List Rotation.Entry :=
  entriesOf builds (choices.filter (·.1 ≤ n))

/-- Iteration `n + 1` follows the greedy rule: for an error it takes the first candidate that was
not taken before, if there is one, and nothing else. -/
def GreedyAt (builds : Nat → BuildResult) (candidates : Diagnosis → List Remedy)
    (choices : List (Nat × Remedy)) (n : Nat) : Prop :=
  match (builds n).fault? with
  | some d => ∃ chosen, remediesAt choices (n + 1) = chosen.toList ∧
      IsFirstUntried (entriesUpTo builds choices n) d (candidates d) chosen
  | none => remediesAt choices (n + 1) = []

variable {builds : Nat → BuildResult} {candidates : Diagnosis → List Remedy}
  {choices later : List (Nat × Remedy)} {d : Diagnosis} {r : Remedy} {chosen : Option Remedy}
  {i n : Nat}

/-! ## Choices that come later -/

theorem filter_append_later {p : Nat × Remedy → Bool} (h : ∀ q ∈ later, p q = false) :
    (choices ++ later).filter p = choices.filter p := by
  have hnil : later.filter p = [] := List.filter_eq_nil_iff.mpr (by simpa using h)
  rw [List.filter_append, hnil, List.append_nil]

theorem remediesAt_append (h : ∀ q ∈ later, i ≠ q.1) :
    remediesAt (choices ++ later) i = remediesAt choices i := by
  unfold remediesAt
  rw [filter_append_later]
  intro q hq
  simpa using Ne.symm (h q hq)

theorem entriesUpTo_append (h : ∀ q ∈ later, i < q.1) :
    entriesUpTo builds (choices ++ later) i = entriesUpTo builds choices i := by
  unfold entriesUpTo
  rw [filter_append_later]
  intro q hq
  have := h q hq
  simp only [decide_eq_false_iff_not]
  omega

theorem entriesUpTo_of_le (h : ∀ q ∈ choices, q.1 ≤ i) :
    entriesUpTo builds choices i = entriesOf builds choices := by
  unfold entriesUpTo
  rw [List.filter_eq_self.mpr (by simpa using h)]

theorem remediesAt_of_lt (h : ∀ q ∈ choices, q.1 < i) : remediesAt choices i = [] := by
  unfold remediesAt
  rw [List.filter_eq_nil_iff.mpr, List.map_nil]
  intro q hq
  have := h q hq
  simp only [beq_iff_eq]
  omega

theorem GreedyAt.append (h : GreedyAt builds candidates choices i) (hl : ∀ q ∈ later, i + 1 < q.1) :
    GreedyAt builds candidates (choices ++ later) i := by
  unfold GreedyAt at *
  rw [remediesAt_append fun q hq => by have := hl q hq; omega,
    entriesUpTo_append fun q hq => by have := hl q hq; omega]
  exact h

/-! ## The invariant of a run -/

/-- The choices of `n` iterations follow the greedy rule. -/
structure Greedy (builds : Nat → BuildResult) (candidates : Diagnosis → List Remedy)
    (choices : List (Nat × Remedy)) (n : Nat) : Prop where
  bounded : ∀ q ∈ choices, q.1 ≤ n
  rule : ∀ i < n, GreedyAt builds candidates choices i
  nodup : (entriesOf builds choices).Nodup

theorem entriesOf_append (choices later : List (Nat × Remedy)) :
    entriesOf builds (choices ++ later) = entriesOf builds choices ++ entriesOf builds later :=
  List.filterMap_append ..

/-- The choice of iteration `n + 1`, which may be none. -/
def choiceAt (n : Nat) (chosen : Option Remedy) : List (Nat × Remedy) :=
  chosen.toList.map (n + 1, ·)

theorem mem_choiceAt {q : Nat × Remedy} (h : q ∈ choiceAt n chosen) : q.1 = n + 1 := by
  obtain ⟨r, -, rfl⟩ := List.mem_map.mp h
  rfl

theorem remediesAt_choiceAt (n : Nat) (chosen : Option Remedy) :
    remediesAt (choiceAt n chosen) (n + 1) = chosen.toList := by
  cases chosen <;> simp [remediesAt, choiceAt]

theorem entriesOf_choiceAt (hd : (builds n).fault? = some d) :
    entriesOf builds (choiceAt n (some r)) = [entry d r] := by
  simp [entriesOf, choiceAt, hd]

/-- One more iteration: the first untried candidate of its error, or nothing without an error. -/
theorem Greedy.next (chosen : Option Remedy) (h : Greedy builds candidates choices n)
    (hfault : ∀ d, (builds n).fault? = some d →
      IsFirstUntried (entriesOf builds choices) d (candidates d) chosen)
    (hnone : (builds n).fault? = none → chosen = none) :
    Greedy builds candidates (choices ++ choiceAt n chosen) (n + 1) := by
  refine ⟨?_, ?_, ?_⟩
  · intro q hq
    rcases List.mem_append.mp hq with hq | hq
    · have := h.bounded q hq
      omega
    · exact Nat.le_of_eq (mem_choiceAt hq)
  · intro i hi
    rcases Nat.lt_succ_iff_lt_or_eq.mp hi with hi | rfl
    · refine (h.rule i hi).append ?_
      intro q hq
      rw [mem_choiceAt hq]
      omega
    · -- the new choice is all that iteration took, and came after all the others
      have hat : remediesAt (choices ++ choiceAt i chosen) (i + 1) = chosen.toList := by
        have hold : remediesAt choices (i + 1) = [] :=
          remediesAt_of_lt fun q hq => Nat.lt_succ_of_le (h.bounded q hq)
        have happend : remediesAt (choices ++ choiceAt i chosen) (i + 1) =
            remediesAt choices (i + 1) ++ remediesAt (choiceAt i chosen) (i + 1) := by
          simp [remediesAt]
        rw [happend, hold, remediesAt_choiceAt, List.nil_append]
      unfold GreedyAt
      cases hf : (builds i).fault? with
      | none =>
        rw [hat, hnone hf]
        rfl
      | some d =>
        refine ⟨chosen, hat, ?_⟩
        rw [entriesUpTo_append fun q hq => by rw [mem_choiceAt hq]; omega,
          entriesUpTo_of_le h.bounded]
        exact hfault d hf
  · rw [entriesOf_append]
    cases chosen with
    | none => simpa [choiceAt, entriesOf] using h.nodup
    | some r =>
      cases hf : (builds n).fault? with
      | none => cases hnone hf
      | some d =>
        rw [entriesOf_choiceAt hf, List.nodup_append]
        refine ⟨h.nodup, by simp, ?_⟩
        intro k hk j hj
        rw [List.mem_singleton] at hj
        rintro rfl
        exact (hfault d hf).fresh (hj ▸ hk)

/-! ## Whole runs -/

namespace RepairState

variable {c : RepairContext} {t : Tree} {m : Memory} {u v : RepairState}

/-- What an iteration asked for, if the builds are known beforehand. -/
theorem build_eq (hb : c.builder = .scripted builds) {n : Nat} {build : BuildResult}
    (h : c.builder c.call n = .ok build) : build = builds n := by
  rw [hb] at h
  cases h
  rfl

/-- An iteration that goes on follows the greedy rule, and the rotation takes note of it. -/
theorem step_greedy (hm : u.memory.Proper) (hb : c.builder = .scripted builds)
    (hg : Greedy builds (u.memory.candidates c.repo c.now) u.choices u.iteration)
    (ht : u.rotation.tried = (entriesOf builds u.choices).reverse) (hs : Stepped c u v .next) :
    Greedy builds (u.memory.candidates c.repo c.now) v.choices (u.iteration + 1) ∧
      v.rotation.tried = (entriesOf builds v.choices).reverse := by
  have hfirst : ∀ d chosen, u.choose c d = .ok chosen →
      IsFirstUntried (entriesOf builds u.choices) d (u.memory.candidates c.repo c.now d)
        (chosen.map Prod.fst) := by
    intro d chosen hc
    obtain ⟨chosen', hc', hf⟩ := choose_spec (c := c) hm d
    cases hc.symm.trans hc'
    exact hf.congr fun k => by rw [ht, List.mem_reverse]
  cases hs with
  | exhausted build d ds _ hi hbuild hfail herr _ hc =>
    cases build_eq hb hbuild
    have hfault := BuildResult.fault?_eq_some hfail herr
    have hnext := hg.next none (fun d' hd' => by
      cases hfault.symm.trans hd'
      exact hfirst d none hc) (fun _ => rfl)
    rw [hi.choices, hi.rotation]
    exact ⟨by simpa [choiceAt] using hnext, ht⟩
  | treated build d ds r known a _ htr hbuild hfail herr _ hc =>
    cases build_eq hb hbuild
    have hfault := BuildResult.fault?_eq_some hfail herr
    have hnext := hg.next (some r) (fun d' hd' => by
      cases hfault.symm.trans hd'
      exact hfirst d _ hc) (fun hn => by cases hn.symm.trans hfault)
    have hr : r.Proper := hm.candidates _ (hfirst d _ hc).mem
    have hmark := htr.marks
    rw [Rotation.mark_eq hr] at hmark
    have hrot : v.rotation.tried = entry d r :: u.rotation.tried :=
      congrArg Rotation.tried (Except.ok.inj hmark).symm
    have hchoices : v.choices = u.choices ++ choiceAt u.iteration (some r) := htr.choices
    rw [hchoices, hrot, entriesOf_append, entriesOf_choiceAt hfault, List.reverse_append, ht]
    exact ⟨hnext, rfl⟩

theorem reaches_greedy (hm : m.Proper) (hb : c.builder = .scripted builds)
    (h : Reaches c (fresh t m) n u) :
    Greedy builds (m.candidates c.repo c.now) u.choices n ∧
      u.rotation.tried = (entriesOf builds u.choices).reverse := by
  induction h with
  | start => exact ⟨⟨by simp [choices, fresh], by simp, List.nodup_nil⟩, rfl⟩
  | next n u v hr hv ih =>
    obtain ⟨hmem, hiter, -⟩ := hr.of_fresh
    rw [← hmem] at ih ⊢
    rw [← hiter] at ih ⊢
    exact step_greedy (hmem ▸ hm) hb ih.1 ih.2 (stepped_of_step hv)

/-- All iterations follow the greedy rule, the last one included. -/
theorem iterate_greedy (hm : m.Proper) (hb : c.builder = .scripted builds) (k : Nat) :
    Greedy builds (m.candidates c.repo c.now) ((fresh t m).iterate c k).1.choices
      ((fresh t m).iterate c k).1.calls.length := by
  rcases iterate_cases c k (fresh t m) with ⟨u, hu, hr⟩ | ⟨n, -, u, v, ending, hr, hv, hne, hi⟩
  · obtain ⟨-, -, hcalls⟩ := hr.of_fresh
    rw [hu, hcalls]
    exact (reaches_greedy hm hb hr).1
  · obtain ⟨hg, -⟩ := reaches_greedy hm hb hr
    obtain ⟨hmem, hiter, hcalls⟩ := hr.of_fresh
    -- the last iteration has no error, so it takes nothing
    have hlast : ∀ v : RepairState, Counted c u v → Idle u v → (builds n).fault? = none →
        Greedy builds (m.candidates c.repo c.now) v.choices v.calls.length := by
      intro v hcount hidle hnone
      have hnext := hg.next none (fun d hd => by cases hnone.symm.trans hd) (fun _ => rfl)
      rw [hcount.calls, List.length_append, hcalls, hidle.choices]
      simpa [choiceAt] using hnext
    rw [hi]
    cases stepped_of_step hv with
    | crashed e _ _ hbuild =>
      rw [hb] at hbuild
      cases hbuild
    | passed build hcount hidle hbuild hpass =>
      cases build_eq hb hbuild
      refine hlast v hcount hidle ?_
      rw [hiter] at hpass
      rw [BuildResult.fault?, if_pos hpass]
    | unclear build hcount hidle hbuild hfail herr =>
      cases build_eq hb hbuild
      refine hlast v hcount hidle ?_
      rw [hiter] at hfail herr
      rw [BuildResult.fault?, hfail, herr]
      rfl
    | exhausted => exact absurd rfl hne
    | treated => exact absurd rfl hne
    | stuck _ e d _ _ _ hstuck => exact absurd hstuck (not_stuck (hmem ▸ hm))

theorem run_greedy (hm : m.Proper) (hb : c.builder = .scripted builds) :
    Greedy builds (m.candidates c.repo c.now) ((fresh t m).run c).choices
      ((fresh t m).run c).calls.length := by
  obtain ⟨hattempts, hcalls⟩ := run_attempts c (fresh t m)
  unfold RepairRun.choices
  rw [hattempts, hcalls]
  exact iterate_greedy hm hb _

end RepairState

/-- For every run over known builds, started with a memory of proper remedies, each iteration whose
build fails with an error to work on takes the first candidate for this error that no earlier
iteration took for it, or nothing when all were taken. No remedy is taken twice for one error. -/
theorem repair_greedy (repo : String) (o : RepairOptions) (builds : Nat → BuildResult)
    (now : Timestamp) (t : Tree) (m : Memory) (hm : (m.load t repo).1.Proper) :
    let run := repair repo o (.scripted builds) now t m
    (∀ i < run.calls.length,
      GreedyAt builds ((m.load t repo).1.candidates repo now) run.choices i) ∧
    (entriesUpTo builds run.choices run.calls.length).Nodup := by
  have hrun : Greedy builds ((m.load t repo).1.candidates repo now)
      (repair repo o (.scripted builds) now t m).choices
      (repair repo o (.scripted builds) now t m).calls.length := by
    have hnone : Greedy builds ((m.load t repo).1.candidates repo now) [] 0 :=
      ⟨by simp, by simp, List.nodup_nil⟩
    rcases repair_cases repo o (.scripted builds) now t m with
      ⟨_, -, h⟩ | ⟨_, -, ⟨_, -, h⟩ | ⟨manager, -, ⟨-, h⟩ | ⟨command, -, h⟩⟩⟩
    · rw [h]
      exact hnone
    · rw [h]
      exact hnone
    · rw [h]
      exact hnone
    · have hopened : ((m.load t repo).1.opened repo now).candidates repo now =
          (m.load t repo).1.candidates repo now := funext Memory.candidates_opened
      rw [h, ← hopened]
      let c := o.context repo manager command (.scripted builds) now
      exact RepairState.run_greedy (c := c) hm.opened rfl
  intro run
  have hrule := hrun.rule
  have hnodup := hrun.nodup
  rw [← entriesUpTo_of_le hrun.bounded] at hnodup
  exact ⟨hrule, hnodup⟩

/-! ## A run with a known remedy -/

/-- A memory that knows a remedy for packages that are not found. -/
def lockfileMemory : Memory :=
  { histories := [("app", { repo := .str "app", lastRun := default, fixes := [
      ⟨.str "dependency_not_found:none", .removeLockfile (.str "yarn.lock"), 1, default⟩] })] }

theorem lockfileMemory_proper : lockfileMemory.Proper := by
  refine .of_fixes (fun f hf => ?_) "app"
  cases List.mem_singleton.mp hf
  exact .removeLockfile "yarn.lock"

/-- A build that misses a package. -/
def notFoundBuild : BuildResult := ⟨false, 1, "", "E404"⟩

/-- A run of some iterations that never finds the package. -/
def lockfileRun (limit : Int) (t : Tree) : RepairRun :=
  repair "app" { maxIterations := some limit, manager := "npm", command := some "build" }
    (.scripted fun _ => notFoundBuild) default t lockfileMemory

/-- The known remedy comes first, then those that the error calls for. -/
theorem lockfileRun_greedy :
    (lockfileMemory.load {} "app").1.Proper ∧
    (lockfileRun 3 {}).choices.map (fun p => (p.1, p.2.inWords)) =
      [(1, "Remove yarn.lock for a fresh resolution"),
        (2, "Remove package-lock.json for a fresh resolution"),
        (3, "Enable legacy-peer-deps in .npmrc")] ∧
    (∀ i < (lockfileRun 3 {}).calls.length,
      GreedyAt (fun _ => notFoundBuild) ((lockfileMemory.load {} "app").1.candidates "app" default)
        (lockfileRun 3 {}).choices i) ∧
    (entriesUpTo (fun _ => notFoundBuild) (lockfileRun 3 {}).choices
      (lockfileRun 3 {}).calls.length).Nodup :=
  ⟨lockfileMemory_proper, by decide +kernel,
    repair_greedy _ _ _ _ _ lockfileMemory lockfileMemory_proper⟩

end BuildRepair
