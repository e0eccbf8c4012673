import BuildRepair.Proofs.Repair.Greedy

/-
  A run recalls what the history of its repository knows: the first time it works on an error with
  some pattern, it takes the remedy that the history has for the pattern (`repair_recalls`). Nothing
  was tried for such an error before, since whatever was tried is remembered with the key of an
  earlier error, and errors with one key have one pattern. `Recalled` is the invariant of the run.
  The builder may be any, and the first remedies of other patterns need not be proper.
-/

namespace BuildRepair

open Rotation (entry)

/-- The error that iteration `n + 1` of a run works on, if there is one. -/
def RepairContext.target? (c : RepairContext) (n : Nat) : Option Diagnosis :=
  match c.builder c.call n with
  | .ok build => build.fault?
  | .error _ => none

/-- The error that iteration `n + 1` worked on in a run that was made, if there was one. -/
def RepairRun.target? (run : RepairRun) (builder : Builder) (n : Nat) : Option Diagnosis :=
  match run.calls[n]? with
  | some call =>
    match builder call n with
    | .ok build => build.fault?
    | .error _ => none
  | none => none

/-- Iteration `n + 1` is the first one that works on an error with a pattern. -/
def IsFirst (target? : Nat → Option Diagnosis) (pattern : String) (n : Nat) : Prop :=
  (∃ d, target? n = some d ∧ d.pattern = pattern) ∧
    ∀ k < n, ∀ d, target? k = some d → d.pattern ≠ pattern

theorem Rotation.mark_tried {s s' : Rotation} {d : Diagnosis} {r : Remedy}
    (h : s.mark d r = .ok s') : ∃ k, k.1 = d.key ∧ s'.tried = k :: s.tried := by
  obtain ⟨k, hk, rfl⟩ := map_eq_ok.mp h
  refine ⟨k, ?_, rfl⟩
  unfold keyOf at hk
  split at hk
  · cases hk
  · split at hk
    · cases hk
      rfl
    · cases hk

namespace RepairState

variable {c : RepairContext} {s u v : RepairState} {t : Tree} {m : Memory} {d : Diagnosis}
  {r q : Remedy} {pattern : String} {n : Nat} {e : Failure} {ending : StepEnd}

/-- The remedy in the history is chosen for an error for which it was not tried. -/
theorem choose_known (hk : (s.memory.history c.repo c.now).remedyFor d.pattern = some r)
    (hr : r.Proper) (hfresh : entry d r ∉ s.rotation.tried) :
    s.choose c d = .ok (some (r, true)) := by
  have hbest : s.memory.best c.repo d.pattern c.now = some r := by
    unfold Memory.best
    rw [hk]
    rfl
  unfold choose
  rw [hbest]
  rcases Rotation.hasTried_cases (s := s.rotation) (d := d) hr with ⟨-, htried⟩ | ⟨hno, -⟩
  · exact absurd htried hfresh
  · dsimp only
    rw [hno]

/-! ## Iterations that fail -/

theorem applyFor_failed (h : s.applyFor c d q = (u, .failed e)) : u.choices = s.choices := by
  unfold applyFor at h
  split at h
  · cases h
    rfl
  · dsimp only at h
    split at h <;> cases h <;> rfl

theorem treat_failed (h : s.treat c d = (u, .failed e)) : u.choices = s.choices := by
  unfold treat at h
  split at h
  · cases h
    rfl
  · cases h
  · next known _ =>
    rw [applyFor_failed h]
    cases known <;> rfl

/-- An iteration that fails has chosen no remedy that is reported. -/
theorem step_failed (h : s.step c = (u, .failed e)) : u.choices = s.choices := by
  rw [step_eq] at h
  split at h
  · cases h
    rfl
  · next build _ =>
    split at h
    · cases h
    · split at h
      · cases h
      · rw [treat_failed h, (compare_kept _).2.choices]
        exact (examined_idle build).choices

theorem Stepped.choices (h : Stepped c u v ending) (hv : u.step c = (v, ending))
    (hne : ending ≠ .next) : v.choices = u.choices := by
  cases h with
  | crashed _ _ hi => exact hi.choices
  | passed _ _ hi => exact hi.choices
  | unclear _ _ hi => exact hi.choices
  | exhausted => exact absurd rfl hne
  | treated => exact absurd rfl hne
  | stuck => exact step_failed hv

/-! ## The invariant of a run -/

/-- The first `n` iterations took a remedy the first time they worked on an error with some pattern,
and whatever they tried was for the errors they worked on. -/
structure Recalled (c : RepairContext) (pattern : String) (r : Remedy) (s : RepairState) (n : Nat) :
    Prop where
  bounded : ∀ q ∈ s.choices, q.1 ≤ n
  tried : ∀ k ∈ s.rotation.tried, ∃ i < n, ∃ d, c.target? i = some d ∧ k.1 = d.key
  recalled : ∀ i < n, IsFirst c.target? pattern i → remediesAt s.choices (i + 1) = [r]

/-- The remedy is chosen at the first error with its pattern. -/
theorem Recalled.choose (hrec : Recalled c pattern r u n) (hr : r.Proper)
    (hk : (u.memory.history c.repo c.now).remedyFor pattern = some r)
    (htarget : c.target? n = some d) (hfirst : IsFirst c.target? pattern n) :
    u.choose c d = .ok (some (r, true)) := by
  obtain ⟨⟨d', hd', hpattern⟩, hbefore⟩ := hfirst
  obtain rfl : d = d' := Option.some.inj (htarget.symm.trans hd')
  refine choose_known (hpattern ▸ hk) hr ?_
  intro htried
  obtain ⟨i, hi, d'', hd'', hkey⟩ := hrec.tried _ htried
  have hsame : d.pattern = d''.pattern := Diagnosis.pattern_eq_of_key hkey
  exact hbefore i hi d'' hd'' (hsame.symm.trans hpattern)

theorem target?_eq {build : BuildResult} (h : c.builder c.call n = .ok build) :
    c.target? n = build.fault? := by
  unfold RepairContext.target?
  rw [h]

theorem Recalled.next (hrec : Recalled c pattern r u n) (hn : u.iteration = n) (hr : r.Proper)
    (hk : (u.memory.history c.repo c.now).remedyFor pattern = some r)
    (hs : Stepped c u v .next) : Recalled c pattern r v (n + 1) := by
  subst hn
  have htried : ∀ k ∈ u.rotation.tried, ∃ i < u.iteration + 1, ∃ d,
      c.target? i = some d ∧ k.1 = d.key := by
    intro k hk
    obtain ⟨i, hi, hd⟩ := hrec.tried k hk
    exact ⟨i, by omega, hd⟩
  have hbounded : ∀ q ∈ u.choices, q.1 ≤ u.iteration + 1 := fun q hq => by
    have := hrec.bounded q hq
    omega
  cases hs with
  | exhausted build d ds _ hi hbuild hfail herr _ hc =>
    have htarget : c.target? u.iteration = some d :=
      (target?_eq hbuild).trans (BuildResult.fault?_eq_some hfail herr)
    rw [← hi.rotation] at htried
    rw [← hi.choices] at hbounded
    refine ⟨hbounded, htried, ?_⟩
    intro i hle hfirst
    rw [hi.choices]
    rcases Nat.lt_succ_iff_lt_or_eq.mp hle with hlt | rfl
    · exact hrec.recalled i hlt hfirst
    · cases hc.symm.trans (hrec.choose hr hk htarget hfirst)
  | treated build d ds q known a _ ht hbuild hfail herr _ hc =>
    have htarget : c.target? u.iteration = some d :=
      (target?_eq hbuild).trans (BuildResult.fault?_eq_some hfail herr)
    obtain ⟨k, hkey, hmarked⟩ := Rotation.mark_tried ht.marks
    refine ⟨?_, ?_, ?_⟩
    · rw [ht.choices, List.forall_mem_append, List.forall_mem_singleton]
      exact ⟨hbounded, Nat.le_refl _⟩
    · rw [hmarked, List.forall_mem_cons]
      exact ⟨⟨u.iteration, Nat.lt_succ_self _, d, htarget, hkey⟩, htried⟩
    · intro i hle hfirst
      rw [ht.choices]
      rcases Nat.lt_succ_iff_lt_or_eq.mp hle with hlt | rfl
      · rw [remediesAt_append fun p hp => by rw [List.mem_singleton.mp hp]; simp; omega]
        exact hrec.recalled i hlt hfirst
      · cases hc.symm.trans (hrec.choose hr hk htarget hfirst)
        have hold : remediesAt u.choices (u.iteration + 1) = [] :=
          remediesAt_of_lt fun p hp => Nat.lt_succ_of_le (hrec.bounded p hp)
        unfold remediesAt at hold ⊢
        rw [List.filter_append, List.map_append, hold]
        simp

theorem reaches_recalled (hr : r.Proper) (hk : (m.history c.repo c.now).remedyFor pattern = some r)
    (h : Reaches c (fresh t m) n u) : Recalled c pattern r u n := by
  induction h with
  | start => exact ⟨by simp [choices, fresh], by simp [fresh], by simp⟩
  | next n u v hreach hv ih =>
    obtain ⟨hmem, hiter, -⟩ := hreach.of_fresh
    exact ih.next hiter hr (hmem ▸ hk) (stepped_of_step hv)

/-- A run goes on from an iteration that chooses a proper remedy for its error. -/
theorem step_next {known : Bool} (htarget : c.target? s.iteration = some d)
    (hc : s.choose c d = .ok (some (r, known))) (hr : r.Proper) : (s.step c).2 = .next := by
  unfold RepairContext.target? at htarget
  rw [step_eq]
  split at htarget
  · next build hbuild =>
    unfold BuildResult.fault? at htarget
    split at htarget
    · cases htarget
    · next hpass =>
      obtain ⟨ds, hds⟩ := List.head?_eq_some_iff.mp htarget
      obtain ⟨hkept, hquiet⟩ := compare_kept (s.examined c build)
      have hmem := hkept.memory.trans (examined_counted (c := c) (s := s) build).memory
      have hrot := hquiet.rotation.trans (examined_idle (c := c) (s := s) build).rotation
      have hc' := (choose_congr (c := c) hmem hrot d).trans hc
      rw [hbuild]
      dsimp only
      rw [if_neg hpass, hds]
      dsimp only
      rcases treat_cases c (s.examined c build).compare d with
        ⟨u, hu, -⟩ | ⟨u, q, known, a, hu, -⟩ | ⟨u, e, -, -, ⟨e', he⟩ | ⟨q, known, hq, hbad⟩⟩
      · rw [hu]
      · rw [hu]
      · cases he.symm.trans hc'
      · cases hq.symm.trans hc'
        exact absurd hr hbad
  · cases htarget

/-- What a run has taken when it ended, in whatever way. -/
theorem iterate_recalled (hr : r.Proper)
    (hk : (m.history c.repo c.now).remedyFor pattern = some r) (k : Nat) :
    ∀ i < ((fresh t m).iterate c k).1.calls.length, IsFirst c.target? pattern i →
      remediesAt ((fresh t m).iterate c k).1.choices (i + 1) = [r] := by
  rcases iterate_cases c k (fresh t m) with ⟨u, hu, hreach⟩ | ⟨n, -, u, v, ending, hreach, hv, hne, hi⟩
  · obtain ⟨-, -, hcalls⟩ := hreach.of_fresh
    rw [hu, hcalls]
    exact (reaches_recalled hr hk hreach).recalled
  · obtain ⟨hmem, hiter, hcalls⟩ := hreach.of_fresh
    have hrec := reaches_recalled hr hk hreach
    have hstep := stepped_of_step hv
    -- the last iteration does not work on the first error with the pattern, or the run would go on
    have hlast : ¬ IsFirst c.target? pattern n := by
      intro hfirst
      obtain ⟨⟨d, hd, -⟩, -⟩ := id hfirst
      have hchoose := hrec.choose hr (hmem ▸ hk) hd hfirst
      rw [← hiter] at hd
      have hnext := step_next hd hchoose hr
      rw [hv] at hnext
      exact hne hnext
    rw [hi, hstep.build.1, List.length_append, hcalls, hstep.choices hv hne]
    intro i hle hfirst
    rcases Nat.lt_succ_iff_lt_or_eq.mp hle with hlt | rfl
    · exact hrec.recalled i hlt hfirst
    · exact absurd hfirst hlast

/-- A run asks for one and the same build. -/
theorem iterate_calls (c : RepairContext) (n : Nat) (s : RepairState)
    (h : ∀ call ∈ s.calls, call = c.call) : ∀ call ∈ (s.iterate c n).1.calls, call = c.call := by
  induction n generalizing s with
  | zero => exact h
  | succ n ih =>
    have hcalls := (step_cases c s).build.1
    have hnext : ∀ call ∈ (s.step c).1.calls, call = c.call := by
      rw [hcalls, List.forall_mem_append, List.forall_mem_singleton]
      exact ⟨h, rfl⟩
    unfold iterate
    split
    · next u hu =>
      rw [hu] at hnext
      exact ih u hnext
    · exact hnext

/-- The errors that a run worked on are those that its builds call for. -/
theorem run_target? (c : RepairContext) (t : Tree) (m : Memory) (n : Nat) :
    ((fresh t m).run c).target? c.builder n =
      if n < ((fresh t m).run c).calls.length then c.target? n else none := by
  unfold RepairRun.target?
  split
  · next call hcall =>
    obtain ⟨hn, hget⟩ := List.getElem?_eq_some_iff.mp hcall
    have hmem : call ∈ ((fresh t m).run c).calls := hget ▸ List.getElem_mem hn
    rw [(run_attempts c (fresh t m)).2] at hmem
    rw [if_pos hn, iterate_calls c _ _ (by simp [fresh]) call hmem]
    rfl
  · next hnone => rw [if_neg (Nat.not_lt.mpr (List.getElem?_eq_none_iff.mp hnone))]

/-- A run takes the remedy that its history has for a pattern at the first error with it. -/
theorem run_recalled (hr : r.Proper) (hk : (m.history c.repo c.now).remedyFor pattern = some r)
    (hfirst : IsFirst (((fresh t m).run c).target? c.builder) pattern n) :
    remediesAt ((fresh t m).run c).choices (n + 1) = [r] := by
  obtain ⟨⟨d, hd, hpattern⟩, hbefore⟩ := hfirst
  rw [run_target?] at hd
  split at hd
  · next hn =>
    have hfirst : IsFirst c.target? pattern n := by
      refine ⟨⟨d, hd, hpattern⟩, ?_⟩
      intro k hlt d' hd'
      refine hbefore k hlt d' ?_
      rw [run_target?, if_pos (Nat.lt_trans hlt hn), hd']
    obtain ⟨hattempts, hcalls⟩ := run_attempts c (fresh t m)
    rw [hcalls] at hn
    unfold RepairRun.choices
    rw [hattempts]
    exact iterate_recalled hr hk _ n hn hfirst
  · cases hd

end RepairState

/-- The first time a run works on an error with some pattern, it takes the remedy that the history
has for the pattern after loading. -/
theorem repair_recalls {repo pattern : String} {r : Remedy} {n : Nat} (o : RepairOptions)
    (builder : Builder) (now : Timestamp) (t : Tree) (m : Memory) (hr : r.Proper)
    (hk : ((m.load t repo).1.history repo now).remedyFor pattern = some r)
    (hfirst : IsFirst ((repair repo o builder now t m).target? builder) pattern n) :
    remediesAt (repair repo o builder now t m).choices (n + 1) = [r] := by
  -- a run that does not begin works on no error
  have hnone {run : RepairRun} (hcalls : run.calls = [])
      (h : IsFirst (run.target? builder) pattern n) : False := by
    obtain ⟨⟨d, hd, -⟩, -⟩ := h
    unfold RepairRun.target? at hd
    rw [hcalls] at hd
    cases hd
  rcases repair_cases repo o builder now t m with
    ⟨_, -, h⟩ | ⟨_, -, ⟨_, -, h⟩ | ⟨manager, -, ⟨-, h⟩ | ⟨command, -, h⟩⟩⟩
  · rw [h] at hfirst
    exact (hnone rfl hfirst).elim
  · rw [h] at hfirst
    exact (hnone rfl hfirst).elim
  · rw [h] at hfirst
    exact (hnone rfl hfirst).elim
  · rw [h] at hfirst ⊢
    let c := o.context repo manager command builder now
    refine RepairState.run_recalled (c := c) hr ?_ hfirst
    rw [← hk]
    exact congrArg (·.remedyFor pattern) (Memory.history_opened repo)

end BuildRepair
