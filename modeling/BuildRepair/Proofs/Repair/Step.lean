import BuildRepair.Proofs.Remedy.Total
import BuildRepair.Proofs.Repair.Choice
import BuildRepair.Repair.Run

/-
  What one iteration of a run can do (`step_cases`), and which states a run passes through.

  `Stepped c s u ending`: from `s` an iteration goes to `u` and ends so. Its constructors are all
  that can happen: the builder fails, the build passes, the build fails without errors to work on,
  every candidate was tried, a remedy is applied, or the treatment fails. The last one takes a
  remedy that is not proper (`not_stuck`).

  `Reaches c s n u`: after `n` iterations that went on, a run from `s` is at `u`. A loop over
  iterations spends all of them or stops at the first one that does not go on (`iterate_cases`).
  What iterations without a remedy and treatments keep holds when the loop has ended
  (`iterate_induction`), and a run that reports has that state to report from (`run_ok`).
-/

namespace BuildRepair

/-- The errors that can be told apart in what a build printed, the most urgent one first. -/
def BuildResult.errors (b : BuildResult) : List Diagnosis := Diagnosis.ofStreams b.out b.err

/-- The error that a failed build is repaired for; none if the build passed or if no error can be
told apart. -/
def BuildResult.fault? (b : BuildResult) : Option Diagnosis :=
  if b.success then none else b.errors.head?

theorem BuildResult.fault?_eq_some {b : BuildResult} {d : Diagnosis} {ds : List Diagnosis}
    (hs : b.success = false) (he : b.errors = d :: ds) : b.fault? = some d := by
  unfold fault?
  rw [hs, he]
  rfl

/-- What tells a remedy chosen in a run from the others: its iteration and the remedy. -/
def FixAttempt.choice (a : FixAttempt) : Nat × Remedy := (a.iteration, a.remedy)

/-- Settling an attempt changes nothing but the number of errors after it. -/
theorem map_settleLast {β : Type} {f : FixAttempt → β}
    (hf : ∀ a m, f { a with after := m } = f a) (n : Nat) (as : List FixAttempt) :
    (settleLast n as).map f = as.map f := by
  induction as with
  | nil => rfl
  | cons a as ih =>
    cases as with
    | nil => exact congrArg (· :: []) (hf a n)
    | cons b as =>
      show f a :: (settleLast n (b :: as)).map f = _
      rw [ih]
      rfl

theorem map_choice_settleLast (n : Nat) (as : List FixAttempt) :
    (settleLast n as).map FixAttempt.choice = as.map FixAttempt.choice :=
  map_settleLast (fun _ _ => rfl) n as

namespace RepairState

variable {c : RepairContext} {s u v : RepairState} {d : Diagnosis} {r : Remedy} {a : Application}
  {i n : Nat} {ending : StepEnd} {e : Failure}

/-- The remedies chosen so far, each with its iteration. -/
def choices (s : RepairState) : List (Nat × Remedy) := s.attempts.map FixAttempt.choice

/-! ## One iteration -/

/-- An iteration has begun and its build was asked for. -/
structure Counted (c : RepairContext) (s u : RepairState) : Prop where
  memory : u.memory = s.memory
  iteration : u.iteration = s.iteration + 1
  calls : u.calls = s.calls ++ [c.call]

/-- No remedy was chosen between two states. -/
structure Idle (s u : RepairState) : Prop where
  tree : u.tree = s.tree
  rotation : u.rotation = s.rotation
  applied : u.applied = s.applied
  choices : u.choices = s.choices

/-- Between two states a remedy was chosen for an error in iteration `i` and applied. -/
structure Treated (c : RepairContext) (i : Nat) (s u : RepairState) (d : Diagnosis) (r : Remedy)
    (a : Application) : Prop where
  applies : r.apply s.tree (.ofString c.repo) = .ok (u.tree, a)
  marks : s.rotation.mark d r = .ok u.rotation
  applied : u.applied = s.applied ++ [⟨i, d, a⟩]
  choices : u.choices = s.choices ++ [(i, r)]

/-- An error cannot be treated: the choice fails, or it falls on a remedy that is not proper. -/
def Stuck (c : RepairContext) (s : RepairState) (d : Diagnosis) : Prop :=
  (∃ e, s.choose c d = .error e) ∨ ∃ r known, s.choose c d = .ok (some (r, known)) ∧ ¬ r.Proper

/-- All that an iteration can do. -/
inductive Stepped (c : RepairContext) (s : RepairState) : RepairState → StepEnd → Prop
  | crashed (u : RepairState) (e : Failure) : Counted c s u → Idle s u →
      c.builder c.call s.iteration = .error e → Stepped c s u (.failed e)
  | passed (u : RepairState) (build : BuildResult) : Counted c s u → Idle s u →
      c.builder c.call s.iteration = .ok build → build.success = true →
      Stepped c s u (.succeeded build)
  | unclear (u : RepairState) (build : BuildResult) : Counted c s u → Idle s u →
      c.builder c.call s.iteration = .ok build → build.success = false → build.errors = [] →
      u.errors = [] → Stepped c s u .unparsable
  | exhausted (u : RepairState) (build : BuildResult) (d : Diagnosis) (ds : List Diagnosis) :
      Counted c s u → Idle s u → c.builder c.call s.iteration = .ok build →
      build.success = false → build.errors = d :: ds → u.errors = d :: ds →
      s.choose c d = .ok none → Stepped c s u .next
  | treated (u : RepairState) (build : BuildResult) (d : Diagnosis) (ds : List Diagnosis)
      (r : Remedy) (known : Bool) (a : Application) :
      Counted c s u → Treated c (s.iteration + 1) s u d r a →
      c.builder c.call s.iteration = .ok build → build.success = false → build.errors = d :: ds →
      u.errors = d :: ds → s.choose c d = .ok (some (r, known)) → Stepped c s u .next
  | stuck (u : RepairState) (build : BuildResult) (e : Failure) (d : Diagnosis) :
      u.calls = s.calls ++ [c.call] → c.builder c.call s.iteration = .ok build →
      build.success = false → Stuck c s d → Stepped c s u (.failed e)

/-- A choice depends on the memory and the rotation only. -/
theorem choose_congr (hm : u.memory = s.memory) (hr : u.rotation = s.rotation) (d : Diagnosis) :
    u.choose c d = s.choose c d := by
  unfold choose fromRotation
  rw [hm, hr]

/-- Two states that differ at most in what is told of the run and in the remedies chosen. -/
structure Kept (s u : RepairState) : Prop where
  memory : u.memory = s.memory
  iteration : u.iteration = s.iteration
  calls : u.calls = s.calls
  errors : u.errors = s.errors

theorem applyFor_cases (c : RepairContext) (s : RepairState) (d : Diagnosis) (r : Remedy) :
    (∃ u a, s.applyFor c d r = (u, .next) ∧ Kept s u ∧ Treated c s.iteration s u d r a) ∨
      ∃ u e, s.applyFor c d r = (u, .failed e) ∧ u.calls = s.calls ∧ ¬ r.Proper := by
  unfold applyFor
  split
  · next hd =>
    refine .inr ⟨_, _, rfl, rfl, ?_⟩
    intro hr
    cases hd.symm.trans hr.describe_eq
  · dsimp only [note, emit]
    split
    · next tree a rotation ha hmark =>
      refine .inl ⟨_, a, rfl, ⟨rfl, rfl, rfl, rfl⟩, ha, hmark, rfl, ?_⟩
      simp [choices, finish, note, emit, FixAttempt.choice]
    · next hmark =>
      refine .inr ⟨_, _, rfl, rfl, ?_⟩
      intro hr
      cases hmark.symm.trans (Rotation.mark_eq hr)
    · next ha =>
      refine .inr ⟨_, _, rfl, rfl, ?_⟩
      intro hr
      obtain ⟨_, _, ht⟩ := hr.apply_total s.tree (.ofString c.repo)
      cases ha.symm.trans ht

theorem treat_cases (c : RepairContext) (s : RepairState) (d : Diagnosis) :
    (∃ u, s.treat c d = (u, .next) ∧ Kept s u ∧ Idle s u ∧ s.choose c d = .ok none) ∨
      (∃ u r known a, s.treat c d = (u, .next) ∧ Kept s u ∧ Treated c s.iteration s u d r a ∧
        s.choose c d = .ok (some (r, known))) ∨
      ∃ u e, s.treat c d = (u, .failed e) ∧ u.calls = s.calls ∧ Stuck c s d := by
  unfold treat
  split
  · next hc => exact .inr (.inr ⟨_, _, rfl, rfl, .inl ⟨_, hc⟩⟩)
  · next hc => exact .inl ⟨_, rfl, ⟨rfl, rfl, rfl, rfl⟩, ⟨rfl, rfl, rfl, rfl⟩, hc⟩
  · next r known hc =>
    -- the line of the log on a known remedy changes nothing that matters
    have hnote : ∀ v : RepairState, Kept s v → Idle s v →
        (∃ u a, v.applyFor c d r = (u, .next) ∧ Kept s u ∧ Treated c s.iteration s u d r a) ∨
          ∃ u e, v.applyFor c d r = (u, .failed e) ∧ u.calls = s.calls ∧ ¬ r.Proper := by
      intro v hk hi
      rcases applyFor_cases c v d r with ⟨u, a, hu, hku, ht⟩ | ⟨u, e, hu, hcalls, hr⟩
      · refine .inl ⟨u, a, hu, ?_, ?_⟩
        · exact ⟨hku.memory.trans hk.memory, hku.iteration.trans hk.iteration,
            hku.calls.trans hk.calls, hku.errors.trans hk.errors⟩
        · obtain ⟨h1, h2, h3, h4⟩ := ht
          rw [hi.tree] at h1
          rw [hi.rotation] at h2
          rw [hi.applied, hk.iteration] at h3
          rw [hi.choices, hk.iteration] at h4
          exact ⟨h1, h2, h3, h4⟩
      · exact .inr ⟨u, e, hu, hcalls.trans hk.calls, hr⟩
    have hend := hnote
      (if known then s.note .info ("Reusing fix that worked before for " ++ d.pattern) else s)
      (by cases known <;> exact ⟨rfl, rfl, rfl, rfl⟩)
      (by cases known <;> exact ⟨rfl, rfl, rfl, rfl⟩)
    rcases hend with ⟨u, a, hu, hk, ht⟩ | ⟨u, e, hu, hcalls, hr⟩
    · exact .inr (.inl ⟨u, r, known, a, hu, hk, ht, hc⟩)
    · exact .inr (.inr ⟨u, e, hu, hcalls, .inr ⟨r, known, hc, hr⟩⟩)

theorem compare_kept (s : RepairState) : Kept s s.compare ∧ Idle s s.compare := by
  unfold compare
  split
  · exact ⟨⟨rfl, rfl, rfl, rfl⟩, rfl, rfl, rfl, rfl⟩
  · dsimp only
    split
    · exact ⟨⟨rfl, rfl, rfl, rfl⟩, rfl, rfl, rfl, rfl⟩
    · split
      · exact ⟨⟨rfl, rfl, rfl, rfl⟩, rfl, rfl, rfl, rfl⟩
      · exact ⟨⟨rfl, rfl, rfl, rfl⟩, rfl, rfl, rfl, rfl⟩

/-- The state of an iteration in which a build failed, when its errors were looked at. -/
def examined (c : RepairContext) (s : RepairState) (build : BuildResult) : RepairState :=
  ({ s.start c with calls := s.calls ++ [c.call] } : RepairState).analyze build.errors

theorem examined_counted (build : BuildResult) : Counted c s (s.examined c build) :=
  ⟨rfl, rfl, rfl⟩

theorem examined_idle (build : BuildResult) : Idle s (s.examined c build) :=
  ⟨rfl, rfl, rfl, map_choice_settleLast ..⟩

theorem Counted.kept (hs : Counted c s u) (hu : Kept u v) : Counted c s v :=
  ⟨hu.memory.trans hs.memory, hu.iteration.trans hs.iteration, hu.calls.trans hs.calls⟩

theorem Idle.trans (hs : Idle s u) (hu : Idle u v) : Idle s v :=
  ⟨hu.tree.trans hs.tree, hu.rotation.trans hs.rotation, hu.applied.trans hs.applied,
    hu.choices.trans hs.choices⟩

theorem Idle.treated (hs : Idle s u) (hu : Treated c i u v d r a) : Treated c i s v d r a := by
  obtain ⟨happlies, hmarks, happlied, hchoices⟩ := hu
  rw [hs.tree] at happlies
  rw [hs.rotation] at hmarks
  rw [hs.applied] at happlied
  rw [hs.choices] at hchoices
  exact ⟨happlies, hmarks, happlied, hchoices⟩

theorem step_eq (c : RepairContext) (s : RepairState) : s.step c =
    match c.builder c.call s.iteration with
    | .error e => ({ s.start c with calls := s.calls ++ [c.call] }, .failed e)
    | .ok build =>
      if build.success then
        ({ s.start c with
            calls := s.calls ++ [c.call], attempts := settleLast 0 s.attempts }, .succeeded build)
      else
        match build.errors with
        | [] =>
          ((s.examined c build).note .warning
            ("Compilation failed but no errors could be parsed: " ++ cut 500 build.err),
            .unparsable)
        | d :: _ => (s.examined c build).compare.treat c d := rfl

theorem step_cases (c : RepairContext) (s : RepairState) :
    Stepped c s (s.step c).1 (s.step c).2 := by
  rw [step_eq]
  split
  · next hb => exact .crashed _ _ ⟨rfl, rfl, rfl⟩ ⟨rfl, rfl, rfl, rfl⟩ hb
  · next build hb =>
    split
    · next hs =>
      exact .passed _ _ ⟨rfl, rfl, rfl⟩ ⟨rfl, rfl, rfl, map_choice_settleLast ..⟩ hb hs
    · next hs =>
      have hf : build.success = false := by simpa using hs
      have hcounted := examined_counted (c := c) (s := s) build
      have hidle := examined_idle (c := c) (s := s) build
      split
      · next he =>
        exact .unclear _ build (hcounted.kept ⟨rfl, rfl, rfl, rfl⟩)
          (hidle.trans ⟨rfl, rfl, rfl, rfl⟩) hb hf he he
      · next d ds he =>
        obtain ⟨hkept, hquiet⟩ := compare_kept (s.examined c build)
        have hchoose : ∀ d, (s.examined c build).compare.choose c d = s.choose c d :=
          choose_congr (hkept.memory.trans hcounted.memory) (hquiet.rotation.trans hidle.rotation)
        have hiter : (s.examined c build).compare.iteration = s.iteration + 1 :=
          hkept.iteration.trans hcounted.iteration
        have herrors : (s.examined c build).compare.errors = d :: ds := hkept.errors.trans he
        rcases treat_cases c (s.examined c build).compare d with
          ⟨u, hu, hk, hi, hc⟩ | ⟨u, r, known, a, hu, hk, ht, hc⟩ | ⟨u, e, hu, hcalls, hstuck⟩
        · rw [hu]
          exact .exhausted u build d ds ((hcounted.kept hkept).kept hk)
            ((hidle.trans hquiet).trans hi) hb hf he (hk.errors.trans herrors)
            ((hchoose d).symm.trans hc)
        · rw [hu]
          rw [hiter] at ht
          exact .treated u build d ds r known a ((hcounted.kept hkept).kept hk)
            ((hidle.trans hquiet).treated ht) hb hf he (hk.errors.trans herrors)
            ((hchoose d).symm.trans hc)
        · rw [hu]
          refine .stuck u build e d (hcalls.trans (hcounted.kept hkept).calls) hb hf ?_
          unfold Stuck at hstuck ⊢
          rwa [hchoose] at hstuck

/-- With a memory of proper remedies every error can be treated. -/
theorem not_stuck (hm : s.memory.Proper) : ¬ Stuck c s d := by
  obtain ⟨chosen, hc, hfirst⟩ := choose_spec (c := c) hm d
  rintro (⟨e, he⟩ | ⟨r, known, hr, hbad⟩)
  · cases he.symm.trans hc
  · cases hr.symm.trans hc
    exact hbad (hm.candidates _ hfirst.mem)

/-! ## The states of a run -/

/-- The state in which a run begins. -/
def fresh (t : Tree) (m : Memory) : RepairState := { tree := t, memory := m }

theorem stepped_of_step (h : s.step c = (u, ending)) : Stepped c s u ending := by
  have hs := step_cases c s
  rwa [h] at hs

/-- After `n` iterations that went on, a run from `s` is at a state. -/
inductive Reaches (c : RepairContext) (s : RepairState) : Nat → RepairState → Prop
  | start : Reaches c s 0 s
  | next (n : Nat) (u v : RepairState) : Reaches c s n u → u.step c = (v, .next) →
      Reaches c s (n + 1) v

theorem Reaches.head (hs : s.step c = (u, .next)) (h : Reaches c u n v) :
    Reaches c s (n + 1) v := by
  induction h with
  | start => exact .next 0 s u .start hs
  | next n v w _ hv ih => exact .next (n + 1) v w ih hv

/-- Iterations either are spent all, or one of them does not go on. -/
theorem iterate_cases (c : RepairContext) (n : Nat) (s : RepairState) :
    (∃ u, s.iterate c n = (u, .next) ∧ Reaches c s n u) ∨
      ∃ k < n, ∃ u v ending, Reaches c s k u ∧ u.step c = (v, ending) ∧ ending ≠ .next ∧
        s.iterate c n = (v, ending) := by
  induction n generalizing s with
  | zero => exact .inl ⟨s, rfl, .start⟩
  | succ n ih =>
    unfold iterate
    split
    · next u hu =>
      rcases ih u with ⟨v, hv, hr⟩ | ⟨k, hk, v, w, ending, hr, hw, hne, hi⟩
      · exact .inl ⟨v, hv, hr.head hu⟩
      · exact .inr ⟨k + 1, by omega, v, w, ending, hr.head hu, hw, hne, hi⟩
    · next hne =>
      refine .inr ⟨0, by omega, s, (s.step c).1, (s.step c).2, .start, rfl, ?_, rfl⟩
      intro h
      exact hne _ (Prod.ext rfl h)

/-- Iterating goes through the states that a run reaches. -/
theorem Reaches.iterate_add (h : Reaches c s n u) (k : Nat) :
    s.iterate c (n + k) = u.iterate c k := by
  induction h generalizing k with
  | start => rw [Nat.zero_add]
  | next n u v _ hv ih =>
    rw [Nat.add_assoc, Nat.add_comm 1 k, ih (k + 1), iterate, hv]

theorem Reaches.iterate_eq (h : Reaches c s n u) : s.iterate c n = (u, .next) :=
  h.iterate_add 0

theorem Stepped.counted (h : Stepped c s u .next) : Counted c s u := by
  cases h with
  | exhausted _ _ _ hc => exact hc
  | treated _ _ _ _ _ _ hc => exact hc

/-- Every iteration asks for one build, and one that gets a passing build ends the run. -/
theorem Stepped.build (h : Stepped c s u ending) :
    u.calls = s.calls ++ [c.call] ∧
      ∀ build, c.builder c.call s.iteration = .ok build → build.success = true →
        ending = .succeeded build := by
  cases h with
  | crashed e hc _ hb => exact ⟨hc.calls, fun build h _ => by cases hb.symm.trans h⟩
  | passed build hc _ hb => exact ⟨hc.calls, fun build h _ => by cases hb.symm.trans h; rfl⟩
  | unclear build hc _ hb hf =>
    exact ⟨hc.calls, fun build h hs => by cases hb.symm.trans h; cases hf.symm.trans hs⟩
  | exhausted build d ds hc _ hb hf =>
    exact ⟨hc.calls, fun build h hs => by cases hb.symm.trans h; cases hf.symm.trans hs⟩
  | treated build d ds r known a hc _ hb hf =>
    exact ⟨hc.calls, fun build h hs => by cases hb.symm.trans h; cases hf.symm.trans hs⟩
  | stuck build e d hc hb hf =>
    exact ⟨hc, fun build h hs => by cases hb.symm.trans h; cases hf.symm.trans hs⟩

theorem Reaches.memory (h : Reaches c s n u) : u.memory = s.memory := by
  induction h with
  | start => rfl
  | next n u v _ hv ih => exact (stepped_of_step hv).counted.memory.trans ih

theorem Reaches.iteration (h : Reaches c s n u) : u.iteration = s.iteration + n := by
  induction h with
  | start => rfl
  | next n u v _ hv ih => rw [(stepped_of_step hv).counted.iteration, ih, Nat.add_assoc]

theorem Reaches.calls (h : Reaches c s n u) : u.calls.length = s.calls.length + n := by
  induction h with
  | start => rfl
  | next n u v _ hv ih =>
    rw [(stepped_of_step hv).counted.calls, List.length_append, ih]
    rfl

/-- A run that has just begun counts its iterations and its builds alike. -/
theorem Reaches.of_fresh {t : Tree} {m : Memory} (h : Reaches c (fresh t m) n u) :
    u.memory = m ∧ u.iteration = n ∧ u.calls.length = n := by
  refine ⟨h.memory, ?_, ?_⟩
  · rw [h.iteration]
    exact Nat.zero_add n
  · rw [h.calls]
    exact Nat.zero_add n

/-- What idle iterations and treatments keep holds when a run has ended, unless it failed. -/
theorem iterate_induction {P : RepairState → Prop} (h : P s)
    (hidle : ∀ u v, P u → v.memory = u.memory → Idle u v → P v)
    (htreated : ∀ u v d r known a, P u → v.memory = u.memory →
      Treated c (u.iteration + 1) u v d r a → u.choose c d = .ok (some (r, known)) → P v)
    (n : Nat) : P (s.iterate c n).1 ∨ ∃ e, (s.iterate c n).2 = .failed e := by
  induction n generalizing s with
  | zero => exact .inl h
  | succ n ih =>
    have hs := step_cases c s
    unfold iterate
    generalize s.step c = reached at hs ⊢
    obtain ⟨u, ending⟩ := reached
    cases hs with
    | crashed e => exact .inr ⟨e, rfl⟩
    | passed build hc hi => exact .inl (hidle s u h hc.memory hi)
    | unclear build hc hi => exact .inl (hidle s u h hc.memory hi)
    | exhausted build d ds hc hi => exact ih (hidle s u h hc.memory hi)
    | treated build d ds r known a hc ht _ _ _ _ hchoose =>
      exact ih (htreated s u d r known a h hc.memory ht hchoose)
    | stuck _ e => exact .inr ⟨e, rfl⟩

/-! ## What a run keeps of its last state -/

theorem run_attempts (c : RepairContext) (s : RepairState) :
    (s.run c).attempts = (s.iterate c c.limit.toNat).1.attempts ∧
      (s.run c).calls = (s.iterate c c.limit.toNat).1.calls := by
  have hlearn (u : RepairState) : (u.learn c).1.attempts = u.attempts ∧
      (u.learn c).1.calls = u.calls := by
    unfold learn
    dsimp only
    split <;> exact ⟨rfl, rfl⟩
  unfold run
  split
  · next h => rw [h]; exact ⟨rfl, rfl⟩
  · next h => rw [h]; exact ⟨rfl, rfl⟩
  · next u build h =>
    rw [h]
    unfold succeed
    split
    · exact ⟨rfl, rfl⟩
    · have hu := hlearn u
      split
      · next hl =>
        rw [hl] at hu
        exact hu
      · next hl =>
        rw [hl] at hu
        exact hu
  · next h => rw [h]; exact ⟨rfl, rfl⟩

/-- A run that reports did not fail in an iteration, and has learnt if it succeeded. -/
theorem run_ok {report : RepairReport} (h : (s.run c).result = .ok report) :
    (¬ ∃ e, (s.iterate c c.limit.toNat).2 = .failed e) ∧
      report.applied = (s.iterate c c.limit.toNat).1.applied ∧
      ((report.outcome ≠ .succeeded ∧ (s.run c).tree = (s.iterate c c.limit.toNat).1.tree ∧
          (s.run c).memory = (s.iterate c c.limit.toNat).1.memory) ∨
        report.outcome = .succeeded ∧
          ∃ u, (s.iterate c c.limit.toNat).1.learn c = (u, .ok ()) ∧ (s.run c).tree = u.tree ∧
            (s.run c).memory = u.memory) := by
  have happlied (u : RepairState) : (u.learn c).1.applied = u.applied := by
    unfold learn
    dsimp only
    split <;> rfl
  revert h
  unfold run
  split
  · next he =>
    rintro ⟨⟩
    rw [he]
    exact ⟨by simp, rfl, .inl ⟨by simp, rfl, rfl⟩⟩
  · next he =>
    rintro ⟨⟩
    rw [he]
    exact ⟨by simp, rfl, .inl ⟨by simp, rfl, rfl⟩⟩
  · next u build he =>
    rw [he]
    unfold succeed
    split
    · rintro ⟨⟩
    · split
      · rintro ⟨⟩
      · next v hl =>
        have hv := happlied u
        rw [hl] at hv
        rintro ⟨⟩
        exact ⟨by simp, hv, .inr ⟨rfl, v, hl, rfl, rfl⟩⟩
  · rintro ⟨⟩

end RepairState

/-- The remedies chosen in a run, each with its iteration. -/
def RepairRun.choices (run : RepairRun) : List (Nat × Remedy) := run.attempts.map FixAttempt.choice

/-- What stays the same in a run with some options. -/
def RepairOptions.context (o : RepairOptions) (repo manager command : String) (builder : Builder)
    (now : Timestamp) : RepairContext :=
  ⟨repo, o.maxIterations.getD Settings.default.maxIterations,
    ⟨manager, command, o.timeout.getD Settings.default.buildTimeout⟩, builder, now⟩

/-- A run over a repository either does not begin or iterates over the memory after loading. -/
theorem repair_cases (repo : String) (o : RepairOptions) (builder : Builder) (now : Timestamp)
    (t : Tree) (m : Memory) :
    (∃ e, (m.load t repo).2 = .error e ∧
      repair repo o builder now t m =
        { tree := t, memory := (m.load t repo).1, result := .error e }) ∨
    ∃ found, (m.load t repo).2 = .ok found ∧
      ((∃ e, o.managerFor t (.ofString repo) = .error e ∧
        repair repo o builder now t m =
          { tree := t, memory := (m.load t repo).1.opened repo now, result := .error (.file e) }) ∨
      ∃ manager, o.managerFor t (.ofString repo) = .ok manager ∧
        ((o.commandFor t (.ofString repo) = none ∧
          repair repo o builder now t m =
            .skipped repo t ((m.load t repo).1.opened repo now)) ∨
        ∃ command, o.commandFor t (.ofString repo) = some command ∧
          repair repo o builder now t m =
            (RepairState.fresh t ((m.load t repo).1.opened repo now)).run
              (o.context repo manager command builder now))) := by
  unfold repair
  split
  · next m' e hl => exact .inl ⟨e, by rw [hl], by rw [hl]⟩
  · next m' found hl =>
    refine .inr ⟨found, by rw [hl], ?_⟩
    rw [hl]
    dsimp only
    split
    · next e hm => exact .inl ⟨e, hm, rfl⟩
    · next manager hm =>
      refine .inr ⟨manager, hm, ?_⟩
      split
      · next hc => exact .inl ⟨hc, rfl⟩
      · next command hc => exact .inr ⟨command, hc, rfl⟩

/-- A run that reports found nothing to build, or it iterated. -/
theorem repair_ok_cases {repo : String} {o : RepairOptions} {builder : Builder} {now : Timestamp}
    {t : Tree} {m : Memory} {report : RepairReport}
    (h : (repair repo o builder now t m).result = .ok report) :
    repair repo o builder now t m = .skipped repo t ((m.load t repo).1.opened repo now) ∨
    ∃ manager command, repair repo o builder now t m =
      (RepairState.fresh t ((m.load t repo).1.opened repo now)).run
        (o.context repo manager command builder now) := by
  rcases repair_cases repo o builder now t m with
    ⟨_, -, hrun⟩ | ⟨_, -, ⟨_, -, hrun⟩ | ⟨manager, -, ⟨-, hrun⟩ | ⟨command, -, hrun⟩⟩⟩
  · rw [hrun] at h
    cases h
  · rw [hrun] at h
    cases h
  · exact .inl hrun
  · exact .inr ⟨manager, command, hrun⟩

end BuildRepair
