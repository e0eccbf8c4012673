import BuildRepair.Proofs.Repair.Step

/-
  What one iteration enters into the books of a run: its events, the fixes applied, and the
  attempts. An `Episode` is what was done about a failed build; it stands in each of the books in
  its own form (`Episode.chosen` and `Episode.ended`, `Episode.applied`, `Episode.attempt`). An
  iteration of a run with a memory of proper remedies enters at most one episode, after its start
  and the errors of its build (`step_enters`), and settles the last attempt by the errors that the
  build left.
-/

namespace BuildRepair

/-- The errors that a build leaves: none if it passed. -/
def BuildResult.left (b : BuildResult) : List Diagnosis := if b.success then [] else b.errors

/-- What was done about a failed build: the remedy chosen for its most urgent error, and what its
application gave. -/
structure Episode where
  iteration : Nat
  fault : Diagnosis
  remedy : Remedy
  result : Application

namespace Episode

/-- An episode among the fixes applied. -/
def applied (x : Episode) : AppliedFix := ⟨x.iteration, x.fault, x.result⟩

/-- An episode among the attempts, with the number of errors so far. -/
def attempt (x : Episode) (count : Nat) (time : Timestamp) : FixAttempt :=
  ⟨x.remedy, x.iteration, count, count, time, x.result.success⟩

/-- What an observer is told when the remedy was chosen. -/
def chosen (x : Episode) : RepairEvent :=
  .fixChosen x.iteration x.remedy x.fault.category x.remedy.inWords

/-- What an observer is told when the remedy was applied. -/
def ended (x : Episode) : RepairEvent :=
  .fixEnded x.iteration x.result.success x.result.remedy (x.result.obstacle.map (·.message))

end Episode

/-- What an observer is told of the errors of a build. -/
def RepairEvent.ofErrors (iteration : Nat) (errors : List Diagnosis) : RepairEvent :=
  .errorsAnalyzed iteration errors.length (countByCategory errors)
    ((errors.take 3).map ErrorBrief.of)

/-- What an observer is told of one iteration. -/
def RepairEvent.ofIteration (repo : String) (limit : Int) (iteration : Nat) (build : BuildResult)
    (episode : Option Episode) : List RepairEvent :=
  .iterationStarted iteration limit repo ::
    if build.success then []
    else .ofErrors iteration build.errors ::
      (match episode with
      | some x => [x.chosen, x.ended]
      | none => [])

namespace RepairState

variable {c : RepairContext} {s u v : RepairState} {d : Diagnosis} {r : Remedy}
  {x? : Option Episode} {builds : Nat → BuildResult}

/-! ## Treating an error -/

/-- Between two states of one iteration at most an episode was entered. -/
structure Adds (c : RepairContext) (s u : RepairState) (x? : Option Episode) : Prop where
  memory : u.memory = s.memory
  iteration : u.iteration = s.iteration
  errors : u.errors = s.errors
  events : u.events = s.events ++
    (match x? with
    | some x => [x.chosen, x.ended]
    | none => [])
  applied : u.applied = s.applied ++ (x?.map Episode.applied).toList
  attempts : u.attempts = s.attempts ++ (x?.map (·.attempt s.errors.length c.now)).toList

theorem Adds.refl (c : RepairContext) (s : RepairState) : Adds c s s none :=
  ⟨rfl, rfl, rfl, by simp, by simp, by simp⟩

theorem Adds.note (c : RepairContext) (s : RepairState) (level : LogLevel) (text : String) :
    Adds c s (s.note level text) none :=
  ⟨rfl, rfl, rfl, by simp [RepairState.note], by simp [RepairState.note],
    by simp [RepairState.note]⟩

theorem Adds.trans (hs : Adds c s u none) (hu : Adds c u v x?) : Adds c s v x? where
  memory := hu.memory.trans hs.memory
  iteration := hu.iteration.trans hs.iteration
  errors := hu.errors.trans hs.errors
  events := by rw [hu.events, hs.events, List.append_nil]
  applied := by
    rw [hu.applied, hs.applied]
    simp
  attempts := by
    rw [hu.attempts, hs.attempts, hs.errors]
    simp

theorem compare_adds (c : RepairContext) (s : RepairState) : Adds c s s.compare none := by
  unfold compare
  split
  · exact ⟨rfl, rfl, rfl, by simp, by simp, by simp⟩
  · dsimp only
    split
    · exact ⟨rfl, rfl, rfl, by simp [note], by simp [note], by simp [note]⟩
    · split
      · exact ⟨rfl, rfl, rfl, by simp [notes], by simp [notes], by simp [notes]⟩
      · exact ⟨rfl, rfl, rfl, by simp [note], by simp [note], by simp [note]⟩

theorem applyFor_adds (hr : r.Proper) (d : Diagnosis) : ∃ u a,
    s.applyFor c d r = (u, .next) ∧ Adds c s u (some ⟨s.iteration, d, r, a⟩) := by
  obtain ⟨tree, a, ha⟩ := hr.apply_total s.tree (.ofString c.repo)
  unfold applyFor
  rw [hr.describe_eq]
  dsimp only [note, emit]
  rw [ha, Rotation.mark_eq hr]
  refine ⟨_, a, rfl, rfl, rfl, rfl, ?_, rfl, rfl⟩
  simp [finish, note, emit, Episode.chosen, Episode.ended]

theorem treat_adds (hm : s.memory.Proper) (d : Diagnosis) : ∃ u x?,
    s.treat c d = (u, .next) ∧ Adds c s u x? ∧
      ∀ x, x? = some x → x.iteration = s.iteration ∧ x.fault = d := by
  obtain ⟨choice, hchoose, hfirst⟩ := choose_spec (c := c) hm d
  unfold treat
  rw [hchoose]
  cases choice with
  | none => exact ⟨_, none, rfl, .note c s _ _, by simp⟩
  | some choice =>
    obtain ⟨r, known⟩ := choice
    have hr : r.Proper := hm.candidates r hfirst.mem
    dsimp only
    have hnote : Adds c s (if known then
        s.note .info ("Reusing fix that worked before for " ++ d.pattern) else s) none := by
      cases known with
      | true => exact .note c s _ _
      | false => exact .refl c s
    obtain ⟨u, a, hu, hadds⟩ := applyFor_adds (c := c) (s := if known then
      s.note .info ("Reusing fix that worked before for " ++ d.pattern) else s) hr d
    refine ⟨u, _, hu, hnote.trans hadds, ?_⟩
    rintro x ⟨⟩
    exact ⟨hnote.iteration, rfl⟩

/-! ## One iteration -/

/-- Over known builds, an iteration from `s` to `u` entered what an iteration enters. -/
structure Enters (c : RepairContext) (builds : Nat → BuildResult) (s u : RepairState)
    (x? : Option Episode) : Prop where
  memory : u.memory = s.memory
  iteration : u.iteration = s.iteration + 1
  events : u.events = s.events ++
    RepairEvent.ofIteration c.repo c.limit (s.iteration + 1) (builds s.iteration) x?
  applied : u.applied = s.applied ++ (x?.map Episode.applied).toList
  attempts : u.attempts = settleLast (builds s.iteration).left.length s.attempts ++
    (x?.map (·.attempt (builds s.iteration).left.length c.now)).toList
  treated : ∀ x, x? = some x → x.iteration = s.iteration + 1 ∧
    (builds s.iteration).fault? = some x.fault

/-- How an iteration ends over known builds: with a build that passed, or with the errors of one
that failed. -/
def EndsWith (build : BuildResult) (u : RepairState) : StepEnd → Prop
  | .succeeded b => b = build ∧ build.success = true
  | .failed _ => False
  | .unparsable | .next => build.success = false ∧ u.errors = build.errors

/-- Looking at the errors of a failed build enters its start and its errors. -/
theorem enters_of_examined {build : BuildResult} (hf : build.success = false)
    (hu : Adds c (s.examined c build) u x?) (hb : builds s.iteration = build)
    (hx : ∀ x, x? = some x → x.iteration = s.iteration + 1 ∧ build.fault? = some x.fault) :
    Enters c builds s u x? where
  memory := hu.memory
  iteration := hu.iteration
  events := by
    rw [hu.events, hb]
    unfold RepairEvent.ofIteration
    rw [hf]
    simp [examined, analyze, emit, start, note, notes, RepairEvent.ofErrors]
  applied := hu.applied
  attempts := by
    have hleft : (builds s.iteration).left = build.errors := by
      unfold BuildResult.left
      rw [hb, hf]
      rfl
    rw [hu.attempts, hleft]
    rfl
  treated := by
    rw [hb]
    exact hx

theorem step_enters (hm : s.memory.Proper) (hb : c.builder = .scripted builds) :
    ∃ x?, Enters c builds s (s.step c).1 x? ∧
      EndsWith (builds s.iteration) (s.step c).1 (s.step c).2 := by
  have hbuild : c.builder c.call s.iteration = .ok (builds s.iteration) := by
    rw [hb]
    rfl
  rw [step_eq, hbuild]
  generalize hk : builds s.iteration = build
  dsimp only
  split
  · next hs =>
    refine ⟨none, ⟨rfl, rfl, ?_, by simp [start, note, emit], ?_, by simp⟩, rfl, hs⟩
    · unfold RepairEvent.ofIteration
      rw [hk, hs]
      rfl
    · unfold BuildResult.left
      rw [hk, hs]
      simp
  · next hs =>
    have hf : build.success = false := by simpa using hs
    split
    · next he =>
      exact ⟨none, enters_of_examined hf (.note c _ _ _) hk (by simp), hf, rfl⟩
    · next d ds he =>
      have hcompare := compare_adds c (s.examined c build)
      have hmemory : (s.examined c build).compare.memory.Proper := by
        rw [hcompare.memory]
        exact hm
      obtain ⟨u, x?, hu, hadds, hx⟩ := treat_adds (c := c) hmemory d
      rw [hu]
      have hall := hcompare.trans hadds
      refine ⟨x?, enters_of_examined hf hall hk ?_, hf, hall.errors⟩
      intro x hsome
      obtain ⟨hiter, hfault⟩ := hx x hsome
      refine ⟨hiter.trans hcompare.iteration, ?_⟩
      rw [hfault]
      exact BuildResult.fault?_eq_some hf he

end RepairState

end BuildRepair
