import BuildRepair.Proofs.Repair.Ending
import BuildRepair.Proofs.Repair.Entering
import Mathlib.Data.List.Chain

/-
  The books of a run: its events, its attempts and the fixes it applied. All of them follow from the
  builds and from which episode each iteration gave, if any (`RepairRun.Books`): the events are
  those of the iterations one after the other, and the attempts, the fixes and the events about them
  are the episodes in order, each in its own form. The errors an attempt left are those the next
  one found, and the last one left those that remain.

  `Booked` is what every iteration keeps of this (`Booked.enter`), and so the whole loop
  (`iterate_booked`). An attempt is settled by later builds, also by those that are followed by no
  attempt; the invariant is that the last attempt always stands at the errors of the last build.

  The last event, which sums up the run, is told if and only if the run reports (`repair_books`).
-/

namespace BuildRepair

/-! ## Settling the last attempt -/

theorem settleLast_concat (n : Nat) (as : List FixAttempt) (a : FixAttempt) :
    settleLast n (as ++ [a]) = as ++ [{ a with after := n }] := by
  induction as with
  | nil => rfl
  | cons b as ih =>
    cases as with
    | nil => rfl
    | cons first rest =>
      show b :: settleLast n (first :: rest ++ [a]) = _
      rw [ih]
      rfl

/-- Attempts of which each found the errors that the one before left. -/
def Linked (as : List FixAttempt) : Prop := as.IsChain fun a b => a.after = b.before

/-- The last attempt, if there is one, left so many errors. -/
def LeftBy (as : List FixAttempt) (n : Nat) : Prop := ∀ a ∈ as.getLast?, a.after = n

theorem linked_settleLast {as : List FixAttempt} (h : Linked as) (n : Nat) :
    Linked (settleLast n as) ∧ LeftBy (settleLast n as) n := by
  rcases List.eq_nil_or_concat as with rfl | ⟨init, last, rfl⟩
  · exact ⟨List.IsChain.nil, by simp [LeftBy, settleLast]⟩
  · rw [List.concat_eq_append] at h ⊢
    rw [settleLast_concat]
    unfold Linked at h ⊢
    rw [List.isChain_append] at h
    refine ⟨List.isChain_append.mpr ⟨h.1, .singleton _, ?_⟩, by simp [LeftBy]⟩
    intro a ha b hb
    cases Option.mem_some_iff.mp hb
    exact h.2.2 a ha last rfl

/-! ## The episodes of a run -/

/-- The errors that the last of `n` builds left. -/
def lastLeft (builds : Nat → BuildResult) : Nat → List Diagnosis
  | 0 => []
  | n + 1 => (builds n).left

/-- What tells which episode an attempt was. -/
def FixAttempt.kind (a : FixAttempt) : Nat × Remedy × Bool := (a.iteration, a.remedy, a.success)

/-- What tells an episode from others among the attempts. -/
def Episode.kind (x : Episode) : Nat × Remedy × Bool := (x.iteration, x.remedy, x.result.success)

/-- The event of a remedy that was chosen. -/
def RepairEvent.isChosen : RepairEvent → Bool
  | .fixChosen .. => true
  | _ => false

/-- The event of a remedy that was applied. -/
def RepairEvent.isEnded : RepairEvent → Bool
  | .fixEnded .. => true
  | _ => false

/-- The event that sums up a run. -/
def RepairEvent.isCompleted : RepairEvent → Bool
  | .completed .. => true
  | _ => false

/-- What an observer is told of the iterations of a run, counted from zero. -/
def eventsOf (repo : String) (limit : Int) (builds : Nat → BuildResult)
    (episode : Nat → Option Episode) (n : Nat) : List RepairEvent :=
  (List.range n).flatMap fun k =>
    RepairEvent.ofIteration repo limit (k + 1) (builds k) (episode k)

/-- The episodes of a run in order. -/
def episodesOf (episode : Nat → Option Episode) (n : Nat) : List Episode :=
  (List.range n).filterMap episode

/-- A run in which iteration `k`, counted from zero, gave `episode k` about the fault of its
build. -/
def Treats (builds : Nat → BuildResult) (episode : Nat → Option Episode) (n : Nat) : Prop :=
  ∀ k < n, ∀ x, episode k = some x → x.iteration = k + 1 ∧ (builds k).fault? = some x.fault

variable {repo : String} {limit : Int} {builds : Nat → BuildResult}
  {episode episode' : Nat → Option Episode} {k n : Nat} {x? : Option Episode}

theorem eventsOf_succ : eventsOf repo limit builds episode (n + 1) =
    eventsOf repo limit builds episode n ++
      RepairEvent.ofIteration repo limit (n + 1) (builds n) (episode n) := by
  unfold eventsOf
  rw [List.range_succ, List.flatMap_append, List.flatMap_singleton]

theorem episodesOf_succ : episodesOf episode (n + 1) =
    episodesOf episode n ++ (episode n).toList := by
  unfold episodesOf
  rw [List.range_succ, List.filterMap_append, List.filterMap_cons, List.filterMap_nil]
  cases episode n <;> rfl

theorem eventsOf_congr (h : ∀ k < n, episode k = episode' k) :
    eventsOf repo limit builds episode n = eventsOf repo limit builds episode' n :=
  List.flatMap_congr fun k hk => by rw [h k (List.mem_range.mp hk)]

theorem episodesOf_congr (h : ∀ k < n, episode k = episode' k) :
    episodesOf episode n = episodesOf episode' n :=
  List.filterMap_congr fun k hk => h k (List.mem_range.mp hk)

theorem BuildResult.success_of_fault {b : BuildResult} {d : Diagnosis} (h : b.fault? = some d) :
    b.success = false := by
  unfold fault? at h
  split at h
  · cases h
  · next hs => simpa using hs

/-- A build that is treated failed, so both events of the episode are told. -/
theorem filter_ofIteration (p : RepairEvent → Bool) (iteration : Nat) (b : BuildResult)
    (hstart : p (.iterationStarted iteration limit repo) = false)
    (herrors : p (.ofErrors iteration b.errors) = false)
    (hx : ∀ x, x? = some x → b.success = false) :
    (RepairEvent.ofIteration repo limit iteration b x?).filter p =
      x?.toList.flatMap fun x => [x.chosen, x.ended].filter p := by
  unfold RepairEvent.ofIteration
  rw [List.filter_cons_of_neg (by simp [hstart])]
  cases x? with
  | none =>
    split
    · rfl
    · rw [List.filter_cons_of_neg (by simp [herrors])]
      rfl
  | some x =>
    rw [hx x rfl, if_neg (by decide), List.filter_cons_of_neg (by simp [herrors])]
    simp

/-- The events about episodes are told in order, and nothing else is. -/
theorem filter_eventsOf (repo : String) (limit : Int) (p : RepairEvent → Bool)
    (hstart : ∀ i, p (.iterationStarted i limit repo) = false)
    (herrors : ∀ i errors, p (.ofErrors i errors) = false) (h : Treats builds episode n) :
    (eventsOf repo limit builds episode n).filter p =
      (episodesOf episode n).flatMap fun x => [x.chosen, x.ended].filter p := by
  induction n with
  | zero => rfl
  | succ n ih =>
    have hx : ∀ x, episode n = some x → (builds n).success = false := fun x hx =>
      BuildResult.success_of_fault (h n (Nat.lt_succ_self n) x hx).2
    rw [eventsOf_succ, episodesOf_succ, List.filter_append, List.flatMap_append,
      ih fun k hk => h k (Nat.lt_succ_of_lt hk),
      filter_ofIteration p (n + 1) (builds n) (hstart _) (herrors _ _) hx]

/-- Episodes come one per iteration. -/
theorem episodesOf_increasing (h : Treats builds episode n) :
    ((episodesOf episode n).map Episode.iteration).Pairwise (· < ·) := by
  unfold episodesOf
  rw [List.pairwise_map, List.pairwise_filterMap]
  refine List.Pairwise.imp_of_mem ?_ List.pairwise_lt_range
  intro i j hi hj hij x hx y hy
  rw [(h i (List.mem_range.mp hi) x hx).1, (h j (List.mem_range.mp hj) y hy).1]
  omega

/-! ## What every iteration keeps -/

namespace RepairState

variable {c : RepairContext} {s u : RepairState} {t : Tree} {m : Memory}

/-- The books of a run between two iterations, given the episodes so far. -/
structure Booked (c : RepairContext) (builds : Nat → BuildResult)
    (episode : Nat → Option Episode) (s : RepairState) : Prop where
  events : s.events = eventsOf c.repo c.limit builds episode s.iteration
  treats : Treats builds episode s.iteration
  applied : s.applied = (episodesOf episode s.iteration).map Episode.applied
  attempts : s.attempts.map FixAttempt.kind =
    (episodesOf episode s.iteration).map Episode.kind
  before : ∀ a ∈ s.attempts, a.before = (builds (a.iteration - 1)).errors.length
  linked : Linked s.attempts
  last : LeftBy s.attempts (lastLeft builds s.iteration).length

theorem booked_fresh (c : RepairContext) (builds : Nat → BuildResult) (t : Tree) (m : Memory) :
    Booked c builds (fun _ => none) (fresh t m) where
  events := rfl
  treats := fun _ hk => absurd hk (Nat.not_lt_zero _)
  applied := rfl
  attempts := rfl
  before := fun _ ha => absurd ha List.not_mem_nil
  linked := List.IsChain.nil
  last := by simp [LeftBy, fresh]

/-- One attempt more, which found what the last one had been left with. -/
theorem linked_append {as : List FixAttempt} {count : Nat} (h : Linked as) (hlast : LeftBy as count)
    (x? : Option Episode) (time : Timestamp) :
    Linked (as ++ (x?.map (·.attempt count time)).toList) ∧
      LeftBy (as ++ (x?.map (·.attempt count time)).toList) count := by
  cases x? with
  | none =>
    simp only [Option.map_none, Option.toList_none, List.append_nil]
    exact ⟨h, hlast⟩
  | some x =>
    refine ⟨List.isChain_append.mpr ⟨h, .singleton _, ?_⟩, ?_⟩
    · intro a ha b hb
      cases Option.mem_some_iff.mp hb
      exact hlast a ha
    · intro a ha
      simp only [Option.map_some, Option.toList_some, List.getLast?_concat,
        Option.mem_some_iff] at ha
      rw [← ha]
      rfl

/-- An iteration keeps the books. -/
theorem Booked.enter (h : Booked c builds episode s) (hs : Enters c builds s u x?) :
    Booked c builds (fun k => if k = s.iteration then x? else episode k) u := by
  have hnew : (fun k => if k = s.iteration then x? else episode k) s.iteration = x? :=
    if_pos rfl
  have hold : ∀ k < s.iteration,
      episode k = (fun k => if k = s.iteration then x? else episode k) k :=
    fun k hk => (if_neg (Nat.ne_of_lt hk)).symm
  generalize (fun k => if k = s.iteration then x? else episode k) = episode' at hnew hold ⊢
  obtain ⟨hlinked, hlast⟩ := linked_settleLast h.linked (builds s.iteration).left.length
  obtain ⟨hlinked', hlast'⟩ := linked_append hlinked hlast x? c.now
  exact
    { events := by
        rw [hs.events, hs.iteration, eventsOf_succ, hnew, h.events, eventsOf_congr hold]
      treats := by
        rw [hs.iteration]
        intro k hk x hx
        rcases Nat.lt_succ_iff_lt_or_eq.mp hk with hk | rfl
        · exact h.treats k hk x ((hold k hk).trans hx)
        · exact hs.treated x (hnew.symm.trans hx)
      applied := by
        rw [hs.applied, hs.iteration, episodesOf_succ, hnew, h.applied, episodesOf_congr hold,
          List.map_append]
        cases x? <;> rfl
      attempts := by
        rw [hs.attempts, hs.iteration, episodesOf_succ, hnew, List.map_append,
          map_settleLast (fun _ _ => rfl), h.attempts, episodesOf_congr hold, List.map_append]
        cases x? <;> rfl
      before := by
        rw [hs.attempts]
        intro a ha
        rcases List.mem_append.mp ha with ha | ha
        · -- an earlier attempt, settled or not, found what it had found
          let found (a : FixAttempt) : Nat × Nat := (a.iteration, a.before)
          have hmem : found a ∈
              (settleLast (builds s.iteration).left.length s.attempts).map found :=
            List.mem_map_of_mem ha
          rw [map_settleLast (fun _ _ => rfl)] at hmem
          obtain ⟨b, hb, hab⟩ := List.mem_map.mp hmem
          obtain ⟨hiter, hbefore⟩ := Prod.mk.inj hab
          rw [← hiter, ← hbefore]
          exact h.before b hb
        · cases x? with
          | none => cases ha
          | some x =>
            cases List.mem_singleton.mp ha
            obtain ⟨hiter, hfault⟩ := hs.treated x rfl
            have hfail := BuildResult.success_of_fault hfault
            show (builds s.iteration).left.length = (builds (x.iteration - 1)).errors.length
            rw [hiter, Nat.add_sub_cancel, BuildResult.left, hfail]
            rfl
      linked := by
        rw [hs.attempts]
        exact hlinked'
      last := by
        rw [hs.attempts, hs.iteration]
        exact hlast' }

/-- What a run stands with when its iterations are over: no error remains after a build that passed,
otherwise those of the last build do. -/
def Remains (builds : Nat → BuildResult) (u : RepairState) : StepEnd → Prop
  | .succeeded _ => lastLeft builds u.iteration = []
  | .failed _ => False
  | .unparsable | .next => u.errors = lastLeft builds u.iteration

theorem remains_of_endsWith (hs : Enters c builds s u x?) {ending : StepEnd}
    (h : EndsWith (builds s.iteration) u ending) : Remains builds u ending := by
  have hfailed (h : (builds s.iteration).success = false ∧
      u.errors = (builds s.iteration).errors) : u.errors = lastLeft builds u.iteration := by
    rw [hs.iteration, lastLeft, BuildResult.left, h.1]
    exact h.2
  cases ending with
  | next => exact hfailed h
  | unparsable => exact hfailed h
  | succeeded build =>
    show lastLeft builds u.iteration = []
    rw [hs.iteration, lastLeft, BuildResult.left, h.2]
    rfl
  | failed e => exact h

/-- The whole loop keeps the books. -/
theorem iterate_booked (hb : c.builder = .scripted builds) (n : Nat) (hm : s.memory.Proper)
    (h : Booked c builds episode s) (herrors : s.errors = lastLeft builds s.iteration) :
    ∃ episode, Booked c builds episode (s.iterate c n).1 ∧
      Remains builds (s.iterate c n).1 (s.iterate c n).2 := by
  induction n generalizing s episode with
  | zero => exact ⟨episode, h, herrors⟩
  | succ n ih =>
    obtain ⟨x?, henters, hends⟩ := step_enters hm hb
    have hremains := remains_of_endsWith henters hends
    unfold iterate
    generalize s.step c = reached at henters hends hremains ⊢
    obtain ⟨u, ending⟩ := reached
    cases ending with
    | next =>
      have hmu : u.memory.Proper := by
        rw [henters.memory]
        exact hm
      exact ih hmu (h.enter henters) hremains
    | _ => exact ⟨_, h.enter henters, hremains⟩

end RepairState

/-! ## Whole runs -/

namespace RepairReport

/-- How many of the fixes that a run reports were applied with success. -/
def successful (r : RepairReport) : Nat := (r.applied.filter (·.result.success)).length

/-- The last words on a run. -/
def summary (r : RepairReport) : String :=
  if r.success then
    "Compilation succeeded after " ++ decimal r.iterations ++ " iteration(s) with " ++
      decimal r.successful ++ " fix(es)"
  else
    "Validation failed (" ++ r.outcome.name ++ ") after " ++ decimal r.iterations ++
      " iteration(s); " ++ decimal r.remaining.length ++ " error(s) remain"

/-- The event that sums up a run as it is reported. -/
def closing (r : RepairReport) : RepairEvent :=
  .completed r.success r.iterations r.applied.length r.successful r.remaining.length r.summary

end RepairReport

/-- What a run tells at its end: a run that fails tells nothing. -/
def RepairRun.closing (run : RepairRun) : List RepairEvent :=
  match run.result with
  | .ok report => [report.closing]
  | .error _ => []

/-- The books of a run over known builds with `n` iterations, of which the one counted `k` from zero
gave `episode k`. -/
structure RepairRun.Books (run : RepairRun) (repo : String) (limit : Int)
    (builds : Nat → BuildResult) (n : Nat) (episode : Nat → Option Episode) : Prop where
  /-- Each iteration tells its start, the errors of a build that failed and its episode. -/
  events : run.events = eventsOf repo limit builds episode n ++ run.closing
  treats : Treats builds episode n
  chosen : run.events.filter RepairEvent.isChosen =
    (episodesOf episode n).map Episode.chosen
  ended : run.events.filter RepairEvent.isEnded = (episodesOf episode n).map Episode.ended
  completed : run.events.filter RepairEvent.isCompleted = run.closing
  attempts : run.attempts.map FixAttempt.kind = (episodesOf episode n).map Episode.kind
  increasing : ((episodesOf episode n).map Episode.iteration).Pairwise (· < ·)
  before : ∀ a ∈ run.attempts, a.before = (builds (a.iteration - 1)).errors.length
  linked : Linked run.attempts
  last : LeftBy run.attempts (lastLeft builds n).length
  report : ∀ report, run.result = .ok report → report.iterations = n ∧
    report.applied = (episodesOf episode n).map Episode.applied ∧
    report.remaining = lastLeft builds n ∧ (report.success = true → report.remaining = [])

namespace RepairState

variable {c : RepairContext} {s u v : RepairState} {t : Tree} {m : Memory}
  {outcome : RepairOutcome}

/-- A run has the books of the state it ends in. -/
theorem Booked.books (h : Booked c builds episode u) {run : RepairRun}
    (hevents : run.events = u.events ++ run.closing) (hattempts : run.attempts = u.attempts)
    (hreport : ∀ report, run.result = .ok report → report.iterations = u.iteration ∧
      report.applied = u.applied ∧ report.remaining = lastLeft builds u.iteration ∧
      (report.success = true → report.remaining = [])) :
    run.Books c.repo c.limit builds u.iteration episode := by
  have hall : run.events = eventsOf c.repo c.limit builds episode u.iteration ++ run.closing := by
    rw [hevents, h.events]
  have hclosing (p : RepairEvent → Bool) (hp : ∀ report : RepairReport, p report.closing = false) :
      run.closing.filter p = [] := by
    unfold RepairRun.closing
    split
    · rw [List.filter_cons_of_neg (by simp [hp])]
      rfl
    · rfl
  have hchosen := filter_eventsOf c.repo c.limit RepairEvent.isChosen
    (fun _ => rfl) (fun _ _ => rfl) h.treats
  have hended := filter_eventsOf c.repo c.limit RepairEvent.isEnded
    (fun _ => rfl) (fun _ _ => rfl) h.treats
  have hcompleted := filter_eventsOf c.repo c.limit RepairEvent.isCompleted
    (fun _ => rfl) (fun _ _ => rfl) h.treats
  exact
    { events := hall
      treats := h.treats
      chosen := by
        rw [hall, List.filter_append, hchosen, hclosing _ fun _ => rfl, List.append_nil,
          List.map_eq_flatMap]
        rfl
      ended := by
        rw [hall, List.filter_append, hended, hclosing _ fun _ => rfl, List.append_nil,
          List.map_eq_flatMap]
        rfl
      completed := by
        have hnone : (episodesOf episode u.iteration).flatMap
            (fun x => [x.chosen, x.ended].filter RepairEvent.isCompleted) = [] := by
          rw [List.flatMap_eq_nil_iff]
          exact fun _ _ => rfl
        rw [hall, List.filter_append, hcompleted, hnone, List.nil_append]
        unfold RepairRun.closing
        split <;> rfl
      attempts := by
        rw [hattempts]
        exact h.attempts
      increasing := episodesOf_increasing h.treats
      before := by
        rw [hattempts]
        exact h.before
      linked := by
        rw [hattempts]
        exact h.linked
      last := by
        rw [hattempts]
        exact h.last
      report := by
        intro report hr
        obtain ⟨hiter, happlied, hremaining⟩ := hreport report hr
        exact ⟨hiter, happlied.trans h.applied, hremaining⟩ }

theorem aborted_books (h : Booked c builds episode u) (e : Failure) :
    (u.aborted e).Books c.repo c.limit builds u.iteration episode :=
  h.books (List.append_nil _).symm rfl nofun

theorem ended_books (h : Booked c builds episode u) (certificate : Option BuildProof)
    (hremains : (if outcome.isSuccess then [] else u.errors) = lastLeft builds u.iteration) :
    (u.ended outcome certificate).Books c.repo c.limit builds u.iteration episode := by
  refine h.books ?_ rfl ?_
  · cases outcome <;> rfl
  · rintro report ⟨⟩
    refine ⟨rfl, rfl, hremains, ?_⟩
    intro hs
    exact if_pos hs

/-- Learning enters nothing. -/
theorem learn_booked (h : Booked c builds episode u) : Booked c builds episode (u.learn c).1 ∧
    (u.learn c).1.iteration = u.iteration := by
  unfold learn
  dsimp only
  split <;> exact ⟨⟨h.events, h.treats, h.applied, h.attempts, h.before, h.linked, h.last⟩, rfl⟩

theorem succeed_books (h : Booked c builds episode u)
    (hremains : lastLeft builds u.iteration = []) (build : BuildResult) :
    (u.succeed c build).Books c.repo c.limit builds u.iteration episode := by
  unfold succeed
  split
  · exact aborted_books h _
  · obtain ⟨hlearnt, hiter⟩ := learn_booked h
    rw [← hiter] at hremains ⊢
    split
    · next v e hv =>
      rw [hv] at hlearnt ⊢
      exact aborted_books hlearnt e
    · next v hv =>
      rw [hv] at hlearnt hremains ⊢
      exact ended_books hlearnt _ hremains.symm

theorem run_books (hm : m.Proper) (hb : c.builder = .scripted builds) : ∃ n episode,
    ((fresh t m).run c).Books c.repo c.limit builds n episode := by
  obtain ⟨episode, hbooked, hremains⟩ :=
    iterate_booked hb c.limit.toNat hm (booked_fresh c builds t m) rfl
  unfold run
  generalize (fresh t m).iterate c c.limit.toNat = reached at hbooked hremains ⊢
  obtain ⟨u, ending⟩ := reached
  refine ⟨u.iteration, episode, ?_⟩
  cases ending with
  | next => exact ended_books hbooked none hremains
  | unparsable => exact ended_books hbooked none hremains
  | succeeded build => exact succeed_books hbooked hremains build
  | failed e => exact hremains.elim

end RepairState

/-- A run over known builds that begins to iterate keeps its books, whether it reports or fails. It
reports if and only if nothing makes it fail, and then its last event sums it up. In a harmless run
nothing does. -/
theorem repair_books (repo : String) (o : RepairOptions) (builds : Nat → BuildResult)
    (now : Timestamp) (t : Tree) (m : Memory) (found : Option History) (manager command : String)
    (hload : (m.load t repo).2 = .ok found) (hm : (m.load t repo).1.Proper)
    (hmanager : o.managerFor t (.ofString repo) = .ok manager)
    (hcommand : o.commandFor t (.ofString repo) = some command) :
    (∃ n episode, (repair repo o (.scripted builds) now t m).Books repo
      (o.maxIterations.getD Settings.default.maxIterations) builds n episode) ∧
    ((repair repo o (.scripted builds) now t m).result.isOk = true ↔
      repairFault? repo o builds now t m = none) ∧
    (Harmless repo o builds now t (m.load t repo).1 →
      repairFault? repo o builds now t m = none) := by
  refine and_assoc.mp ⟨?_, fun h => h.no_fault hm⟩
  unfold repairFault?
  rcases repair_cases repo o (.scripted builds) now t m with
    ⟨e, he, -⟩ | ⟨_, -, ⟨e, he, -⟩ | ⟨manager', hm', ⟨hc', -⟩ | ⟨command', hc', hrun⟩⟩⟩
  · cases he.symm.trans hload
  · cases he.symm.trans hmanager
  · cases hc'.symm.trans hcommand
  · rw [hmanager, hcommand, hrun]
    cases hmanager.symm.trans hm'
    cases hcommand.symm.trans hc'
    let c := o.context repo manager command (.scripted builds) now
    refine ⟨RepairState.run_books (c := c) hm.opened rfl, ?_⟩
    have hopened : ((m.load t repo).1.opened repo now).Proper := hm.opened
    have hends := RepairState.run_ends (c := c) (t := t) hopened rfl
    dsimp only
    split at hends
    · next e he =>
      rw [he, hends]
      exact ⟨nofun, nofun⟩
    · next he => exact ⟨fun _ => he, fun _ => hends.isOk⟩

/-- The run that succeeds at the second build keeps its books and reports. -/
theorem peerDeps_books :
    (∃ n episode, (repair "app" fiveBuilds (.scripted missThenPass) default appTree
      (peerDepsMemory 1)).Books "app" 5 missThenPass n episode) ∧
    (repair "app" fiveBuilds (.scripted missThenPass) default appTree
      (peerDepsMemory 1)).result.isOk = true := by
  obtain ⟨hbooks, hreports, hharmless⟩ := repair_books "app" fiveBuilds missThenPass default appTree
    (peerDepsMemory 1) _ "npm" "build" rfl (peerDepsMemory_proper 1) rfl rfl
  exact ⟨hbooks, hreports.mpr (hharmless peerDeps_harmless)⟩

/-- With a count that cannot grow, the run iterates, but never tells that it is completed. -/
theorem peerDeps_unsummed :
    ((peerDepsMemory mostSuccesses).load appTree "app").2 =
      .ok (some (peerDepsHistory mostSuccesses)) ∧
    ((peerDepsMemory mostSuccesses).load appTree "app").1.Proper ∧
    fiveBuilds.managerFor appTree (.ofString "app") = .ok "npm" ∧
    fiveBuilds.commandFor appTree (.ofString "app") = some "build" ∧
    (repair "app" fiveBuilds (.scripted missThenPass) default appTree
      (peerDepsMemory mostSuccesses)).events.any RepairEvent.isCompleted = false :=
  ⟨rfl, peerDepsMemory_proper _, rfl, rfl, by decide +kernel⟩

end BuildRepair
