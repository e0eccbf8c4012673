import BuildRepair.Proofs.Repair.Ending

/-
  What a run learns. Only success teaches: a run that ends otherwise remembers what it remembered
  after loading, and one that succeeds has recorded every fix that worked, once and in order, and
  saved the history. If the system refuses to save it, the run succeeds all the same, remembers the
  same, and leaves the files as they were. In between the remedies alone change the tree, and none
  of them writes a history file. `repair_learns` puts this together.
-/

namespace BuildRepair

/-- The last build that a run asked for passed. -/
def RepairRun.LastPassed (run : RepairRun) (builder : Builder) : Prop :=
  ∃ call build, run.calls.getLast? = some call ∧
    builder call (run.calls.length - 1) = .ok build ∧ build.success = true

namespace RepairState

variable {c : RepairContext} {s u v : RepairState} {t : Tree} {m : Memory} {build : BuildResult}
  {call : BuildCall} {ending : StepEnd} {e : Failure} {n : Nat}

/-! ## Iterations -/

/-- Iterations keep the memory, and only the remedies chosen change the tree. -/
theorem iterate_kept (c : RepairContext) (t : Tree) (m : Memory) (n : Nat) :
    (((fresh t m).iterate c n).1.memory = m ∧
      ((fresh t m).iterate c n).1.tree = Remedy.applyAll (.ofString c.repo) t
        (((fresh t m).iterate c n).1.choices.map (·.2))) ∨
      ∃ e, ((fresh t m).iterate c n).2 = .failed e := by
  refine iterate_induction
    (P := fun s => s.memory = m ∧
      s.tree = Remedy.applyAll (.ofString c.repo) t (s.choices.map (·.2))) ?_ ?_ ?_ n
  · exact ⟨rfl, rfl⟩
  · intro u v hu hmem hi
    rw [hmem, hi.tree, hi.choices]
    exact hu
  · intro u v d r known a hu hmem ht _
    refine ⟨hmem.trans hu.1, ?_⟩
    have happlies := ht.applies
    rw [hu.2] at happlies
    rw [ht.choices, List.map_append]
    exact (Remedy.applyAll_append _ happlies).symm

theorem Stepped.of_lastPassed (h : Stepped c u v ending) (hn : u.calls.length = u.iteration)
    (hlast : v.calls.getLast? = some call) (hb : c.builder call (v.calls.length - 1) = .ok build)
    (hs : build.success = true) : ending = .succeeded build := by
  obtain ⟨hcalls, hend⟩ := h.build
  rw [hcalls, List.getLast?_concat] at hlast
  cases hlast
  rw [hcalls, List.length_append, hn] at hb
  exact hend build hb hs

/-- Iterations whose last build passed end with it. -/
theorem iterate_of_lastPassed
    (hlast : ((fresh t m).iterate c n).1.calls.getLast? = some call)
    (hb : c.builder call (((fresh t m).iterate c n).1.calls.length - 1) = .ok build)
    (hs : build.success = true) : ((fresh t m).iterate c n).2 = .succeeded build := by
  have hcount : ∀ {n u}, Reaches c (fresh t m) n u → u.calls.length = u.iteration := by
    intro n u hr
    obtain ⟨-, hiter, hcalls⟩ := hr.of_fresh
    rw [hiter, hcalls]
  rcases iterate_cases c n (fresh t m) with ⟨u, hu, hr⟩ | ⟨k, -, u, v, ending, hr, hv, -, hi⟩
  · rw [hu] at hlast hb ⊢
    cases hr with
    | start => cases hlast
    | next n w _ hw hstep => exact (stepped_of_step hstep).of_lastPassed (hcount hw) hlast hb hs
  · rw [hi] at hlast hb ⊢
    exact (stepped_of_step hv).of_lastPassed (hcount hr) hlast hb hs

/-! ## Learning -/

/-- What a run learns that does not fail: the history is saved unless the system refuses. -/
theorem learn_ok (h : s.learn c = (u, .ok ())) :
    u.tree = ((recordAll c s.applied s.memory).save s.tree c.repo none c.now).1 ∧
      u.memory = ((recordAll c s.applied s.memory).save s.tree c.repo none c.now).2.1 ∧
      (((recordAll c s.applied s.memory).save s.tree c.repo none c.now).2.2 = .ok () ∨
        ∃ cause path, ((recordAll c s.applied s.memory).save s.tree c.repo none c.now).2.2 =
          .error (.file (.system cause path))) := by
  unfold learn at h
  dsimp only at h
  split at h
  · next cause path hsave =>
    cases h
    exact ⟨rfl, rfl, .inr ⟨cause, path, hsave⟩⟩
  · cases h
  · next hsave =>
    cases h
    exact ⟨rfl, rfl, .inl hsave⟩

theorem learn_error (h : s.learn c = (u, .error e)) (cause : FileCause) (path : String) :
    e ≠ .file (.system cause path) := by
  rintro rfl
  unfold learn at h
  dsimp only at h
  split at h
  · cases h
  · next hne _ =>
    cases h
    exact hne _ _ rfl
  · cases h

/-- After a passing build the system cannot make a run fail. -/
theorem succeed_cases (c : RepairContext) (s : RepairState) (build : BuildResult) :
    (∀ report, (s.succeed c build).result = .ok report → report.outcome = .succeeded) ∧
      ∀ cause path, (s.succeed c build).result ≠ .error (.file (.system cause path)) := by
  unfold succeed
  split
  · next e he =>
    refine ⟨?_, ?_⟩
    · rintro report ⟨⟩
    · rintro cause path ⟨⟩
      rcases proofOf_cases c.now build c.call.manager c.call.command s.iteration with
        ⟨e', -, hp⟩ | ⟨bytes, certificate, -, hp, -⟩
      · cases he.symm.trans hp
      · cases he.symm.trans hp
  · split
    · next u e he =>
      refine ⟨?_, ?_⟩
      · rintro report ⟨⟩
      · rintro cause path ⟨⟩
        exact learn_error he cause path rfl
    · refine ⟨?_, ?_⟩
      · rintro report ⟨⟩
        rfl
      · rintro cause path ⟨⟩

theorem run_of_lastPassed (h : ((fresh t m).run c).LastPassed c.builder) :
    (∀ report, ((fresh t m).run c).result = .ok report → report.outcome = .succeeded) ∧
      ∀ cause path, ((fresh t m).run c).result ≠ .error (.file (.system cause path)) := by
  obtain ⟨call, build, hlast, hb, hs⟩ := h
  rw [(run_attempts c (fresh t m)).2] at hlast hb
  have hend := iterate_of_lastPassed hlast hb hs
  unfold run
  split
  · next h => cases (congrArg Prod.snd h).symm.trans hend
  · next h => cases (congrArg Prod.snd h).symm.trans hend
  · exact succeed_cases c _ _
  · next h => cases (congrArg Prod.snd h).symm.trans hend

end RepairState

/-! ## Whole runs -/

/-- What a run that reports has learnt, where `loaded` is the memory after loading and `treated` the
tree after the remedies. -/
structure Learns (repo : String) (now : Timestamp) (loaded : Memory) (treated : Tree)
    (run : RepairRun) (report : RepairReport) : Prop where
  failure : report.outcome ≠ .succeeded → run.memory.Agrees now loaded ∧ run.tree = treated
  success : report.outcome = .succeeded →
    let recorded := loaded.recordFixes repo now (report.applied.filter (·.result.success))
    let saved := (recorded.save treated repo none now).2.2
    run.memory.Agrees now recorded ∧ recorded.HasSaved repo now treated run.tree saved ∧
      (saved = .ok () ∨ ∃ cause path, saved = .error (.file (.system cause path)))

theorem RepairState.run_learns {c : RepairContext} {t : Tree} {loaded : Memory}
    {report : RepairReport} (m : Memory) (hm : m.Agrees c.now loaded)
    (h : ((fresh t m).run c).result = .ok report) :
    Learns c.repo c.now loaded
      (Remedy.applyAll (.ofString c.repo) t (((fresh t m).run c).choices.map (·.2)))
      ((fresh t m).run c) report := by
  obtain ⟨hgood, happlied, hend⟩ := run_ok h
  obtain ⟨hmem, htree⟩ := (iterate_kept c t m c.limit.toNat).resolve_right hgood
  have hchoices : ((fresh t m).run c).choices =
      ((fresh t m).iterate c c.limit.toNat).1.choices := by
    unfold RepairRun.choices
    rw [(run_attempts c _).1]
    rfl
  rw [hchoices, ← htree]
  rcases hend with ⟨hne, hrtree, hrmem⟩ | ⟨hout, u, hl, hrtree, hrmem⟩
  · refine ⟨fun _ => ⟨?_, hrtree⟩, fun hout => absurd hout hne⟩
    rw [hrmem, hmem]
    exact hm
  · refine ⟨fun hne => absurd hout hne, fun _ => ?_⟩
    obtain ⟨hutree, humem, hsaved⟩ := learn_ok hl
    rw [recordAll_eq, hmem, ← happlied] at hutree humem hsaved
    have hagree := hm.recordFixes c.repo (report.applied.filter (·.result.success))
    obtain ⟨htree', hsaved'⟩ :=
      hagree.save_eq ((fresh t m).iterate c c.limit.toNat).1.tree c.repo
    intro recorded saved
    refine ⟨?_, ?_, ?_⟩
    · rw [hrmem, humem]
      exact (Memory.save_agrees _ _ _ _).trans hagree
    · rw [hrtree, hutree, htree']
      exact Memory.save_hasSaved ..
    · rw [hsaved'] at hsaved
      exact hsaved

/-- A run that asked for no build has nothing to learn. -/
theorem learns_of_idle {run : RepairRun} {loaded : Memory} {t : Tree} {repo : String}
    {now : Timestamp} (builder : Builder) (hattempts : run.attempts = []) (hcalls : run.calls = [])
    (hreport : ∀ report, run.result = .ok report → report.outcome ≠ .succeeded ∧
      run.memory.Agrees now loaded ∧ run.tree = t) :
    (∀ report, run.result = .ok report →
      Learns repo now loaded (Remedy.applyAll (.ofString repo) t (run.choices.map (·.2))) run
        report) ∧
    ¬ run.LastPassed builder := by
  refine ⟨?_, ?_⟩
  · intro report h
    obtain ⟨hne, hmem, htree⟩ := hreport report h
    have htreated : Remedy.applyAll (.ofString repo) t (run.choices.map (·.2)) = t := by
      rw [RepairRun.choices, hattempts]
      rfl
    rw [htreated]
    exact ⟨fun _ => ⟨hmem, htree⟩, fun hout => absurd hout hne⟩
  · rintro ⟨call, build, hlast, -⟩
    rw [hcalls] at hlast
    cases hlast

/-- A run that does not succeed remembers what it did after loading, and the remedies alone changed
its tree. A run that succeeds has recorded the fixes that worked and saved the history, or, where
the system refused that, left the files as they were. No remedy writes a history file. If the last
build passed, the run succeeds or something other than the system makes it fail. -/
theorem repair_learns (repo : String) (o : RepairOptions) (builder : Builder) (now : Timestamp)
    (t : Tree) (m : Memory) :
    let run := repair repo o builder now t m
    let treated := Remedy.applyAll (.ofString repo) t (run.choices.map (·.2))
    (∀ report, run.result = .ok report → Learns repo now (m.load t repo).1 treated run report) ∧
    t.NoneWritten Settings.historyFile treated ∧
    (run.LastPassed builder →
      (∀ report, run.result = .ok report → report.outcome = .succeeded) ∧
      ∀ cause path, run.result ≠ .error (.file (.system cause path))) := by
  have hopened := Memory.opened_agrees repo now (m.load t repo).1
  have main : ∀ run, repair repo o builder now t m = run →
      (∀ report, run.result = .ok report →
        Learns repo now (m.load t repo).1
          (Remedy.applyAll (.ofString repo) t (run.choices.map (·.2))) run report) ∧
      (run.LastPassed builder →
        (∀ report, run.result = .ok report → report.outcome = .succeeded) ∧
        ∀ cause path, run.result ≠ .error (.file (.system cause path))) := by
    intro run hr
    have hnone {p : Prop} (h : ¬ run.LastPassed builder) : run.LastPassed builder → p :=
      fun hlast => absurd hlast h
    rcases repair_cases repo o builder now t m with
      ⟨e, -, hrun⟩ | ⟨_, -, ⟨e, -, hrun⟩ | ⟨manager, -, ⟨-, hrun⟩ | ⟨command, -, hrun⟩⟩⟩
    · cases hrun.symm.trans hr
      refine And.imp_right hnone (learns_of_idle builder rfl rfl ?_)
      rintro report ⟨⟩
    · cases hrun.symm.trans hr
      refine And.imp_right hnone (learns_of_idle builder rfl rfl ?_)
      rintro report ⟨⟩
    · cases hrun.symm.trans hr
      refine And.imp_right hnone (learns_of_idle builder rfl rfl ?_)
      rintro report ⟨⟩
      exact ⟨by simp, hopened, rfl⟩
    · cases hrun.symm.trans hr
      let c := o.context repo manager command builder now
      exact ⟨fun report h => RepairState.run_learns (c := c) _ hopened h,
        RepairState.run_of_lastPassed (c := c)⟩
  obtain ⟨hlearns, hlast⟩ := main _ rfl
  exact ⟨hlearns, (Remedy.applyAll_within _ _ _).noneWritten (by decide), hlast⟩

/-- A tree with a file where the directory of the history belongs. -/
def blockedTree : Tree :=
  { entries := [(["app"], .directory),
      (["app", Settings.default.historyDirectory], .file (.text ""))] }

/-- A run that succeeds at the second build. -/
def peerDepsRun (t : Tree) : RepairRun :=
  repair "app" fiveBuilds (.scripted missThenPass) default t (peerDepsMemory 1)

/-- The history file of the repository. -/
def appHistory : Path :=
  ((Path.ofString "app").child Settings.default.historyDirectory).child Settings.historyFile

/-- A success is learnt whether there is a place for the history or not. -/
theorem peerDepsRun_learns :
    (∃ report, (peerDepsRun appTree).result = .ok report ∧ report.outcome = .succeeded ∧
      Learns "app" default ((peerDepsMemory 1).load appTree "app").1
        (Remedy.applyAll (.ofString "app") appTree ((peerDepsRun appTree).choices.map (·.2)))
        (peerDepsRun appTree) report) ∧
    ((peerDepsRun appTree).tree.holds appHistory).toOption = some true ∧
    (∃ report, (peerDepsRun blockedTree).result = .ok report ∧ report.outcome = .succeeded ∧
      Learns "app" default ((peerDepsMemory 1).load blockedTree "app").1
        (Remedy.applyAll (.ofString "app") blockedTree
          ((peerDepsRun blockedTree).choices.map (·.2)))
        (peerDepsRun blockedTree) report) ∧
    ((peerDepsRun blockedTree).tree.holds appHistory).toOption = some false := by
  have hlearns : ∀ t : Tree, (peerDepsRun t).result.toOption.map (·.outcome) = some .succeeded →
      ∃ report, (peerDepsRun t).result = .ok report ∧ report.outcome = .succeeded ∧
        Learns "app" default ((peerDepsMemory 1).load t "app").1
          (Remedy.applyAll (.ofString "app") t ((peerDepsRun t).choices.map (·.2)))
          (peerDepsRun t) report := by
    intro t h
    cases hr : (peerDepsRun t).result with
    | error e =>
      rw [hr] at h
      cases h
    | ok report =>
      rw [hr] at h
      refine ⟨report, rfl, Option.some.inj h, ?_⟩
      exact (repair_learns "app" fiveBuilds (.scripted missThenPass) default t
        (peerDepsMemory 1)).1 report hr
  refine ⟨hlearns _ (by decide +kernel), by decide +kernel, ?_, by decide +kernel⟩
  exact hlearns _ (by decide +kernel)

end BuildRepair
