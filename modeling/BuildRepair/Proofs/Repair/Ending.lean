import BuildRepair.Proofs.Repair.Recording

/-
  How a run ends. Over builds that are known beforehand, the first decisive one within the limit
  says it: a build that passes, or one that fails without an error to work on (`verdict`). A run
  with a memory of proper remedies ends as its verdict says, unless something makes it fail
  altogether, and what that is is said exactly (`repair_ends`): the package manager cannot be told
  because the path is too long, what a passing build printed has no bytes, or the history cannot be
  saved for a reason other than the system's. None of this happens in a run with plain names, plain
  output and a history with room for its successes (`Harmless`).
-/

namespace BuildRepair

/-! ## What the builds decide -/

/-- Whether a build ends a run: it passes, or no error can be told apart in it. -/
def BuildResult.isDecisive (b : BuildResult) : Bool := b.success || b.errors.isEmpty

/-- How a run ends: its outcome, the number of its builds and the errors that remain. -/
structure Verdict where
  outcome : RepairOutcome
  iterations : Nat
  remaining : List Diagnosis

/-- The errors of the last of `n` builds. -/
def lastErrors (builds : Nat → BuildResult) : Nat → List Diagnosis
  | 0 => []
  | n + 1 => (builds n).errors

/-- The first build within a limit that ends a run. -/
def decisive? (builds : Nat → BuildResult) (limit : Nat) : Option Nat :=
  (List.range limit).find? fun i => (builds i).isDecisive

/-- How the builds alone make a run with a limit end. -/
def verdict (builds : Nat → BuildResult) (limit : Nat) : Verdict :=
  match decisive? builds limit with
  | some i => ⟨if (builds i).success then .succeeded else .unparsable, i + 1, []⟩
  | none => ⟨.outOfIterations, limit, lastErrors builds limit⟩

/-- A run that reports a verdict, with a certificate of the last build if that passed. -/
structure RepairRun.EndsAs (run : RepairRun) (v : Verdict) : Prop where
  calls : run.calls.length = v.iterations
  phase : run.phase = .finished v.outcome
  report : ∃ report, run.result = .ok report ∧ report.outcome = v.outcome ∧
    report.iterations = v.iterations ∧ report.remaining = v.remaining ∧
    (report.success = true ↔ v.outcome = .succeeded ∨ v.outcome = .noBuildTarget) ∧
    report.certificate.map (·.iterations) =
      if v.outcome = .succeeded then some (v.iterations : Int) else none

variable {builds : Nat → BuildResult} {i k n : Nat}

theorem decisive?_eq_some (hi : i < k) (hd : (builds i).isDecisive = true)
    (hlt : ∀ j < i, (builds j).isDecisive = false) : decisive? builds k = some i := by
  unfold decisive?
  rw [List.find?_range_eq_some]
  refine ⟨hd, List.mem_range.mpr hi, ?_⟩
  intro j hj
  rw [hlt j hj]
  rfl

theorem decisive?_eq_none (hlt : ∀ j < k, (builds j).isDecisive = false) :
    decisive? builds k = none := by
  unfold decisive?
  rw [List.find?_range_eq_none]
  intro j hj
  rw [hlt j hj]
  rfl

/-- A failure that is not the system's. -/
def Failure.unlessSystem? : Failure → Option Failure
  | .file (.system ..) => none
  | e => some e

theorem Failure.unlessSystem?_eq {e : Failure}
    (h : ∀ cause path, e = .file (.system cause path) → False) : e.unlessSystem? = some e := by
  unfold unlessSystem?
  split
  · exact (h _ _ rfl).elim
  · rfl

namespace RepairState

variable {c : RepairContext} {t : Tree} {m : Memory} {s u v : RepairState} {build : BuildResult}

/-! ## The iterations of a run -/

/-- Before a run ends none of its builds was decisive, and it has the errors of the last one. -/
theorem reaches_undecided (hb : c.builder = .scripted builds) (h : Reaches c (fresh t m) n u) :
    (∀ i < n, (builds i).isDecisive = false) ∧ u.errors = lastErrors builds n := by
  induction h with
  | start => exact ⟨fun i hi => absurd hi (Nat.not_lt_zero i), rfl⟩
  | next n u v hr hv ih =>
    obtain ⟨-, hiter, -⟩ := hr.of_fresh
    have hbuild : ∀ build, c.builder c.call u.iteration = .ok build → build = builds n := by
      intro build h
      rw [hb, hiter] at h
      cases h
      rfl
    have hnext : ∀ d ds build, c.builder c.call u.iteration = .ok build → build.success = false →
        build.errors = d :: ds → v.errors = d :: ds →
        (∀ i < n + 1, (builds i).isDecisive = false) ∧ v.errors = lastErrors builds (n + 1) := by
      intro d ds build hbld hfail herr hv
      cases hbuild build hbld
      refine ⟨?_, hv.trans herr.symm⟩
      intro i hi
      rcases Nat.lt_succ_iff_lt_or_eq.mp hi with hi | rfl
      · exact ih.1 i hi
      · rw [BuildResult.isDecisive, hfail, herr]
        rfl
    cases stepped_of_step hv with
    | exhausted build d ds _ _ hbld hfail herr hverr => exact hnext d ds build hbld hfail herr hverr
    | treated build d ds _ _ _ _ _ hbld hfail herr hverr =>
      exact hnext d ds build hbld hfail herr hverr

/-- Where a run stands when its iterations are over. -/
inductive Over (builds : Nat → BuildResult) (c : RepairContext) (s : RepairState) (k : Nat) :
    Option Nat → RepairState × StepEnd → Prop
  | spent (u : RepairState) : u.iteration = k → u.calls.length = k →
      u.errors = lastErrors builds k → Over builds c s k none (u, .next)
  | passed (i : Nat) (u v : RepairState) : s.iterate c i = (u, .next) →
      v.iteration = i + 1 → v.calls.length = i + 1 → v.memory = u.memory → Idle u v →
      (builds i).success = true → Over builds c s k (some i) (v, .succeeded (builds i))
  | unclear (i : Nat) (v : RepairState) : v.iteration = i + 1 → v.calls.length = i + 1 →
      v.errors = [] → (builds i).success = false → Over builds c s k (some i) (v, .unparsable)

theorem iterate_over (hm : m.Proper) (hb : c.builder = .scripted builds) (k : Nat) :
    Over builds c (fresh t m) k (decisive? builds k) ((fresh t m).iterate c k) := by
  rcases iterate_cases c k (fresh t m) with ⟨u, hu, hr⟩ | ⟨n, hn, u, v, ending, hr, hv, hne, hi⟩
  · obtain ⟨hlt, herr⟩ := reaches_undecided hb hr
    obtain ⟨-, hiter, hcalls⟩ := hr.of_fresh
    rw [hu, decisive?_eq_none hlt]
    exact .spent u hiter hcalls herr
  · obtain ⟨hlt, -⟩ := reaches_undecided hb hr
    obtain ⟨hmem, hiter, hcalls⟩ := hr.of_fresh
    have hlast : Counted c u v → v.iteration = n + 1 ∧ v.calls.length = n + 1 := by
      intro hc
      rw [hc.iteration, hc.calls, List.length_append, hiter, hcalls]
      exact ⟨rfl, rfl⟩
    rw [hi]
    cases stepped_of_step hv with
    | crashed e _ _ hbuild =>
      rw [hb] at hbuild
      cases hbuild
    | passed build hc hidle hbuild hpass =>
      rw [hb, hiter] at hbuild
      cases hbuild
      rw [decisive?_eq_some hn (by rw [BuildResult.isDecisive, hpass]; rfl) hlt]
      obtain ⟨hvi, hvc⟩ := hlast hc
      exact .passed n u v hr.iterate_eq hvi hvc hc.memory hidle hpass
    | unclear build hc hidle hbuild hfail herr hverr =>
      rw [hb, hiter] at hbuild
      cases hbuild
      rw [decisive?_eq_some hn (by rw [BuildResult.isDecisive, herr]; simp) hlt]
      obtain ⟨hvi, hvc⟩ := hlast hc
      exact .unclear n v hvi hvc hverr hfail
    | exhausted => exact absurd rfl hne
    | treated => exact absurd rfl hne
    | stuck _ e d _ _ _ hstuck =>
      exact absurd hstuck (not_stuck (hmem ▸ hm))

/-! ## What can go wrong with a success -/

/-- What makes saving the history fail, if the system is not to blame. -/
def saveFault? (c : RepairContext) (s : RepairState) : Option Failure :=
  match ((recordAll c s.applied s.memory).save s.tree c.repo none c.now).2.2 with
  | .error e => e.unlessSystem?
  | .ok () => none

/-- What makes a run with a passing build fail: what it printed has no bytes, or the history cannot
be saved. -/
def successFault? (c : RepairContext) (s : RepairState) (build : BuildResult) : Option Failure :=
  match Text.Utf8.encode? (build.out ++ build.err).toList with
  | .error e => some (.notEncodable e)
  | .ok _ => s.saveFault? c

theorem successFault?_congr (hm : v.memory = u.memory) (h : Idle u v) :
    v.successFault? c build = u.successFault? c build := by
  unfold successFault? saveFault?
  rw [h.tree, h.applied, hm]

theorem learn_spec (c : RepairContext) (s : RepairState) :
    (s.learn c).2 = (match s.saveFault? c with | some e => .error e | none => .ok ()) ∧
      (s.learn c).1.iteration = s.iteration ∧ (s.learn c).1.calls = s.calls := by
  unfold learn saveFault?
  dsimp only
  split
  · next h =>
    rw [h]
    exact ⟨rfl, rfl, rfl⟩
  · next hne h =>
    rw [h]
    dsimp only
    rw [Failure.unlessSystem?_eq hne]
    exact ⟨rfl, rfl, rfl⟩
  · next h =>
    rw [h]
    exact ⟨rfl, rfl, rfl⟩

/-- A certificate is given exactly for output with bytes, and says after how many iterations. -/
theorem proofOf_cases (time : Timestamp) (build : BuildResult) (manager command : String)
    (iteration : Int) :
    (∃ e, Text.Utf8.encode? (build.out ++ build.err).toList = .error e ∧
      BuildProof.of time build manager command iteration = .error (.notEncodable e)) ∨
    ∃ bytes certificate, Text.Utf8.encode? (build.out ++ build.err).toList = .ok bytes ∧
      BuildProof.of time build manager command iteration = .ok certificate ∧
      certificate.iterations = iteration := by
  unfold BuildProof.of Text.Sha256.ofString?
  cases Text.Utf8.encode? (build.out ++ build.err).toList with
  | error e => exact .inl ⟨e, rfl, rfl⟩
  | ok bytes => exact .inr ⟨bytes, _, rfl, rfl, rfl⟩

theorem succeed_fails {e : Failure} (h : s.successFault? c build = some e) :
    (s.succeed c build).result = .error e := by
  unfold successFault? at h
  unfold succeed
  rcases proofOf_cases c.now build c.call.manager c.call.command s.iteration with
    ⟨e', he, hp⟩ | ⟨bytes, certificate, hb, hp, -⟩
  · rw [he] at h
    cases h
    rw [hp]
    rfl
  · rw [hb] at h
    dsimp only at h
    have hl := (learn_spec c s).1
    rw [h] at hl
    rw [hp]
    dsimp only
    split
    · next hle =>
      rw [hle] at hl
      cases hl
      rfl
    · next hlo =>
      rw [hlo] at hl
      cases hl

theorem succeed_ends (h : s.successFault? c build = none) (hc : s.calls.length = s.iteration) :
    (s.succeed c build).EndsAs ⟨.succeeded, s.iteration, []⟩ := by
  unfold successFault? at h
  unfold succeed
  rcases proofOf_cases c.now build c.call.manager c.call.command s.iteration with
    ⟨e', he, -⟩ | ⟨bytes, certificate, hb, hp, hcert⟩
  · rw [he] at h
    cases h
  · rw [hb] at h
    dsimp only at h
    obtain ⟨hl, hiter, hcalls⟩ := learn_spec c s
    rw [h] at hl
    rw [hp]
    dsimp only
    split
    · next hle =>
      rw [hle] at hl
      cases hl
    · next u hlo =>
      rw [hlo] at hiter hcalls
      refine ⟨?_, rfl, _, rfl, rfl, hiter, rfl, ?_, ?_⟩
      · show u.calls.length = s.iteration
        rw [hcalls, hc]
      · simp [RepairReport.success, RepairOutcome.isSuccess]
      · simp [hcert]

/-! ## Whole runs -/

/-- What makes iterations over known builds fail altogether. -/
def runFault? (c : RepairContext) (builds : Nat → BuildResult) (s : RepairState) :
    Option Failure :=
  match decisive? builds c.limit.toNat with
  | some i => if (builds i).success then (s.iterate c i).1.successFault? c (builds i) else none
  | none => none

theorem run_ends (hm : m.Proper) (hb : c.builder = .scripted builds) :
    match runFault? c builds (fresh t m) with
    | some e => ((fresh t m).run c).result = .error e
    | none => ((fresh t m).run c).EndsAs (verdict builds c.limit.toNat) := by
  have hover := iterate_over (t := t) hm hb c.limit.toNat
  unfold run runFault? verdict
  generalize (fresh t m).iterate c c.limit.toNat = reached at hover ⊢
  generalize decisive? builds c.limit.toNat = first at hover ⊢
  cases hover with
  | spent u hiter hcalls herr =>
    refine ⟨hcalls, rfl, _, rfl, rfl, hiter, ?_, ?_, rfl⟩
    · exact herr
    · simp [RepairReport.success, RepairOutcome.isSuccess]
  | passed i u v hu hiter hcalls hmem hidle hpass =>
    dsimp only
    rw [hpass, hu, if_pos rfl, if_pos rfl, ← successFault?_congr hmem hidle]
    have hlen : v.calls.length = v.iteration := hcalls.trans hiter.symm
    cases hf : v.successFault? c (builds i) with
    | some e => exact succeed_fails hf
    | none =>
      rw [← hiter]
      exact succeed_ends hf hlen
  | unclear i v hiter hcalls herr hfail =>
    dsimp only
    rw [hfail]
    refine ⟨hcalls, rfl, _, rfl, rfl, hiter, ?_, ?_, rfl⟩
    · exact herr
    · simp [RepairReport.success, RepairOutcome.isSuccess]

/-- Saving what a run learns meets no fault but the system's if the paths are plain and the history
has room for every fix. -/
theorem saveFault?_eq_none (hrepo : Text.Plain c.repo.toList)
    (hbase : ∀ p, s.memory.base = some p → p.IsPlain)
    (happlied : ∀ f ∈ s.applied, f.result.remedy.Proper)
    (hlen : s.applied.length < History.countLimit)
    (hroom : (s.memory.history c.repo c.now).HasRoom s.applied.length) :
    s.saveFault? c = none := by
  let worked := s.applied.filter (·.result.success)
  have hworked : worked.length ≤ s.applied.length := List.length_filter_le ..
  have hsaved : ((s.memory.recordFixes c.repo c.now worked).history c.repo c.now).HasRoom 0 := by
    refine Memory.hasRoom_recordFixes ?_ ?_ ?_
    · exact fun f hf => happlied f (List.mem_filter.mp hf).1
    · omega
    · exact hroom.mono (by omega)
  unfold saveFault?
  rw [recordAll_eq]
  split
  · next e he =>
    rw [← Memory.base_recordFixes s.memory c.repo c.now worked] at hbase
    obtain ⟨_, rfl, cause, path, rfl⟩ := Memory.save_system hrepo hbase hsaved he
    rfl
  · rfl

theorem runFault?_eq_none (hm : m.Proper) (hb : c.builder = .scripted builds)
    (hrepo : Text.Plain c.repo.toList) (hbase : ∀ p, m.base = some p → p.IsPlain)
    (houtput : ∀ n, Text.holdsHalf ((builds n).out ++ (builds n).err) = false)
    (hlimit : c.limit.toNat < History.countLimit)
    (hroom : (m.history c.repo c.now).HasRoom c.limit.toNat) :
    runFault? c builds (fresh t m) = none := by
  have hover := iterate_over (t := t) hm hb c.limit.toNat
  unfold runFault?
  generalize (fresh t m).iterate c c.limit.toNat = reached at hover
  cases hfirst : decisive? builds c.limit.toNat with
  | none => rfl
  | some i =>
    have hi : i < c.limit.toNat := by
      unfold decisive? at hfirst
      exact List.mem_range.mp (List.mem_of_find?_eq_some hfirst)
    rw [hfirst] at hover
    dsimp only
    cases hover with
    | unclear _ _ _ _ _ hfail =>
      rw [hfail]
      rfl
    | passed _ u v hu _ _ _ _ hpass =>
      rw [hpass, if_pos rfl, hu]
      show u.successFault? c (builds i) = none
      have hreach := reaches_of_iterate hu
      obtain ⟨hmem, -, -⟩ := hreach.of_fresh
      obtain ⟨hlen, happlied⟩ := hreach.applied hm
      obtain ⟨bytes, hbytes⟩ := Text.encode?_of_noHalf (Text.isHalf_of_holdsHalf (houtput i))
      unfold successFault?
      rw [hbytes]
      refine saveFault?_eq_none hrepo (hmem ▸ hbase) happlied (by omega) ?_
      rw [hmem]
      exact hroom.mono (by omega)

end RepairState

/-- What makes a run over known builds fail altogether: the package manager cannot be told, or the
iterations fail. -/
def repairFault? (repo : String) (o : RepairOptions) (builds : Nat → BuildResult)
    (now : Timestamp) (t : Tree) (m : Memory) : Option Failure :=
  match o.managerFor t (.ofString repo) with
  | .error e => some (.file e)
  | .ok manager =>
    match o.commandFor t (.ofString repo) with
    | none => none
    | some command =>
      RepairState.runFault? (o.context repo manager command (.scripted builds) now) builds
        (.fresh t ((m.load t repo).1.opened repo now))

/-- How a run over known builds ends, if there is something to build. -/
def repairVerdict (repo : String) (o : RepairOptions) (builds : Nat → BuildResult) (t : Tree) :
    Verdict :=
  match o.commandFor t (.ofString repo) with
  | none => ⟨.noBuildTarget, 0, []⟩
  | some _ => verdict builds (o.maxIterations.getD Settings.default.maxIterations).toNat

/-- A run in which only the builds decide: the package manager is given or can be told, the names
are plain, all that is printed has bytes, and no count of the history is near what is too long to be
written. -/
structure Harmless (repo : String) (o : RepairOptions) (builds : Nat → BuildResult)
    (now : Timestamp) (t : Tree) (m : Memory) : Prop where
  manager : ∃ manager, o.managerFor t (.ofString repo) = .ok manager
  name : Text.Plain repo.toList
  base : ∀ p, m.base = some p → p.IsPlain
  output : ∀ n, Text.holdsHalf ((builds n).out ++ (builds n).err) = false
  limit : (o.maxIterations.getD Settings.default.maxIterations).toNat < History.countLimit
  room : (m.history repo now).HasRoom (o.maxIterations.getD Settings.default.maxIterations).toNat

theorem Harmless.no_fault {repo : String} {o : RepairOptions} {builds : Nat → BuildResult}
    {now : Timestamp} {t : Tree} {m : Memory} (h : Harmless repo o builds now t (m.load t repo).1)
    (hm : (m.load t repo).1.Proper) : repairFault? repo o builds now t m = none := by
  obtain ⟨manager, hmanager⟩ := h.manager
  unfold repairFault?
  rw [hmanager]
  dsimp only
  split
  · rfl
  · next command _ =>
    have hroom := h.room
    rw [← (Memory.opened_agrees repo now (m.load t repo).1).history repo] at hroom
    let c := o.context repo manager command (.scripted builds) now
    exact RepairState.runFault?_eq_none (c := c) hm.opened rfl h.name h.base h.output h.limit hroom

/-- Once a memory of proper remedies is loaded, a run either fails for one of the reasons in
`repairFault?` or ends as the builds alone decide. In a harmless run there is no such reason. -/
theorem repair_ends (repo : String) (o : RepairOptions) (builds : Nat → BuildResult)
    (now : Timestamp) (t : Tree) (m : Memory) (found : Option History)
    (hload : (m.load t repo).2 = .ok found) (hm : (m.load t repo).1.Proper) :
    (match repairFault? repo o builds now t m with
    | some e => (repair repo o (.scripted builds) now t m).result = .error e
    | none => (repair repo o (.scripted builds) now t m).EndsAs
        (repairVerdict repo o builds t)) ∧
    (Harmless repo o builds now t (m.load t repo).1 →
      repairFault? repo o builds now t m = none) := by
  refine ⟨?_, fun h => h.no_fault hm⟩
  unfold repairFault? repairVerdict
  rcases repair_cases repo o (.scripted builds) now t m with
    ⟨e, he, -⟩ | ⟨_, -, ⟨e, he, hrun⟩ | ⟨manager, hmanager, ⟨hc, hrun⟩ | ⟨command, hc, hrun⟩⟩⟩
  · cases he.symm.trans hload
  · rw [he, hrun]
  · rw [hmanager, hc, hrun]
    refine ⟨rfl, rfl, _, rfl, rfl, rfl, rfl, ?_, rfl⟩
    simp [RepairReport.success, RepairOutcome.isSuccess]
  · rw [hmanager, hc, hrun]
    let c := o.context repo manager command (.scripted builds) now
    exact RepairState.run_ends (c := c) hm.opened rfl

theorem RepairRun.EndsAs.isOk {run : RepairRun} {v : Verdict} (h : run.EndsAs v) :
    run.result.isOk = true := by
  obtain ⟨report, hr, -⟩ := h.report
  rw [hr]
  rfl

/-! ## Runs with a known remedy -/

/-- A build that misses a package, and then builds that pass. -/
def missThenPass (n : Nat) : BuildResult :=
  if n = 0 then ⟨false, 1, "", "E404"⟩ else ⟨true, 0, "", ""⟩

/-- Options of a run over at most five builds. -/
def fiveBuilds : RepairOptions :=
  { maxIterations := some 5, manager := "npm", command := some "build" }

/-- A history in which a remedy worked some times for a package that is not found. -/
def peerDepsHistory (count : Nat) : History :=
  { repo := .str "app", lastRun := default
    fixes := [⟨.str "dependency_not_found:none", .legacyPeerDeps, count, default⟩] }

/-- A memory with this history. -/
def peerDepsMemory (count : Nat) : Memory := { histories := [("app", peerDepsHistory count)] }

theorem peerDepsMemory_proper (count : Nat) : (peerDepsMemory count).Proper := by
  refine .of_fixes (fun f hf => ?_) "app"
  cases List.mem_singleton.mp hf
  exact .legacyPeerDeps

/-- A tree with an empty repository. -/
def appTree : Tree := { entries := [(["app"], .directory)] }

theorem peerDeps_verdict :
    repairVerdict "app" fiveBuilds missThenPass appTree = ⟨.succeeded, 2, []⟩ := by
  have hfirst : decisive? missThenPass 5 = some 1 := by decide +kernel
  show verdict missThenPass 5 = _
  unfold verdict
  rw [hfirst]
  rfl

theorem missThenPass_output (n : Nat) :
    Text.holdsHalf ((missThenPass n).out ++ (missThenPass n).err) = false := by
  unfold missThenPass
  split <;> decide

theorem peerDeps_harmless : Harmless "app" fiveBuilds missThenPass default appTree
    ((peerDepsMemory 1).load appTree "app").1 where
  manager := ⟨"npm", rfl⟩
  name := by decide
  base p h := by cases h
  output := missThenPass_output
  limit := by decide +kernel
  room := by
    intro f hf
    cases List.mem_singleton.mp hf
    exact ⟨.legacyPeerDeps, by decide +kernel⟩

/-- A run that succeeds at the second build. -/
theorem peerDeps_ends :
    ((peerDepsMemory 1).load appTree "app").2 = .ok (some (peerDepsHistory 1)) ∧
    ((peerDepsMemory 1).load appTree "app").1.Proper ∧
    Harmless "app" fiveBuilds missThenPass default appTree
      ((peerDepsMemory 1).load appTree "app").1 ∧
    (repair "app" fiveBuilds (.scripted missThenPass) default appTree (peerDepsMemory 1)).EndsAs
      ⟨.succeeded, 2, []⟩ := by
  obtain ⟨h, hfault⟩ := repair_ends "app" fiveBuilds missThenPass default appTree
    (peerDepsMemory 1) _ rfl (peerDepsMemory_proper 1)
  rw [hfault peerDeps_harmless, peerDeps_verdict] at h
  exact ⟨rfl, peerDepsMemory_proper 1, peerDeps_harmless, h⟩

/-- As many successes as can be written. -/
def mostSuccesses : Nat := History.countLimit - 1

/-- A run fails when a count in the history grows beyond what can be written, although its second
build passes. -/
theorem peerDeps_fails :
    ((peerDepsMemory mostSuccesses).load appTree "app").2 =
      .ok (some (peerDepsHistory mostSuccesses)) ∧
    ((peerDepsMemory mostSuccesses).load appTree "app").1.Proper ∧
    repairVerdict "app" fiveBuilds missThenPass appTree = ⟨.succeeded, 2, []⟩ ∧
    ¬ (repair "app" fiveBuilds (.scripted missThenPass) default appTree
      (peerDepsMemory mostSuccesses)).EndsAs ⟨.succeeded, 2, []⟩ := by
  refine ⟨rfl, peerDepsMemory_proper _, peerDeps_verdict, ?_⟩
  intro h
  have hfail : (repair "app" fiveBuilds (.scripted missThenPass) default appTree
      (peerDepsMemory mostSuccesses)).result.isOk = false := by
    decide +kernel
  rw [h.isOk] at hfail
  cases hfail

end BuildRepair
