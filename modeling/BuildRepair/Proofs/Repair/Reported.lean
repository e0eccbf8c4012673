import BuildRepair.Proofs.Remedy.Effect
import BuildRepair.Proofs.Repair.Greedy

/-
  Which remedies a run reports twice for one error. A run never chooses a remedy twice for an error,
  but what it reports is the remedy that was in fact applied, and the removal of a lockfile that is
  not there removes another one instead. `reported_nodup_iff` says exactly when a report repeats
  itself: a known remedy names a lockfile that is not there, the default one goes in its place, and
  later the default one is chosen itself (`Repeats`). Nothing else repeats, because a lockfile that
  was removed does not come back during a run.

  `Accounted` is what holds of every treatment once it is over, and `Reported` the invariant of the
  run.
-/

namespace BuildRepair

open RepairState (Idle Treated fresh)
open Rotation (entry IsFirstUntried)

/-- What a fix reports: the error it was for and the remedy that was in fact applied. -/
def AppliedFix.reported (f : AppliedFix) : Rotation.Entry := entry f.fault f.result.remedy

/-- A remedy that was chosen and the fix that came of it. -/
abbrev Treatment := Remedy × AppliedFix

/-- The choices of a run, each with its fix. -/
def treatmentsOf (choices : List (Nat × Remedy)) (applied : List AppliedFix) : List Treatment :=
  (choices.map (·.2)).zip applied

/-- Two treatments of one error that report the same. In the first one the removal of another
lockfile was chosen, because it is the known remedy, and the default lockfile went in its place; in
the second one the default lockfile was chosen. -/
structure Repeats (known : Diagnosis → Option Remedy) (x y : Treatment) : Prop where
  fault : x.2.fault.key = y.2.fault.key
  first : known x.2.fault = some x.1
  lockfile : ∃ name, x.1 = .removeLockfile (.str name)
  other : x.1 ≠ Remedy.defaultLockfile
  firstReport : x.2.result.remedy = Remedy.defaultLockfile
  second : y.1 = Remedy.defaultLockfile
  secondReport : y.2.result.remedy = Remedy.defaultLockfile

/-- What is certain of a treatment when it is over: what was chosen and the known remedy of its
error count as tried, the report is about the chosen remedy or another lockfile, and a lockfile
whose removal is reported is not there. -/
structure Accounted (known : Diagnosis → Option Remedy) (repo : Path) (tried : List Rotation.Entry)
    (t : Tree) (x : Treatment) : Prop where
  reportProper : x.2.result.remedy.Proper
  chosen : entry x.2.fault x.1 ∈ tried
  knownTried : ∀ k, known x.2.fault = some k → entry x.2.fault k ∈ tried
  lockfile : ∀ name, x.1 = .removeLockfile (.str name) →
    known x.2.fault = some x.1 ∨ x.1 = Remedy.defaultLockfile
  report : x.2.result.remedy = x.1 ∨ ∃ name other, x.1 = .removeLockfile (.str name) ∧
    x.2.result.remedy = .removeLockfile (.str other)
  gone : ∀ name ∈ Remedy.lockfiles, x.2.result.remedy = .removeLockfile (.str name) →
    ¬ t.HasFile (repo.child name)

/-- What is certain of the treatments of a run: each is accounted for, and two with the same report
are a repetition. -/
structure Reported (known : Diagnosis → Option Remedy) (repo : Path) (s : RepairState) : Prop where
  length : s.choices.length = s.applied.length
  accounted : ∀ x ∈ treatmentsOf s.choices s.applied,
    Accounted known repo s.rotation.tried s.tree x
  repeats : (treatmentsOf s.choices s.applied).Pairwise fun x y =>
    x.2.reported = y.2.reported → Repeats known x y

variable {known : Diagnosis → Option Remedy} {repo : Path} {tried tried' : List Rotation.Entry}
  {t u : Tree} {x y : Treatment} {d : Diagnosis} {r : Remedy} {a : Application} {i n : Nat}

/-! ## One treatment -/

theorem Accounted.mono (h : Accounted known repo tried t x) (hsub : ∀ k ∈ tried, k ∈ tried')
    (hw : t.Within Remedy.writtenFiles u) : Accounted known repo tried' u x where
  reportProper := h.reportProper
  chosen := hsub _ h.chosen
  knownTried k hk := hsub _ (h.knownTried k hk)
  lockfile := h.lockfile
  report := h.report
  gone := by
    intro name hn hx hu
    refine h.gone name hn hx (hw.hasFile ?_ ?_ hu)
    · exact Remedy.isName_of_lockfile name hn
    · exact Remedy.lockfile_not_written name hn

/-- A treatment that follows one with the same report repeats it in the one way there is. -/
theorem Accounted.repeats (hx : Accounted known repo tried t x)
    (hkey : x.2.fault.key = d.key) (hknown : known x.2.fault = known d)
    (hfresh : entry d r ∉ tried)
    (hlock : ∀ name, r = .removeLockfile (.str name) →
      known d = some r ∨ r = Remedy.defaultLockfile)
    (happly : r.apply t repo = .ok (u, a)) (hsame : x.2.result.remedy = a.remedy) :
    Repeats known x (r, ⟨i, d, a⟩) := by
  have hentry : ∀ q, entry x.2.fault q = entry d q := by
    intro q
    unfold entry
    rw [hkey]
  have hne : x.1 ≠ r := by
    rintro rfl
    exact hfresh (hentry _ ▸ hx.chosen)
  rcases Remedy.apply_reported happly with ha | ⟨name, -, other, ho, -, ha, hfile, -⟩
  · -- the second report is about the remedy that was chosen, so the first one was not
    rw [ha] at hsame
    rcases hx.report with hrep | ⟨name, other, hname, hrep⟩
    · exact absurd (hrep.symm.trans hsame) hne
    · have hr' : r = .removeLockfile (.str other) := hsame.symm.trans hrep
      have hdefault : r = Remedy.defaultLockfile := by
        rcases hlock other hr' with hk | hk
        · exact absurd (hentry r ▸ hx.knownTried r (hknown.trans hk)) hfresh
        · exact hk
      have hfirst : known x.2.fault = some x.1 := by
        rcases hx.lockfile name hname with hk | hk
        · exact hk
        · exact absurd (hk.trans hdefault.symm) hne
      exact
        { fault := hkey
          first := hfirst
          lockfile := ⟨name, hname⟩
          other := fun h => hne (h.trans hdefault.symm)
          firstReport := hsame.trans hdefault
          second := hdefault
          secondReport := ha.trans hdefault }
  · -- the second report is about a lockfile that the first treatment left no more
    exact absurd hfile (hx.gone other ho (hsame.trans ha))

theorem Repeats.reported_eq (h : Repeats known x y) : x.2.reported = y.2.reported := by
  unfold AppliedFix.reported entry
  rw [h.fault, h.firstReport, h.secondReport]

theorem Memory.lockfile_of_candidate {m : Memory} {repo : String} {now : Timestamp} {name : String}
    (h : .removeLockfile (.str name) ∈ m.candidates repo now d) :
    m.best repo d.pattern now = some (.removeLockfile (.str name)) ∨
      .removeLockfile (.str name) = Remedy.defaultLockfile := by
  simp only [candidates, List.mem_append, Option.mem_toList, List.mem_singleton] at h
  rcases h with (h | h) | h
  · exact .inl h
  · exact .inr (Diagnosis.eq_defaultLockfile h)
  · cases h

/-- The remedy that a run chooses is accounted for when it has been applied. -/
theorem Accounted.of_apply {m : Memory} {name : String} {now : Timestamp} (hm : m.Proper)
    (hfirst : IsFirstUntried tried d (m.candidates name now d) (some r))
    (happly : r.apply t repo = .ok (u, a)) :
    Accounted (fun d => m.best name d.pattern now) repo (entry d r :: tried) u
      (r, ⟨i, d, a⟩) where
  reportProper := (hm.candidates r hfirst.mem).of_apply happly
  chosen := List.mem_cons_self ..
  knownTried k hk := by
    have hk : m.best name d.pattern now = some k := hk
    have hcandidates : m.candidates name now d = k :: (d.remedies ++ [Remedy.lastResort]) := by
      unfold Memory.candidates
      rw [hk]
      rfl
    rw [hcandidates] at hfirst
    exact hfirst.head_tried
  lockfile other ho := by
    have hmem := hfirst.mem
    rw [show r = _ from ho] at hmem ⊢
    exact Memory.lockfile_of_candidate hmem
  report := by
    rcases Remedy.apply_reported happly with ha | ⟨first, hr, other, -, -, ha, -⟩
    · exact .inl ha
    · exact .inr ⟨first, other, hr, ha⟩
  gone other ho hx := by
    rcases Remedy.apply_reported happly with ha | ⟨_, -, removed, -, -, ha, -, hgone⟩
    · have hr : r = .removeLockfile (.str other) := ha.symm.trans hx
      rw [hr] at happly
      exact Remedy.apply_removes ho happly
    · cases ha.symm.trans hx
      exact hgone

/-! ## The treatments of a run -/

theorem treatmentsOf_append {choices : List (Nat × Remedy)} {applied : List AppliedFix}
    (h : choices.length = applied.length) (f : AppliedFix) :
    treatmentsOf (choices ++ [(i, r)]) (applied ++ [f]) =
      treatmentsOf choices applied ++ [(r, f)] := by
  unfold treatmentsOf
  rw [List.map_append, List.zip_append (by rw [List.length_map, h])]
  rfl

theorem map_treatmentsOf {choices : List (Nat × Remedy)} {applied : List AppliedFix}
    (h : choices.length = applied.length) : (treatmentsOf choices applied).map (·.2) = applied := by
  unfold treatmentsOf
  exact List.map_snd_zip (Nat.le_of_eq (by rw [List.length_map, h]))

theorem Reported.fresh (known : Diagnosis → Option Remedy) (repo : Path) (t : Tree) (m : Memory) :
    Reported known repo (fresh t m) :=
  ⟨rfl, by simp [treatmentsOf, RepairState.fresh, RepairState.choices], .nil⟩

theorem Reported.idle {s v : RepairState} (h : Reported known repo s) (hi : Idle s v) :
    Reported known repo v := by
  obtain ⟨hlength, haccounted, hrepeats⟩ := h
  rw [← hi.choices, ← hi.applied] at hlength hrepeats haccounted
  rw [← hi.rotation, ← hi.tree] at haccounted
  exact ⟨hlength, haccounted, hrepeats⟩

theorem Reported.treated {c : RepairContext} {s v : RepairState} {m : Memory} (hm : m.Proper)
    (h : Reported (fun d => m.best c.repo d.pattern c.now) (.ofString c.repo) s)
    (hfirst : IsFirstUntried s.rotation.tried d (m.candidates c.repo c.now d) (some r))
    (ht : Treated c i s v d r a) :
    Reported (fun d => m.best c.repo d.pattern c.now) (.ofString c.repo) v := by
  have hr : r.Proper := hm.candidates r hfirst.mem
  have hrot : v.rotation.tried = entry d r :: s.rotation.tried := by
    have hmark := ht.marks
    rw [Rotation.mark_eq hr] at hmark
    exact congrArg Rotation.tried (Except.ok.inj hmark).symm
  have hold : ∀ x ∈ treatmentsOf s.choices s.applied,
      Accounted (fun d => m.best c.repo d.pattern c.now) (.ofString c.repo)
        (entry d r :: s.rotation.tried) v.tree x := by
    intro x hx
    exact (h.accounted x hx).mono (fun k hk => List.mem_cons_of_mem _ hk)
      (Remedy.apply_within ht.applies)
  have htreatments : treatmentsOf v.choices v.applied =
      treatmentsOf s.choices s.applied ++ [(r, ⟨i, d, a⟩)] := by
    rw [ht.choices, ht.applied, treatmentsOf_append h.length]
  refine ⟨?_, ?_, ?_⟩
  · rw [ht.choices, ht.applied, List.length_append, List.length_append, h.length]
    rfl
  · rw [htreatments, hrot]
    intro x hx
    rcases List.mem_append.mp hx with hx | hx
    · exact hold x hx
    · rw [List.mem_singleton.mp hx]
      exact .of_apply hm hfirst ht.applies
  · rw [htreatments, List.pairwise_append]
    refine ⟨h.repeats, List.pairwise_singleton .., ?_⟩
    intro x hx y hy hsame
    rw [List.mem_singleton.mp hy] at hsame ⊢
    have hacc := h.accounted x hx
    have hnew := Accounted.of_apply hm hfirst ht.applies (i := i)
    have hreport : a.remedy.Proper := hnew.reportProper
    obtain ⟨hkey, hremedy⟩ := Rotation.entry_inj hacc.reportProper hreport hsame
    refine hacc.repeats hkey ?_ hfirst.fresh ?_ ht.applies hremedy
    · show m.best c.repo x.2.fault.pattern c.now = m.best c.repo d.pattern c.now
      rw [Diagnosis.pattern_eq_of_key hkey]
    · intro name hname
      have hmem := hfirst.mem
      rw [hname] at hmem ⊢
      exact Memory.lockfile_of_candidate hmem

theorem Reported.nodup_iff {s : RepairState} (h : Reported known repo s) :
    (s.applied.map AppliedFix.reported).Nodup ↔
      (treatmentsOf s.choices s.applied).Pairwise fun x y => ¬ Repeats known x y := by
  have hmap := map_treatmentsOf h.length
  have hpair : (s.applied.map AppliedFix.reported).Nodup ↔
      (treatmentsOf s.choices s.applied).Pairwise fun x y => x.2.reported ≠ y.2.reported := by
    rw [← hmap, List.map_map, List.nodup_iff_pairwise_ne, List.pairwise_map, hmap]
    rfl
  rw [hpair]
  constructor
  · intro hne
    exact hne.imp fun hxy hrep => hxy hrep.reported_eq
  · intro hnone
    exact (h.repeats.and hnone).imp fun hxy hsame => hxy.2 (hxy.1 hsame)

/-! ## Whole runs -/

namespace RepairState

variable {c : RepairContext} {m : Memory}

theorem iterate_reported (hm : m.Proper) (t : Tree) (n : Nat) :
    Reported (fun d => m.best c.repo d.pattern c.now) (.ofString c.repo)
        ((fresh t m).iterate c n).1 ∨
      ∃ e, ((fresh t m).iterate c n).2 = .failed e := by
  have main := iterate_induction (c := c) (s := fresh t m)
    (P := fun s => s.memory = m ∧
      Reported (fun d => m.best c.repo d.pattern c.now) (.ofString c.repo) s)
    ⟨rfl, .fresh ..⟩
    (fun u v hu hmem hi => ⟨hmem.trans hu.1, hu.2.idle hi⟩)
    (by
      intro u v d r known a hu hmem ht hc
      refine ⟨hmem.trans hu.1, ?_⟩
      obtain ⟨chosen, hc', hfirst⟩ := choose_spec (c := c) (hu.1 ▸ hm : u.memory.Proper) d
      cases hc.symm.trans hc'
      rw [hu.1] at hfirst
      exact hu.2.treated hm hfirst ht)
    n
  exact main.imp And.right id

end RepairState

/-- A run that reports has the treatments of a state that is reported rightly. -/
theorem repair_reported {repo : String} {o : RepairOptions} {builder : Builder} {now : Timestamp}
    {t : Tree} {m : Memory} {report : RepairReport} (hm : (m.load t repo).1.Proper)
    (h : (repair repo o builder now t m).result = .ok report) :
    ∃ s, Reported (fun d => (m.load t repo).1.best repo d.pattern now) (.ofString repo) s ∧
      (repair repo o builder now t m).choices = s.choices ∧ report.applied = s.applied := by
  rcases repair_ok_cases h with hrun | ⟨manager, command, hrun⟩
  · -- a run without a build has no more to report than one that has just begun
    rw [hrun] at h ⊢
    cases h
    exact ⟨_, .fresh _ _ t m, rfl, rfl⟩
  · rw [hrun] at h ⊢
    let c := o.context repo manager command builder now
    have hbest :
        (fun d : Diagnosis => ((m.load t repo).1.opened repo now).best repo d.pattern now) =
          fun d => (m.load t repo).1.best repo d.pattern now :=
      funext fun d => Memory.best_opened d.pattern
    have hopened : ((m.load t repo).1.opened repo now).Proper := hm.opened
    obtain ⟨hgood, happlied, -⟩ := RepairState.run_ok h
    have hreported := RepairState.iterate_reported (c := c) hopened t c.limit.toNat
    refine ⟨_, hbest ▸ hreported.resolve_right hgood, ?_, happlied⟩
    rw [RepairRun.choices, (RepairState.run_attempts c _).1]
    rfl

/-- A report repeats itself exactly where a treatment is repeated: the removal of another lockfile
was chosen first because it is the known remedy, and the default one went in its place. So it does
not repeat itself if no such removal is known. -/
theorem reported_nodup_iff (repo : String) (o : RepairOptions) (builder : Builder)
    (now : Timestamp) (t : Tree) (m : Memory) (report : RepairReport)
    (hm : (m.load t repo).1.Proper) (h : (repair repo o builder now t m).result = .ok report) :
    let known := fun d => (m.load t repo).1.best repo d.pattern now
    let run := repair repo o builder now t m
    run.choices.length = report.applied.length ∧
    ((report.applied.map AppliedFix.reported).Nodup ↔
      (treatmentsOf run.choices report.applied).Pairwise fun x y => ¬ Repeats known x y) ∧
    ((∀ d name, known d = some (.removeLockfile (.str name)) →
        .removeLockfile (.str name) = Remedy.defaultLockfile) →
      (report.applied.map AppliedFix.reported).Nodup) := by
  intro known run
  obtain ⟨s, hs, hchoices, happlied⟩ := repair_reported hm h
  rw [show run.choices = s.choices from hchoices, happlied]
  refine ⟨hs.length, hs.nodup_iff, ?_⟩
  intro hknown
  rw [hs.nodup_iff]
  refine hs.repeats.imp fun _ hrep => ?_
  obtain ⟨name, hname⟩ := hrep.lockfile
  exact hrep.other (hname ▸ hknown _ name (hname ▸ hrep.first))

/-- Without any lockfile the removals that are chosen are also those that are reported. -/
theorem lockfileRun_nodup :
    (lockfileMemory.load {} "app").1.Proper ∧
    ∃ report, (lockfileRun 2 {}).result = .ok report ∧ report.applied.length = 2 ∧
      (lockfileRun 2 {}).choices.length = report.applied.length ∧
      ((report.applied.map AppliedFix.reported).Nodup ↔
        (treatmentsOf (lockfileRun 2 {}).choices report.applied).Pairwise fun x y =>
          ¬ Repeats (fun d => (lockfileMemory.load {} "app").1.best "app" d.pattern default) x y) := by
  have hrun : (lockfileRun 2 {}).result.toOption.map (·.applied.length) = some 2 := by
    decide +kernel
  cases hr : (lockfileRun 2 {}).result with
  | error e =>
    rw [hr] at hrun
    cases hrun
  | ok report =>
    rw [hr] at hrun
    have h := reported_nodup_iff "app" _ _ default {} lockfileMemory report lockfileMemory_proper hr
    exact ⟨lockfileMemory_proper, report, rfl, Option.some.inj hrun, h.1, h.2.1⟩

/-- A tree with a repository that has the default lockfile. -/
def lockedTree : Tree :=
  { entries := [(["app"], .directory), (["app", "package-lock.json"], .file (.text "{}"))] }

/-- The known remedy is to remove a lockfile that is not there. The run reports the removal of the
default one for it, and again when it comes to that one. -/
theorem lockfileRun_repeats :
    (lockfileMemory.load lockedTree "app").1.Proper ∧
    ∃ report, (lockfileRun 2 lockedTree).result = .ok report ∧
      ¬ (report.applied.map AppliedFix.reported).Nodup := by
  have hrun : (lockfileRun 2 lockedTree).result.toOption.map (fun report =>
      report.applied.map fun f => (f.fault.key, f.result.remedy == Remedy.defaultLockfile)) =
      some [(⟨.notFound, none⟩, true), (⟨.notFound, none⟩, true)] := by
    decide +kernel
  cases hr : (lockfileRun 2 lockedTree).result with
  | error e =>
    rw [hr] at hrun
    cases hrun
  | ok report =>
    rw [hr] at hrun
    refine ⟨lockfileMemory_proper, report, rfl, ?_⟩
    have hdefault : Remedy.defaultLockfile.Proper := .removeLockfile _
    have hreported : ∀ f : AppliedFix,
        (f.fault.key, f.result.remedy == Remedy.defaultLockfile) =
          (⟨.notFound, none⟩, true) →
        f.reported = (⟨.notFound, none⟩,
          ⟨Remedy.defaultLockfile.kind, Remedy.defaultLockfile.target⟩) := by
      intro f hf
      rw [Prod.mk.injEq] at hf
      exact Prod.ext hf.1 ((Remedy.Key.beq_iff hdefault.isPlain).mp hf.2)
    obtain ⟨f, rest, happlied, hf, hrest⟩ := List.map_eq_cons_iff.mp (Option.some.inj hrun)
    obtain ⟨g, rest, rfl, hg, -⟩ := List.map_eq_cons_iff.mp hrest
    rw [happlied, List.map_cons, List.map_cons, hreported f hf, hreported g hg]
    simp

end BuildRepair
