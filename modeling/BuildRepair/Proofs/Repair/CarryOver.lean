import BuildRepair.Proofs.History.Lasting
import BuildRepair.Proofs.Repair.Learning
import BuildRepair.Proofs.Repair.Recall

/-
  What a run has learnt carries over to later ones (`repair_carries_over`). A run that succeeds and
  saves its history leaves a file from which a later run, with a memory of its own, loads the same
  remedies. So the later run takes them first. For a pattern with fixes that worked, the remedy is
  of the shape of the last one.
-/

namespace BuildRepair

/-! ## The fixes of a run -/

namespace Memory

variable {m : Memory} {repo pattern : String} {now : Timestamp} {fixes : List AppliedFix}

theorem recordFixes_concat (m : Memory) (fixes : List AppliedFix) (f : AppliedFix) :
    m.recordFixes repo now (fixes ++ [f]) =
      (m.recordFixes repo now fixes).record repo f.fault.pattern f.result.remedy now := by
  unfold recordFixes
  rw [List.foldl_append]
  rfl

theorem lasting_recordFixes (hfixes : ∀ f ∈ fixes, f.result.remedy.Proper)
    (hm : (m.history repo now).Lasting) :
    ((m.recordFixes repo now fixes).history repo now).Lasting := by
  induction fixes using List.reverseRecOn with
  | nil => exact hm
  | append_singleton fixes f ih =>
    rw [List.forall_mem_append, List.forall_mem_singleton] at hfixes
    rw [recordFixes_concat, history_record, if_pos rfl]
    exact (ih hfixes.1).record hfixes.2 _ _

/-- After fixes were recorded, the remedy for a pattern is of the shape of the last one for it. -/
theorem remedyFor_recordFixes (hfixes : ∀ f ∈ fixes, f.result.remedy.Proper) {last : AppliedFix}
    (hlast : (fixes.filter (·.fault.pattern == pattern)).getLast? = some last) : ∃ r,
    ((m.recordFixes repo now fixes).history repo now).remedyFor pattern = some r ∧
      r.sameShape last.result.remedy = true := by
  induction fixes using List.reverseRecOn with
  | nil => cases hlast
  | append_singleton fixes f ih =>
    rw [List.forall_mem_append, List.forall_mem_singleton] at hfixes
    rw [recordFixes_concat, history_record, if_pos rfl]
    rw [List.filter_append, List.filter_singleton] at hlast
    by_cases hf : f.fault.pattern = pattern
    · subst hf
      rw [beq_self_eq_true, cond_true, List.getLast?_concat] at hlast
      cases hlast
      exact History.remedyFor_record_shape hfixes.2 _
    · have hother : (f.fault.pattern == pattern) = false := by simpa using hf
      rw [hother] at hlast
      rw [History.remedyFor_record_other (Ne.symm hf)]
      exact ih hfixes.1 (by simpa using hlast)

end Memory

/-! ## A run that succeeds -/

/-- The last thing that a run did was to save the history of the repository, in a file with that
content. -/
def RepairRun.SavedAs (run : RepairRun) (repo : String) (now : Timestamp) (content : Content) :
    Prop :=
  ∃ (m : Memory) (t : Tree) (p : Path) (l : Place), m.path t repo = .ok p ∧
    m.save t repo none now = (run.tree, run.memory, .ok ()) ∧
    run.tree.locate p = .ok (l, some (.file content))

variable {run : RepairRun} {repo : String} {now : Timestamp} {content : Content}

/-- The file holds the history that the run remembers. -/
theorem RepairRun.SavedAs.toText (hs : run.SavedAs repo now content) :
    ∃ text, content = .text text ∧ (run.memory.history repo now).toText = .ok text := by
  obtain ⟨m, t, p, l, hp, hsave, hl⟩ := hs
  have hagrees := Memory.save_agrees m t repo now
  have hwritten := Memory.save_hasSaved m t repo now
  rw [hsave] at hagrees hwritten
  obtain ⟨q, hq, text, k, htext, hk, -⟩ := hwritten
  cases hp.symm.trans hq
  cases hl.symm.trans hk
  refine ⟨text, rfl, ?_⟩
  rw [hagrees.history]
  exact htext

/-- The file stands where another memory looks for it, if the repository is steady. -/
theorem RepairRun.SavedAs.hasFile {m : Memory} (hs : run.SavedAs repo now content)
    (hb : m.base = run.memory.base) (hsteady : ∀ t, m.Steady t repo) :
    m.HasFile run.tree repo content := by
  obtain ⟨n, t, p, l, hp, hsave, hl⟩ := hs
  have hagrees := Memory.save_agrees n t repo now
  rw [hsave] at hagrees
  have hbase : m.base = n.base := hb.trans hagrees.base
  obtain ⟨q, hq, hw⟩ := Memory.save_ok hsave
  cases hp.symm.trans hq
  rw [← Memory.path_base hbase] at hp
  exact ⟨p, l, Memory.path_of_write (hsteady t) hp hw, hl⟩

namespace RepairState

variable {c : RepairContext} {t : Tree} {m : Memory} {report : RepairReport}

/-- A run that succeeded has saved its history, unless the system refused. -/
theorem run_savedAs (h : ((fresh t m).run c).result = .ok report)
    (hout : report.outcome = .succeeded) :
    (∃ content, ((fresh t m).run c).SavedAs c.repo c.now content) ∨
    ∃ cause path, ((recordAll c ((fresh t m).iterate c c.limit.toNat).1.applied
        ((fresh t m).iterate c c.limit.toNat).1.memory).save
      ((fresh t m).iterate c c.limit.toNat).1.tree c.repo none c.now).2.2 =
        .error (.file (.system cause path)) := by
  obtain ⟨-, -, ⟨hne, -⟩ | ⟨-, u, hl, htree, hmem⟩⟩ := run_ok h
  · exact absurd hout hne
  · obtain ⟨hutree, humem, hsaved | hrefused⟩ := learn_ok hl
    · rw [← htree] at hutree
      rw [← hmem] at humem
      have hs := Memory.save_hasSaved (recordAll c ((fresh t m).iterate c c.limit.toNat).1.applied
        ((fresh t m).iterate c c.limit.toNat).1.memory)
        ((fresh t m).iterate c c.limit.toNat).1.tree c.repo c.now
      rw [hsaved, ← hutree] at hs
      obtain ⟨p, hp, text, l, -, hl, -⟩ := hs
      refine .inl ⟨.text text, _, _, p, l, hp, ?_, hl⟩
      rw [hutree, humem, ← hsaved]
    · exact .inr hrefused

/-- A run that may iterate asks for a build. -/
theorem run_calls_pos (hlimit : 0 < c.limit) : 0 < ((fresh t m).run c).calls.length := by
  rw [(run_attempts c (fresh t m)).2]
  rcases iterate_cases c c.limit.toNat (fresh t m) with
    ⟨u, hu, hreach⟩ | ⟨n, -, u, v, ending, -, hv, -, hi⟩
  · obtain ⟨-, -, hcalls⟩ := hreach.of_fresh
    rw [hu, hcalls]
    omega
  · rw [hi, (stepped_of_step hv).build.1, List.length_append]
    exact Nat.succ_pos _

/-- With a memory of proper remedies a run applies proper remedies only. -/
theorem run_applied (hm : m.Proper) (h : ((fresh t m).run c).result = .ok report) :
    ∀ f ∈ report.applied, f.result.remedy.Proper := by
  obtain ⟨hgood, happlied, -⟩ := run_ok h
  have main := iterate_induction (c := c) (s := fresh t m)
    (P := fun s => s.memory = m ∧ ∀ f ∈ s.applied, f.result.remedy.Proper)
    ⟨rfl, by simp [fresh]⟩ ?_ ?_ c.limit.toNat
  · rw [happlied]
    exact (main.resolve_right hgood).2
  · intro u v hu hmem hi
    rw [hi.applied]
    exact ⟨hmem.trans hu.1, hu.2⟩
  · intro u v d r known a hu hmem ht hchoose
    obtain ⟨chosen, hc, hfirst⟩ := choose_spec (c := c) (hu.1 ▸ hm : u.memory.Proper) d
    cases hchoose.symm.trans hc
    rw [hu.1] at hfirst
    have hnew : a.remedy.Proper := (hm.candidates _ hfirst.mem).of_apply ht.applies
    rw [ht.applied, List.forall_mem_append, List.forall_mem_singleton]
    exact ⟨hmem.trans hu.1, hu.2, hnew⟩

end RepairState

/-- What a run remembers that succeeded: the history after loading with every fix recorded that
worked. -/
theorem repair_remembers {o : RepairOptions} {builder : Builder} {t : Tree} {m : Memory}
    {report : RepairReport} (hm : (m.load t repo).1.Proper)
    (h : (repair repo o builder now t m).result = .ok report)
    (hout : report.outcome = .succeeded) :
    (∀ f ∈ report.applied, f.result.remedy.Proper) ∧
    (repair repo o builder now t m).memory.history repo now =
      ((m.load t repo).1.recordFixes repo now (report.applied.filter (·.result.success))).history
        repo now := by
  rcases repair_ok_cases h with hrun | ⟨manager, command, hrun⟩
  · rw [hrun] at h
    cases h
    cases hout
  · rw [hrun] at h ⊢
    let c := o.context repo manager command builder now
    refine ⟨RepairState.run_applied (c := c) hm.opened h, ?_⟩
    have hlearns := RepairState.run_learns (c := c) _
      (Memory.opened_agrees repo now (m.load t repo).1) h
    exact (hlearns.success hout).1.history repo

/-- A run that succeeds and saves its history as `content`, and any later run with a memory without
histories, in whose tree the history file has this content: for each pattern with a fix in the saved
history, the first time the later run works on an error with the pattern it takes the remedy of the
first such fix. For each pattern with a fix that worked in the first run, that remedy is of the
shape of the last one. -/
theorem repair_carries_over {repo : String} {now : Timestamp} {o : RepairOptions}
    {builder : Builder} {t : Tree} {m : Memory} {report : RepairReport} {content : Content}
    (hm : (m.load t repo).1.Proper) (hstorable : m.Storable)
    (hreport : (repair repo o builder now t m).result = .ok report)
    (hout : report.outcome = .succeeded)
    (hsaved : (repair repo o builder now t m).SavedAs repo now content)
    (o' : RepairOptions) (builder' : Builder) (now' : Timestamp) (t' : Tree) (m' : Memory)
    (hfresh : m'.histories = []) (hfile : m'.HasFile t' repo content) :
    let saved := (repair repo o builder now t m).memory.history repo now
    let later := repair repo o' builder' now' t' m'
    (∀ pattern f, saved.fixes.find? (·.pattern == .str pattern) = some f →
      ∀ n, IsFirst (later.target? builder') pattern n →
        remediesAt later.choices (n + 1) = [f.remedy]) ∧
    ∀ pattern last, ((report.applied.filter (·.result.success)).filter
        (·.fault.pattern == pattern)).getLast? = some last →
      ∃ f, saved.fixes.find? (·.pattern == .str pattern) = some f ∧
        f.remedy.sameShape last.result.remedy = true := by
  intro saved later
  obtain ⟨hproper, hmem⟩ := repair_remembers hm hreport hout
  have hworked : ∀ f ∈ report.applied.filter (·.result.success), f.result.remedy.Proper :=
    fun f hf => hproper f (List.mem_filter.mp hf).1
  have hlasting : saved.Lasting := by
    show ((repair repo o builder now t m).memory.history repo now).Lasting
    rw [hmem]
    exact Memory.lasting_recordFixes hworked ⟨(hstorable.load t repo).history repo now, hm.history⟩
  obtain ⟨text, rfl, htext⟩ := hsaved.toText
  refine ⟨?_, ?_⟩
  · intro pattern f hf n hfirst
    have hfind : Assoc.find? repo m'.histories = none := by
      rw [hfresh]
      rfl
    have hk : saved.remedyFor pattern = some f.remedy := by
      unfold History.remedyFor
      rw [hf]
      rfl
    refine repair_recalls o' builder' now' t' m' ?_ ?_ hfirst
    · exact hlasting.proper f (List.mem_of_find?_eq_some hf)
    · rw [Memory.remedyFor_load hlasting htext hfind hfile, hk]
  · intro pattern last hlast
    obtain ⟨r, hr, hshape⟩ := Memory.remedyFor_recordFixes hworked hlast
    have hsaid : saved.remedyFor pattern = some r := (congrArg (·.remedyFor pattern) hmem).trans hr
    obtain ⟨f, hf, rfl⟩ := Option.map_eq_some_iff.mp hsaid
    exact ⟨f, hf, hshape⟩

/-- A later run of the same builds on the tree that the first one left. -/
def laterRun : RepairRun :=
  repair "app" fiveBuilds (.scripted missThenPass) default (peerDepsRun appTree).tree {}

/-- The pattern of a package that is not found. -/
def notFound : String := "dependency_not_found:none"

theorem laterRun_isFirst {found : Option History}
    (hl : (({} : Memory).load (peerDepsRun appTree).tree "app").2 = .ok found) :
    IsFirst (laterRun.target? (.scripted missThenPass)) notFound 0 := by
  refine ⟨?_, by simp⟩
  unfold laterRun
  rcases repair_cases "app" fiveBuilds (.scripted missThenPass) default (peerDepsRun appTree).tree {}
    with ⟨_, he, -⟩ | ⟨_, -, ⟨_, he, -⟩ | ⟨manager, -, ⟨he, -⟩ | ⟨command, -, h⟩⟩⟩
  · cases he.symm.trans hl
  · cases he
  · cases he
  · rw [h]
    let c := fiveBuilds.context "app" manager command (.scripted missThenPass) default
    have htarget := RepairState.run_target? c (peerDepsRun appTree).tree
      ((({} : Memory).load (peerDepsRun appTree).tree "app").1.opened "app" default) 0
    have hlimit : 0 < c.limit := by
      show (0 : Int) < 5
      decide
    rw [if_pos (RepairState.run_calls_pos hlimit)] at htarget
    have hpattern : ((missThenPass 0).fault?).map (·.pattern) = some notFound := by decide +kernel
    obtain ⟨d, hd, hsame⟩ := Option.map_eq_some_iff.mp hpattern
    exact ⟨d, htarget.trans hd, hsame⟩

theorem peerDepsRun_savedAs {report : RepairReport}
    (h : (peerDepsRun appTree).result = .ok report) (hout : report.outcome = .succeeded) :
    ∃ content, (peerDepsRun appTree).SavedAs "app" default content := by
  let c := fiveBuilds.context "app" "npm" "build" (.scripted missThenPass) default
  let s := ((RepairState.fresh appTree ((peerDepsMemory 1).opened "app" default)).iterate c 5).1
  have hsave : ((RepairState.recordAll c s.applied s.memory).save s.tree "app" none
      default).2.2.isOk = true := by decide +kernel
  rcases RepairState.run_savedAs (c := c) h hout with hs | ⟨cause, path, hrefused⟩
  · exact hs
  · rw [show ((RepairState.recordAll c s.applied s.memory).save s.tree "app" none
      default).2.2 = .error (.file (.system cause path)) from hrefused] at hsave
    cases hsave

/-- What the first run remembers: one fix, the remedy of which has no fields. -/
theorem peerDepsRun_remembers :
    (peerDepsRun appTree).result.toOption.map (·.outcome) = some .succeeded ∧
    (peerDepsRun appTree).memory.base = none ∧
    (((peerDepsRun appTree).memory.history "app" default).repo == .str "app") = true ∧
    ((peerDepsRun appTree).memory.history "app" default).fixes.map (fun f =>
      (f.pattern == .str notFound, f.remedy.kind, f.remedy.target.isEmpty)) =
        [(true, "legacy_peer_deps", true)] := by
  decide +kernel

/-- The later run takes the remedy that worked in the first one. -/
theorem peerDepsRun_carries_over : ∃ report content,
    (peerDepsRun appTree).result = .ok report ∧ report.outcome = .succeeded ∧
    (peerDepsRun appTree).SavedAs "app" default content ∧
    ({} : Memory).HasFile (peerDepsRun appTree).tree "app" content ∧
    (remediesAt laterRun.choices 1).map (·.kind) = ["legacy_peer_deps"] := by
  obtain ⟨houtcome, hbase, hrepo, hfixes⟩ := peerDepsRun_remembers
  obtain ⟨report, hreport, hout⟩ : ∃ report,
      (peerDepsRun appTree).result = .ok report ∧ report.outcome = .succeeded := by
    cases hresult : (peerDepsRun appTree).result with
    | error e =>
      rw [hresult] at houtcome
      cases houtcome
    | ok report =>
      rw [hresult] at houtcome
      exact ⟨report, rfl, Option.some.inj houtcome⟩
  obtain ⟨f, hf, hfacts⟩ := List.map_eq_singleton_iff.mp hfixes
  obtain ⟨hpattern, hkind, htarget⟩ : (f.pattern == .str notFound) = true ∧
      f.remedy.kind = "legacy_peer_deps" ∧ f.remedy.target = [] := by
    simpa using hfacts
  have hplain : ((peerDepsRun appTree).memory.history "app" default).IsPlain := by
    refine ⟨⟨"app", Json.beq_str_iff.mp hrepo⟩, ?_, ?_⟩
    · rw [hf, List.forall_mem_singleton]
      exact ⟨notFound, Json.beq_str_iff.mp hpattern⟩
    · rw [hf, List.forall_mem_singleton]
      intro j hj
      rw [htarget] at hj
      cases hj
  have hstorable : (peerDepsMemory 1).Storable := by
    intro repo h hfind
    obtain ⟨name, hmem⟩ := Assoc.mem_of_find? hfind
    cases List.mem_singleton.mp hmem
    refine ⟨.str "app", ?_⟩
    show ∀ f ∈ [_], _
    rw [List.forall_mem_singleton]
    exact .str notFound
  have hproper : ((peerDepsMemory 1).load appTree "app").1.Proper := peerDepsMemory_proper 1
  obtain ⟨content, hsaved⟩ := peerDepsRun_savedAs hreport hout
  have hfile : ({} : Memory).HasFile (peerDepsRun appTree).tree "app" content :=
    hsaved.hasFile hbase.symm fun _ => .inr (.inr (.inr (by decide)))
  refine ⟨report, content, hreport, hout, hsaved, hfile, ?_⟩
  obtain ⟨hfirst, -⟩ := repair_carries_over hproper hstorable hreport hout hsaved
    fiveBuilds (.scripted missThenPass) default (peerDepsRun appTree).tree {} rfl hfile
  obtain ⟨text, rfl, htext⟩ := hsaved.toText
  have hl := Memory.load_hasFile hplain htext rfl hfile
  have hfind : ((peerDepsRun appTree).memory.history "app" default).fixes.find?
      (·.pattern == .str notFound) = some f := by
    rw [hf, List.find?_singleton, if_pos hpattern]
  have htaken : remediesAt laterRun.choices 1 = [f.remedy] :=
    hfirst notFound f hfind 0 (laterRun_isFirst hl)
  rw [htaken, List.map_singleton, hkind]

end BuildRepair
