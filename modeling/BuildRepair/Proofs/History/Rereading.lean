import BuildRepair.Proofs.History.Room
import BuildRepair.Proofs.History.Storable

/-
  Histories in writing are read back (`ofText_toText`): the same fixes in the same order, with the
  remedies, the counts and the times that were written, the same last run, and the repository and
  the patterns up to their doubles. If these are strings, the history itself is read
  (`reread_eq_self`). What is read from a file is storable (`ofText_storable`), and stays so when a
  success is recorded (`Storable.record`).
-/

namespace BuildRepair

/-! ## Remedies -/

namespace Remedy

variable {r : Remedy} {j : Json}

/-- A remedy with string fields that can be stored is one of the seven kinds. -/
theorem proper_of_toJson (h : r.IsPlain) (hj : r.toJson = .ok j) : r.Proper := by
  cases r with
  | adjustVersion p v =>
    obtain ⟨⟨a, rfl⟩, b, rfl⟩ := And.intro (h p (by simp [target])) (h v (by simp [target]))
    exact .adjustVersion a b
  | legacyPeerDeps => exact .legacyPeerDeps
  | removeLockfile p =>
    obtain ⟨a, rfl⟩ := h p (by simp [target])
    exact .removeLockfile a
  | substitutePackage p v =>
    obtain ⟨⟨a, rfl⟩, b, rfl⟩ := And.intro (h p (by simp [target])) (h v (by simp [target]))
    exact .substitutePackage a b
  | removePackage p =>
    obtain ⟨a, rfl⟩ := h p (by simp [target])
    exact .removePackage a
  | addResolution p v =>
    obtain ⟨⟨a, rfl⟩, b, rfl⟩ := And.intro (h p (by simp [target])) (h v (by simp [target]))
    exact .addResolution a b
  | forceInstall => exact .forceInstall
  | unknown text => cases hj

theorem Proper.toJson_eq (h : r.Proper) : r.toJson = .ok r.stored := by
  cases h <;> rfl

/-- A proper remedy is stored as an object of strings. -/
theorem Proper.stored_storable (h : r.Proper) : r.stored.Storable := by
  cases h <;>
    exact .obj _ (by simp [storedFields, Assoc.keys])
      (Json.untagged_of_not_mem (by simp [storedFields, Assoc.keys]))
      (by simp [storedFields, Json.Storable.str])

theorem Proper.reread_stored (h : r.Proper) : r.stored.reread = r.stored := by
  cases h <;> rfl

end Remedy

/-! ## Fixes -/

/-- A fix as it is read where it was written. -/
def Fix.reread (f : Fix) : Fix := { f with pattern := f.pattern.reread }

/-- A fix that can be written and is read back. -/
structure Fix.Writable (f : Fix) : Prop where
  pattern : f.pattern.Storable
  remedy : f.remedy.Proper
  count : History.isTooLong f.count = false

namespace History

variable {h : History} {f : Fix} {fs : List Fix} {j : Json} {js : List Json} {text : String}

/-- The stored form of a fix. -/
theorem fixJson_eq (hf : f.remedy.Proper) : fixJson f = .ok (.obj [
    ("errorPattern", f.pattern), ("strategy", f.remedy.stored), ("successCount", .int f.count),
    ("lastUsed", .date f.lastUsed)]) := by
  unfold fixJson
  rw [hf.toJson_eq]
  rfl

theorem fixJson_storable (hf : f.Writable) (h : fixJson f = .ok j) : j.Storable := by
  rw [fixJson_eq hf.remedy] at h
  cases h
  have hcount : f.count.natAbs < Binary64.tenPow Json.integerDigitLimit :=
    Nat.not_le.mp (of_decide_eq_false hf.count)
  refine .obj _ (by simp [Assoc.keys]) (Json.untagged_of_not_mem (by simp [Assoc.keys])) ?_
  simp only [List.forall_mem_cons, List.not_mem_nil, false_imp_iff, implies_true, and_true]
  exact ⟨hf.pattern, hf.remedy.stored_storable, .int _ hcount, .date _⟩

theorem readFix_reread (hf : f.Writable) (h : fixJson f = .ok j) :
    readFix j.reread = .ok f.reread := by
  rw [fixJson_eq hf.remedy] at h
  cases h
  have hremedy : Remedy.ofJson f.remedy.stored = .ok f.remedy :=
    Remedy.ofJson_toJson hf.remedy.toJson_eq
  simp only [Json.reread, Json.rereadFields, hf.remedy.reread_stored]
  unfold readFix
  simp [fieldsOf, required, Assoc.find?, hremedy, readCount, Timestamp.ofJson, bind, Except.bind,
    pure, Except.pure, Fix.reread]

/-- The stored fixes are read one by one. -/
theorem readFixes_reread (hfs : ∀ f ∈ fs, f.Writable) (h : fs.mapM fixJson = .ok js) :
    (∀ j ∈ js, j.Storable) ∧ (Json.rereadItems js).mapM readFix = .ok (fs.map Fix.reread) := by
  induction fs generalizing js with
  | nil =>
    cases h
    exact ⟨by simp, rfl⟩
  | cons f fs ih =>
    rw [List.forall_mem_cons] at hfs
    obtain ⟨j, rest, hj, hrest, rfl⟩ := mapM_cons_eq_ok.mp h
    obtain ⟨hstorable, hread⟩ := ih hfs.2 hrest
    refine ⟨List.forall_mem_cons.mpr ⟨fixJson_storable hfs.1 hj, hstorable⟩, ?_⟩
    exact mapM_cons_eq_ok.mpr ⟨_, _, readFix_reread hfs.1 hj, hread, rfl⟩

/-! ## Histories -/

/-- A history as it is read where it was written. -/
def reread (h : History) : History :=
  { h with repo := h.repo.reread, fixes := h.fixes.map Fix.reread }

/-- A history whose repository and patterns are read back. -/
structure Storable (h : History) : Prop where
  repo : h.repo.Storable
  pattern : ∀ f ∈ h.fixes, f.pattern.Storable

/-- The stored form of a history. -/
def storedForm (h : History) (js : List Json) : Json :=
  .obj [("repoId", h.repo), ("fixes", .arr js), ("lastResurrection", .date h.lastRun)]

theorem toText_eq_ok (h' : h.toText = .ok text) : ∃ js, h.fixes.mapM fixJson = .ok js ∧
    (∀ f ∈ h.fixes, isTooLong f.count = false) ∧
    text = (h.storedForm js).tagDates.document := by
  obtain ⟨j, hj, htext⟩ := bind_eq_ok.mp h'
  obtain ⟨js, hjs, hstored⟩ := bind_eq_ok.mp hj
  cases hstored
  dsimp only at htext
  split at htext
  · cases htext
  · next hshort =>
    cases htext
    refine ⟨js, hjs, ?_, rfl⟩
    simpa using hshort

theorem storedForm_storable (hs : h.Storable) (hjs : ∀ j ∈ js, j.Storable) :
    (h.storedForm js).Storable := by
  refine .obj _ (by simp [Assoc.keys]) (Json.untagged_of_not_mem (by simp [Assoc.keys])) ?_
  simp only [List.forall_mem_cons, List.not_mem_nil, false_imp_iff, implies_true, and_true]
  exact ⟨hs.repo, .arr _ hjs, .date _⟩

theorem ofJson_storedForm (hjs : (Json.rereadItems js).mapM readFix =
    .ok (h.fixes.map Fix.reread)) : ofJson (h.storedForm js).reread = .ok h.reread := by
  simp only [storedForm, Json.reread, Json.rereadFields]
  unfold ofJson
  simp [fieldsOf, required, Assoc.find?, itemsOf, hjs, Timestamp.ofJson, bind, Except.bind,
    pure, Except.pure, reread]

/-- A history with string remedies is read back from its text. -/
theorem ofText_toText (hs : h.Storable) (hr : ∀ f ∈ h.fixes, f.remedy.IsPlain)
    (ht : h.toText = .ok text) : ofText text = .ok h.reread := by
  obtain ⟨js, hjs, hcount, rfl⟩ := toText_eq_ok ht
  have hwritable : ∀ f ∈ h.fixes, f.Writable := by
    intro f hf
    obtain ⟨j, hj⟩ := mapM_all hjs f hf
    obtain ⟨remedy, hremedy, -⟩ := bind_eq_ok.mp hj
    exact ⟨hs.pattern f hf, Remedy.proper_of_toJson (hr f hf) hremedy, hcount f hf⟩
  obtain ⟨hstorable, hread⟩ := readFixes_reread hwritable hjs
  have hdoc := Json.readWith_document (storedForm_storable hs hstorable).readAs .notJson
  unfold ofText
  rw [hdoc]
  exact ofJson_storedForm hread

/-- A history about strings is read as it was written. -/
theorem reread_eq_self (hrepo : ∃ s, h.repo = .str s)
    (hpattern : ∀ f ∈ h.fixes, ∃ s, f.pattern = .str s) : h.reread = h := by
  have hfixes : h.fixes.map Fix.reread = h.fixes := by
    refine List.map_congr_left (g := id) ?_ |>.trans (List.map_id _)
    intro f hf
    obtain ⟨s, hs⟩ := hpattern f hf
    unfold Fix.reread
    rw [Json.reread_eq_str.mpr hs, ← hs]
    rfl
  obtain ⟨s, hs⟩ := hrepo
  unfold reread
  rw [hfixes, Json.reread_eq_str.mpr hs, ← hs]

/-- The remedy for a pattern is found again. -/
theorem remedyFor_reread (h : History) (pattern : String) :
    h.reread.remedyFor pattern = h.remedyFor pattern := by
  have hsame : (fun f : Fix => f.reread.pattern == .str pattern) =
      fun f => f.pattern == .str pattern := by
    funext f
    rw [Bool.eq_iff_iff, Json.beq_str_iff, Json.beq_str_iff]
    exact Json.reread_eq_str
  unfold remedyFor reread
  rw [List.find?_map, Option.map_map]
  exact congrArg _ (congrArg (List.find? · h.fixes) hsame)

/-! ## Histories that were read -/

theorem fieldsOf_eq_ok {fields : Fields} (hj : fieldsOf j = .ok fields) : j = .obj fields := by
  unfold fieldsOf at hj
  split at hj
  · cases hj
    rfl
  · cases hj

theorem required_eq_ok {fields : Fields} {name : String} :
    required fields name = .ok j ↔ Assoc.find? name fields = some j := by
  unfold required
  constructor
  · intro h
    split at h
    · next hfind =>
      cases h
      exact hfind
    · cases h
  · intro h
    rw [h]

theorem find?_storable {fields : Fields} {name : String} (hs : (Json.obj fields).Storable)
    (hj : Assoc.find? name fields = some j) : j.Storable := by
  cases hs with
  | obj _ _ _ all =>
    obtain ⟨k, hk⟩ := Assoc.mem_of_find? hj
    exact all _ hk

/-- What a stored fix has to hold to be read. -/
theorem readFix_eq_ok (hf : readFix j = .ok f) : ∃ fields strategy count lastUsed,
    j = .obj fields ∧ Assoc.find? "errorPattern" fields = some f.pattern ∧
    Assoc.find? "strategy" fields = some strategy ∧ Remedy.ofJson strategy = .ok f.remedy ∧
    Assoc.find? "successCount" fields = some count ∧ readCount count = .ok f.count ∧
    Assoc.find? "lastUsed" fields = some lastUsed ∧ Timestamp.ofJson lastUsed = .ok f.lastUsed := by
  obtain ⟨fields, hfields, h1⟩ := bind_eq_ok.mp hf
  obtain ⟨pattern, hpattern, h2⟩ := bind_eq_ok.mp h1
  obtain ⟨strategy, hstrategy, h3⟩ := bind_eq_ok.mp h2
  obtain ⟨remedy, hremedy, h4⟩ := bind_eq_ok.mp h3
  obtain ⟨count, hcount, h5⟩ := bind_eq_ok.mp h4
  obtain ⟨n, hn, h6⟩ := bind_eq_ok.mp h5
  obtain ⟨lastUsed, hlast, h7⟩ := bind_eq_ok.mp h6
  obtain ⟨t, ht, h8⟩ := bind_eq_ok.mp h7
  cases h8
  rw [required_eq_ok] at hpattern hstrategy hcount hlast
  exact ⟨fields, strategy, count, lastUsed, fieldsOf_eq_ok hfields, hpattern, hstrategy, hremedy,
    hcount, hn, hlast, ht⟩

/-- What a document has to hold to be read as a history. -/
theorem ofJson_eq_ok (hj : ofJson j = .ok h) : ∃ fields items lastRun,
    j = .obj fields ∧ Assoc.find? "repoId" fields = some h.repo ∧
    itemsOf ((Assoc.find? "fixes" fields).getD (.arr [])) = .ok items ∧
    items.mapM readFix = .ok h.fixes ∧ Assoc.find? "lastResurrection" fields = some lastRun ∧
    Timestamp.ofJson lastRun = .ok h.lastRun := by
  obtain ⟨fields, hfields, h1⟩ := bind_eq_ok.mp hj
  obtain ⟨repo, hrepo, h2⟩ := bind_eq_ok.mp h1
  obtain ⟨items, hitems, h3⟩ := bind_eq_ok.mp h2
  obtain ⟨fixes, hfixes, h4⟩ := bind_eq_ok.mp h3
  obtain ⟨lastRun, hlast, h5⟩ := bind_eq_ok.mp h4
  obtain ⟨t, ht, h6⟩ := bind_eq_ok.mp h5
  cases h6
  rw [required_eq_ok] at hrepo hlast
  exact ⟨fields, items, lastRun, fieldsOf_eq_ok hfields, hrepo, hitems, hfixes, hlast, ht⟩

theorem readFix_storable (hs : j.Storable) (hf : readFix j = .ok f) : f.pattern.Storable := by
  obtain ⟨fields, -, -, -, rfl, hpattern, -⟩ := readFix_eq_ok hf
  exact find?_storable hs hpattern

theorem readFixes_storable (hs : ∀ j ∈ js, j.Storable) (hfs : js.mapM readFix = .ok fs) :
    ∀ f ∈ fs, f.pattern.Storable := by
  induction js generalizing fs with
  | nil =>
    cases hfs
    simp
  | cons j js ih =>
    rw [List.forall_mem_cons] at hs
    obtain ⟨f, rest, hf, hrest, rfl⟩ := mapM_cons_eq_ok.mp hfs
    exact List.forall_mem_cons.mpr ⟨readFix_storable hs.1 hf, ih hs.2 hrest⟩

theorem itemsOf_storable (hs : j.Storable) (hjs : itemsOf j = .ok js) : ∀ x ∈ js, x.Storable := by
  unfold itemsOf at hjs
  split at hjs
  · cases hjs
    cases hs with
    | arr _ all => exact all
  · cases hjs
    simp
  · split at hjs
    · cases hjs
      simp
    · cases hjs
  · cases hjs

/-- A history that is read from a file can be read back once it is written. -/
theorem ofText_storable (ht : ofText text = .ok h) : h.Storable := by
  unfold ofText at ht
  split at ht
  · cases ht
  · next j hread =>
    have hs := Json.readWith_storable hread
    obtain ⟨fields, items, -, rfl, hrepo, hitems, hfixes, -⟩ := ofJson_eq_ok ht
    have hlist : ((Assoc.find? "fixes" fields).getD (.arr [])).Storable := by
      cases hfind : Assoc.find? "fixes" fields with
      | none => exact .arr [] (by simp)
      | some x => exact find?_storable hs hfind
    exact ⟨find?_storable hs hrepo, readFixes_storable (itemsOf_storable hlist hitems) hfixes⟩

theorem Storable.empty (repo : String) (now : Timestamp) : (History.empty repo now).Storable :=
  ⟨.str repo, by simp [History.empty]⟩

theorem Storable.record (hs : h.Storable) (pattern : String) (r : Remedy) (now : Timestamp) :
    (h.record pattern r now).Storable := by
  refine ⟨hs.repo, ?_⟩
  intro f hf
  rcases mem_recordIn hf with hf | rfl | ⟨g, hg, rfl⟩
  · exact hs.pattern f hf
  · exact .str pattern
  · rw [pattern_succeed]
    exact hs.pattern g hg

end History

/-! ## Files -/

/-- A file of a document is read as the document. -/
theorem Tree.readText_document {t : Tree} {p : Path} {l : Place} {w : Json}
    (hl : t.locate p = .ok (l, some (.file (.text w.document)))) :
    t.readText p = .ok w.document := by
  unfold readText
  rw [hl]
  dsimp only
  rw [Json.unifyLineEnds_document, String.ofList_toList]

/-- A history with string remedies is read back from a file of its text. -/
theorem Memory.read_toText {t : Tree} {p : Path} {l : Place} {h : History} {text : String}
    (hs : h.Storable) (hr : ∀ f ∈ h.fixes, f.remedy.IsPlain) (ht : h.toText = .ok text)
    (hl : t.locate p = .ok (l, some (.file (.text text)))) : Memory.read t p = .ok h.reread := by
  have hread : t.readText p = .ok text := by
    obtain ⟨js, -, -, rfl⟩ := History.toText_eq_ok ht
    exact Tree.readText_document hl
  unfold Memory.read
  rw [hread]
  exact History.ofText_toText hs hr ht

end BuildRepair
