import BuildRepair.Proofs.Replacement.Executing

/-
  Batches of replacements that have no name in common (`Independent`). What one of them does to a
  group is not seen by another one, so the whole batch does what all of them do at once to the
  entries that the group had (`batch_eq_simultaneous`), and each reports what it would report alone.
  The order does not matter then: any order of the batch saves the same manifest, and the reports
  come in its order (`execute_independent`). The empty name is no name: a replacement that only
  removes a package shares nothing with another one, as long as no package has the empty name.
-/

namespace BuildRepair

open Manifest (HasStrings StringVersions Regrouped groups)

namespace Replacement

variable {r s : Replacement} {rs rs' : List Replacement} {t : Tree} {repo : Path}
  {doc next deps : Fields} {name : String}

/-! ## Names in common -/

/-- The names that a replacement takes from a group or puts there. -/
def names (r : Replacement) : List String :=
  if r.newName = "" then [r.oldName] else [r.oldName, r.newName]

/-- Whether no two replacements of a batch have a name in common. -/
def Independent (rs : List Replacement) : Prop := rs.Pairwise fun r s => r.names.Disjoint s.names

theorem oldName_mem_names (r : Replacement) : r.oldName ∈ r.names := by
  unfold names
  split <;> simp

theorem newName_mem_names (hempty : r.newName ≠ "") : r.newName ∈ r.names := by
  unfold names
  rw [if_neg hempty]
  simp

theorem Independent.perm (h : Independent rs) (hperm : rs'.Perm rs) : Independent rs' :=
  List.Pairwise.perm h hperm.symm fun hdisjoint _ hs hr => hdisjoint hr hs

/-! ## One replacement before another one -/

/-- No replacement brings in the empty name. -/
theorem empty_not_mem_within (hempty : "" ∉ Assoc.keys deps) (r : Replacement) :
    "" ∉ Assoc.keys (r.within deps) := by
  by_cases hold : r.oldName ∈ Assoc.keys deps
  · have hne : r.oldName ≠ "" := fun h => hempty (h ▸ hold)
    rw [← Assoc.find?_isSome_iff] at hempty ⊢
    unfold within
    split
    · split
      · next hname => rwa [Assoc.find?_put, if_neg (by simpa [hname] using hne)]
      · rw [find?_rename]
        by_cases hnew : "" = r.newName
        · simp [← hnew]
        · rwa [if_neg hnew, if_neg (Ne.symm hne)]
    · exact hempty
  · rwa [within_of_not_mem hold]

/-- What is found under the old name of a replacement is not changed by another one. -/
theorem find?_within_of_disjoint (h : r.names.Disjoint s.names) (hempty : "" ∉ Assoc.keys deps) :
    Assoc.find? s.oldName (r.within deps) = Assoc.find? s.oldName deps := by
  by_cases hnew : r.newName = s.oldName
  · by_cases hname : r.newName = ""
    · -- both names are empty, and nothing has that name before or after
      rw [← hnew, hname, Assoc.find?_eq_none_iff.mpr hempty,
        Assoc.find?_eq_none_iff.mpr (empty_not_mem_within hempty r)]
    · exact absurd (hnew ▸ newName_mem_names hname) fun hmem => h hmem s.oldName_mem_names
  · refine find?_within_of_ne (fun hold => ?_) hnew
    exact h (hold ▸ r.oldName_mem_names) s.oldName_mem_names

theorem changeIn_within (h : r.names.Disjoint s.names) (hempty : "" ∉ Assoc.keys deps) :
    s.changeIn (r.within deps) = s.changeIn deps := by
  unfold changeIn
  rw [find?_within_of_disjoint h hempty]

/-! ## All at once -/

/-- What becomes of an entry of a group where all replacements of a batch are made at once: one of
an old name has the new name and the version that it is mapped to, or goes if the new name is empty.
Any other one stays, unless its name is brought in. -/
def entryAfter (rs : List Replacement) (deps : Fields) (p : String × Json) :
    Option (String × Json) :=
  match rs.find? fun r => r.oldName = p.1 with
  | some r => if r.newName = "" then none else some (r.newName, r.mapped p.2)
  | none => if ∃ r ∈ rs, r.newName = p.1 ∧ r.oldName ∈ Assoc.keys deps then none else some p

/-- The entries of a group where all replacements of a batch are made at once. -/
def simultaneous (rs : List Replacement) (deps : Fields) : Fields :=
  deps.filterMap (entryAfter rs deps)

theorem find?_eq_none_of_disjoint (h : ∀ s ∈ rs, r.names.Disjoint s.names) (hname : name ∈ r.names) :
    rs.find? (fun s => s.oldName = name) = none := by
  rw [List.find?_eq_none]
  rintro s hs hold
  rw [decide_eq_true_eq] at hold
  exact h s hs hname (hold ▸ s.oldName_mem_names)

/-- An entry of a name that another replacement has stays. -/
theorem entryAfter_of_disjoint (h : ∀ s ∈ rs, r.names.Disjoint s.names) (hname : name ∈ r.names)
    (hempty : name ≠ "") (j : Json) : entryAfter rs deps (name, j) = some (name, j) := by
  have hbrought : ¬ ∃ s ∈ rs, s.newName = name ∧ s.oldName ∈ Assoc.keys deps := by
    rintro ⟨s, hs, rfl, -⟩
    exact h s hs hname (newName_mem_names hempty)
  unfold entryAfter
  dsimp only
  rw [find?_eq_none_of_disjoint h hname]
  dsimp only
  rw [if_neg hbrought]

/-- What the others make of an entry does not depend on whether the first one has been made. -/
theorem entryAfter_within (h : ∀ s ∈ rs, r.names.Disjoint s.names)
    (hempty : "" ∉ Assoc.keys deps) : entryAfter rs (r.within deps) = entryAfter rs deps := by
  have hdeclared : ∀ s ∈ rs,
      (s.oldName ∈ Assoc.keys (r.within deps) ↔ s.oldName ∈ Assoc.keys deps) := by
    intro s hs
    rw [← Assoc.find?_isSome_iff, find?_within_of_disjoint (h s hs) hempty, Assoc.find?_isSome_iff]
  funext p
  have hbrought : (∃ s ∈ rs, s.newName = p.1 ∧ s.oldName ∈ Assoc.keys (r.within deps)) ↔
      ∃ s ∈ rs, s.newName = p.1 ∧ s.oldName ∈ Assoc.keys deps :=
    exists_congr fun s => and_congr_right fun hs => and_congr_right fun _ => hdeclared s hs
  unfold entryAfter
  simp only [hbrought]

theorem entryAfter_cons_self (j : Json) : entryAfter (r :: rs) deps (r.oldName, j) =
    if r.newName = "" then none else some (r.newName, r.mapped j) := by
  simp [entryAfter]

theorem entryAfter_cons_new (h : ∀ s ∈ rs, r.names.Disjoint s.names) (hne : r.newName ≠ r.oldName)
    (hempty : r.newName ≠ "") (hold : r.oldName ∈ Assoc.keys deps) (j : Json) :
    entryAfter (r :: rs) deps (r.newName, j) = none := by
  have hfind := find?_eq_none_of_disjoint h (newName_mem_names hempty)
  unfold entryAfter
  simp [Ne.symm hne, hfind, hold]

theorem entryAfter_cons_of_ne (hold : r.oldName ≠ name)
    (hnew : ¬ (r.newName = name ∧ r.oldName ∈ Assoc.keys deps)) (j : Json) :
    entryAfter (r :: rs) deps (name, j) = entryAfter rs deps (name, j) := by
  unfold entryAfter
  simp [hold, hnew]

/-- The first replacement of an independent batch can be made before the others. -/
theorem simultaneous_within (h : ∀ s ∈ rs, r.names.Disjoint s.names) (hs : HasStrings deps)
    (hnames : (Assoc.keys deps).Nodup) (hempty : "" ∉ Assoc.keys deps) :
    simultaneous rs (r.within deps) = simultaneous (r :: rs) deps := by
  by_cases hold : r.oldName ∈ Assoc.keys deps
  · obtain ⟨v, hv⟩ := hs.find? hold
    have hne : r.oldName ≠ "" := fun h => hempty (h ▸ hold)
    rw [simultaneous, entryAfter_within h hempty, within_eq_rename hne hnames hv, rename,
      List.filterMap_filterMap]
    refine List.filterMap_congr ?_
    rintro ⟨name, j⟩ hp
    dsimp only
    by_cases hname : name = r.oldName
    · -- the entry of the old name: no other replacement has its new name
      subst hname
      obtain rfl : j = .str v :=
        Option.some.inj (((Assoc.find?_eq_some_iff hnames).mpr hp).symm.trans hv)
      rw [if_pos rfl, entryAfter_cons_self]
      by_cases hnew : r.newName = ""
      · rw [if_pos hnew, if_pos hnew, Option.bind_none]
      · rw [if_neg hnew, if_neg hnew, Option.bind_some,
          entryAfter_of_disjoint h (newName_mem_names hnew) hnew]
        rfl
    · by_cases hnew : name = r.newName
      · -- an entry of the new name makes way: no other replacement takes it elsewhere
        subst hnew
        have hnew : r.newName ≠ "" := fun h => hempty (h ▸ List.mem_map.mpr ⟨_, hp, rfl⟩)
        rw [if_neg hname, if_pos rfl, Option.bind_none, entryAfter_cons_new h hname hnew hold]
      · rw [if_neg hname, if_neg hnew, Option.bind_some,
          entryAfter_cons_of_ne (Ne.symm hname) fun h => hnew h.1.symm]
  · rw [within_of_not_mem hold]
    refine List.filterMap_congr fun p hp => ?_
    have hp : r.oldName ≠ p.1 := by
      rintro hname
      exact hold (List.mem_map.mpr ⟨p, hp, hname.symm⟩)
    exact (entryAfter_cons_of_ne hp (fun h => hold h.2) p.2).symm

theorem batch_eq_simultaneous (h : Independent rs) (hs : HasStrings deps)
    (hnames : (Assoc.keys deps).Nodup) (hempty : "" ∉ Assoc.keys deps) :
    batch rs deps = simultaneous rs deps := by
  induction rs generalizing deps with
  | nil =>
    have hentry : entryAfter [] deps = some := by
      funext p
      simp [entryAfter]
    rw [batch_nil, simultaneous, hentry, List.filterMap_some]
  | cons r rs ih =>
    obtain ⟨hr, h⟩ := List.pairwise_cons.mp h
    rw [batch_cons, ih h (hasStrings_within r hs) (nodup_keys_within r hnames)
      (empty_not_mem_within hempty r), simultaneous_within hr hs hnames hempty]

/-- Of replacements without names in common, only one has a given old name. -/
theorem Independent.find?_eq_some_iff (h : Independent rs) :
    rs.find? (fun s => s.oldName = name) = some r ↔ r ∈ rs ∧ r.oldName = name := by
  constructor
  · intro hfind
    exact ⟨List.mem_of_find?_eq_some hfind, by simpa using List.find?_some hfind⟩
  · rintro ⟨hmem, rfl⟩
    induction rs with
    | nil => cases hmem
    | cons s rs ih =>
      obtain ⟨hs, h⟩ := List.pairwise_cons.mp h
      rcases List.mem_cons.mp hmem with rfl | hmem
      · simp
      · have hne : s.oldName ≠ r.oldName := fun hname =>
          hs r hmem s.oldName_mem_names (hname ▸ r.oldName_mem_names)
        rw [List.find?_cons_of_neg (by simpa using hne), ih h hmem]

theorem simultaneous_perm (h : Independent rs) (hperm : rs'.Perm rs) (deps : Fields) :
    simultaneous rs' deps = simultaneous rs deps := by
  have hfind (name : String) :
      rs'.find? (fun s => s.oldName = name) = rs.find? fun s => s.oldName = name := by
    ext r
    rw [h.find?_eq_some_iff, (h.perm hperm).find?_eq_some_iff, hperm.mem_iff]
  refine List.filterMap_congr fun p _ => ?_
  unfold entryAfter
  simp only [hfind, hperm.mem_iff]

/-! ## Manifests -/

/-- The changes that replacements report of a document, each for itself. -/
def allReports (rs : List Replacement) (doc : Fields) : List Change :=
  rs.flatMap fun r => r.reports doc

theorem empty_not_declared (hempty : ¬ Manifest.Declares doc "")
    (h : Regrouped r.within doc next) : ¬ Manifest.Declares next "" := by
  rintro ⟨g, hg, hmem⟩
  rw [h.groups] at hg
  obtain ⟨g', hg', rfl⟩ := List.mem_map.mp hg
  exact empty_not_mem_within (fun hmem => hempty ⟨g', hg', hmem⟩) r hmem

theorem reports_regrouped (h : r.names.Disjoint s.names) (hempty : ¬ Manifest.Declares doc "")
    (hnext : Regrouped r.within doc next) : s.reports next = s.reports doc := by
  unfold reports
  rw [hnext.groups, List.filterMap_map]
  exact List.filterMap_congr fun g hg => changeIn_within h fun hmem => hempty ⟨g, hg, hmem⟩

theorem applyAll_independent (h : Independent rs) (hs : StringVersions doc)
    (hempty : ¬ Manifest.Declares doc "") :
    ∃ edited, applyAll rs doc = .ok (edited, allReports rs doc) ∧
      Regrouped (batch rs) doc edited := by
  induction rs generalizing doc with
  | nil => exact ⟨doc, rfl, .refl fun _ _ => rfl⟩
  | cons r rs ih =>
    obtain ⟨hr, h⟩ := List.pairwise_cons.mp h
    obtain ⟨next, happly, hnext⟩ := r.apply_regrouped hs
    have hstrings := hnext.stringVersions fun g hg => hasStrings_within r (hs g hg)
    obtain ⟨edited, hall, hedited⟩ := ih h hstrings (empty_not_declared hempty hnext)
    have hreports : allReports rs next = allReports rs doc :=
      List.flatMap_congr fun s hs => reports_regrouped (hr s hs) hempty hnext
    refine ⟨edited, ?_, hnext.trans hedited⟩
    unfold applyAll
    rw [happly]
    dsimp only
    rw [hall, hreports]
    rfl

theorem allReports_perm (hperm : rs'.Perm rs) (doc : Fields) :
    (allReports rs' doc).Perm (allReports rs doc) :=
  List.Perm.flatMap_right (fun r => reports r doc) hperm

/-- An independent batch makes the same of a document in every order. -/
theorem applyAll_perm (h : Independent rs) (hd : Json.Readable (.obj doc)) (hs : StringVersions doc)
    (hempty : ¬ Manifest.Declares doc "") :
    ∃ edited, Regrouped (simultaneous rs) doc edited ∧ Json.Readable (.obj edited) ∧
      ∀ rs', rs'.Perm rs → applyAll rs' doc = .ok (edited, allReports rs' doc) := by
  have hsame {rs' : List Replacement} (h : Independent rs') :
      ∀ g ∈ groups doc, batch rs' g.2 = simultaneous rs' g.2 := fun g hg =>
    batch_eq_simultaneous h (hs g hg) (hd.find? (Manifest.mem_groups hg).2).names
      fun hmem => hempty ⟨g, hg, hmem⟩
  obtain ⟨edited, -, hedited⟩ := applyAll_independent h hs hempty
  refine ⟨edited, hedited.congr (hsame h), readable_batched hd hs hedited, fun rs' hperm => ?_⟩
  have h' := h.perm hperm
  obtain ⟨edited', hall, hedited'⟩ := applyAll_independent h' hs hempty
  have hbatch : ∀ g ∈ groups doc, batch rs' g.2 = batch rs g.2 := fun g hg => by
    rw [hsame h' g hg, hsame h g hg, simultaneous_perm h hperm]
  rw [hall, (hedited'.congr hbatch).unique hedited hd.names]

/-- Executing an independent batch makes all its replacements at once in every group, and reports
each of them once for each group that declares its old name. In any other order it leaves the same
manifest, and the same reports in that order. Nothing is written if nothing is declared, and writing
fails only where there is no room for a temporary file. -/
theorem execute_independent (h : Independent rs) (hload : Manifest.load t repo = .ok doc)
    (hs : StringVersions doc) (hempty : ¬ Manifest.Declares doc "") :
    (∀ rs', rs'.Perm rs → (allReports rs' doc).Perm (allReports rs doc)) ∧
      ∃ edited, Regrouped (simultaneous rs) doc edited ∧
        ((allReports rs doc = [] ∧ edited = doc ∧
            ∀ rs', rs'.Perm rs → execute rs' t repo = .ok (t, [])) ∨
          (t.IsCramped (Manifest.pathIn repo) ∧
            ∃ e, ∀ rs', rs'.Perm rs → execute rs' t repo = .error (.file e)) ∨
          ∃ u, Manifest.Saved t u repo edited ∧
            ∀ rs', rs'.Perm rs → execute rs' t repo = .ok (u, allReports rs' doc)) := by
  refine ⟨fun rs' hperm => allReports_perm hperm doc, ?_⟩
  obtain ⟨edited, hedited, hreadable, hall⟩ :=
    applyAll_perm h (Manifest.readable_of_load hload) hs hempty
  refine ⟨edited, hedited, ?_⟩
  by_cases hreports : allReports rs doc = []
  · have hnone {rs' : List Replacement} (hperm : rs'.Perm rs) : allReports rs' doc = [] :=
      (hreports ▸ allReports_perm hperm doc).eq_nil
    have hunchanged := hall rs (.refl rs)
    rw [hreports] at hunchanged
    refine .inl ⟨hreports, applyAll_unchanged hunchanged, fun rs' hperm => ?_⟩
    have hall' := hall rs' hperm
    rw [hnone hperm] at hall'
    rw [execute_eq_run, run_of_unchanged hload hall']
    rfl
  · -- every order has a change to report, so every order saves the document
    have hexecute {rs' : List Replacement} (hperm : rs'.Perm rs) : execute rs' t repo =
        (Manifest.save t repo edited).map fun u => (u, allReports rs' doc) := by
      refine execute_of_changed hload (hall rs' hperm) fun hnone => hreports ?_
      exact (hnone ▸ allReports_perm hperm doc).symm.eq_nil
    rcases Manifest.save_of_load hload hreadable with ⟨hcramped, e, hsave⟩ | ⟨u, hsave, hsaved⟩
    · refine .inr (.inl ⟨hcramped, e, fun rs' hperm => ?_⟩)
      rw [hexecute hperm, hsave]
      rfl
    · refine .inr (.inr ⟨u, hsaved, fun rs' hperm => ?_⟩)
      rw [hexecute hperm, hsave]
      rfl

/-- A package for another one, a package that only goes and one that only has another version. -/
def threeApart : List Replacement := [
  { oldName := "request", newName := "node-fetch", versions := [("*", "^3.3.0")], manual := true },
  { oldName := "left", newName := "", versions := [] },
  { oldName := "fibers", newName := "fibers", versions := [("1", "2")] }]

/-- A group that declares all three of them, and also the package that one of them brings in. -/
def fourDeclared : Fields :=
  [("node-fetch", .str "2"), ("left", .str "1"), ("fibers", .str "1"), ("request", .str "2")]

theorem threeApart_commutes : ∃ u changes changes' after,
    execute threeApart (repository (oneGroup fourDeclared)) (Path.ofString "repo") =
        .ok (u, changes) ∧
      execute threeApart.reverse (repository (oneGroup fourDeclared)) (Path.ofString "repo") =
        .ok (u, changes') ∧
      changes'.Perm changes ∧ changes.length = 3 ∧
      Manifest.load u (Path.ofString "repo") = .ok after ∧
      Assoc.find? "dependencies" after =
        some (.obj [("fibers", .str "2"), ("node-fetch", .str "^3.3.0")]) := by
  have hdeps : HasStrings fourDeclared := by simp [HasStrings, fourDeclared]
  have hload := load_repository (lossless_oneGroup hdeps (by decide))
  have hempty : ¬ Manifest.Declares (oneGroup fourDeclared) "" := by
    rintro ⟨g, hg, hmem⟩
    obtain rfl : g = ("dependencies", fourDeclared) := List.mem_singleton.mp hg
    exact absurd hmem (by decide)
  have hindependent : Independent threeApart := by
    simp [Independent, threeApart, names, List.Disjoint]
  obtain ⟨hperm, edited, hedited, ⟨hnone, -⟩ | ⟨hcramped, -⟩ | ⟨u, hsaved, hexecute⟩⟩ :=
    execute_independent hindependent hload (hasStrings_oneGroup hdeps) hempty
  · cases hnone
  · exact absurd hcramped (repository_not_cramped _)
  · have hreverse := threeApart.reverse_perm
    refine ⟨u, _, _, _, hexecute _ (.refl _), hexecute _ hreverse, hperm _ hreverse, rfl,
      hsaved.load, ?_⟩
    rw [Json.find?_rereadFields, hedited.values]
    rfl

end Replacement
end BuildRepair
