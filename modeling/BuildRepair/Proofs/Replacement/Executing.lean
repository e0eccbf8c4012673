import BuildRepair.Proofs.Replacement.Renaming

/-
  Replacements in the manifest of a repository. A replacement whose versions can be looked up makes
  of each group what `stepIn` makes of it (`apply_mappable`). Where the versions are strings,
  replacements never fail, and all they do is what `batch` does in each group
  (`applyAll_regrouped`). So executing them ends in one of two ways (`execute_cases`): the new
  manifest cannot be written, or it is loaded from where the old one was. What is left of a tree is
  said for both (`run`).
-/

namespace BuildRepair

open Manifest (HasStrings StringVersions Regrouped groups groupNames)

namespace Replacement

variable {r : Replacement} {rs : List Replacement} {t u : Tree} {repo : Path}
  {doc edited deps : Fields} {group : String} {gs : List (String × Fields)}
  {changes : List Change}

/-! ## Documents -/

/-- The entries of a group after a replacement, whatever kind the version is. -/
def stepIn (r : Replacement) (deps : Fields) : Fields :=
  match Assoc.find? r.oldName deps with
  | none => deps
  | some old =>
    match r.mapValue old with
    | .error _ => deps
    | .ok new =>
      if r.newName = r.oldName then Assoc.put r.newName new deps
      else rename r.oldName r.newName new deps

theorem stepIn_strings (r : Replacement) (hs : HasStrings deps) :
    r.stepIn deps = r.within deps := by
  unfold stepIn within
  cases hfind : Assoc.find? r.oldName deps with
  | none => rfl
  | some old =>
    obtain ⟨v, hv⟩ := hs _ (Assoc.mem_of_find?_eq_some hfind)
    obtain rfl : old = .str v := hv
    rfl

/-- Whether the version that a group has of the old name can be looked up. -/
def MappableIn (r : Replacement) (deps : Fields) : Prop :=
  ∀ j, Assoc.find? r.oldName deps = some j → j.isKey = true

/-- Whether every version of the old name can be looked up. -/
def Mappable (r : Replacement) (doc : Fields) : Prop := ∀ g ∈ groups doc, r.MappableIn g.2

theorem mapValue_of_key (r : Replacement) {old : Json} (h : old.isKey = true) :
    ∃ new, r.mapValue old = .ok new ∧ (new = old ∨ ∃ v, new = .str v) := by
  cases old with
  | str v => exact ⟨_, rfl, .inr ⟨_, rfl⟩⟩
  | arr items => cases h
  | obj fields => cases h
  | _ =>
    refine ⟨_, rfl, ?_⟩
    cases Assoc.find? "*" r.versions with
    | none => exact .inl rfl
    | some v => exact .inr ⟨v, rfl⟩

/-- What a replacement makes of a declared version; one that cannot be looked up stays. -/
def mapped (r : Replacement) (old : Json) : Json :=
  match r.mapValue old with
  | .error _ => old
  | .ok new => new

/-- The change that a replacement reports of a group, if the group declares the old name. -/
def changeIn (r : Replacement) (deps : Fields) : Option Change :=
  (Assoc.find? r.oldName deps).map fun old => ⟨r.newName, old, r.mapped old, r.manual⟩

/-- The changes that a replacement reports, one for each group that declares the old name. -/
def reports (r : Replacement) (doc : Fields) : List Change :=
  (groups doc).filterMap fun g => r.changeIn g.2

theorem changeIn_eq_none_iff : r.changeIn deps = none ↔ r.oldName ∉ Assoc.keys deps := by
  unfold changeIn
  rw [Option.map_eq_none_iff, Assoc.find?_eq_none_iff]

theorem reports_eq_nil_iff : r.reports doc = [] ↔ ¬ Manifest.Declares doc r.oldName := by
  unfold reports Manifest.Declares
  rw [List.filterMap_eq_nil_iff]
  simp only [changeIn_eq_none_iff]
  push Not
  rfl

/-- A replacement in a group puts the new entries in its place, and reports its change. -/
theorem applyTo_mappable (hfind : Assoc.find? group doc = some (.obj deps))
    (hmap : r.MappableIn deps) : r.applyTo doc group deps =
      .ok (Manifest.setGroup doc group (r.stepIn deps), (r.changeIn deps).toList) := by
  unfold applyTo stepIn changeIn mapped
  cases hold : Assoc.find? r.oldName deps with
  | none =>
    unfold Manifest.setGroup
    rw [Assoc.put_of_find? hfind]
    rfl
  | some old =>
    obtain ⟨new, hnew, -⟩ := r.mapValue_of_key (hmap old hold)
    dsimp only [Option.map_some]
    rw [hnew]
    rfl

/-- Groups are replaced one after the other; no one changes what another one is read from. -/
theorem applyGroups_mappable (hgs : ∀ g ∈ gs, Assoc.find? g.1 doc = some (.obj g.2))
    (hnames : (Assoc.keys gs).Nodup) (hmap : ∀ g ∈ gs, r.MappableIn g.2) : r.applyGroups doc gs =
      .ok (Manifest.regroup r.stepIn doc gs, gs.filterMap fun g => r.changeIn g.2) := by
  induction gs generalizing doc with
  | nil => rfl
  | cons g gs ih =>
    obtain ⟨group, deps⟩ := g
    obtain ⟨hfind, hgs⟩ := List.forall_mem_cons.mp hgs
    obtain ⟨hhead, hmap⟩ := List.forall_mem_cons.mp hmap
    obtain ⟨hfresh, hnames⟩ := List.nodup_cons.mp hnames
    have hrest : ∀ g ∈ gs,
        Assoc.find? g.1 (Manifest.setGroup doc group (r.stepIn deps)) = some (.obj g.2) := by
      intro g hg
      have hne : ¬ (group == g.1) = true := by
        rw [beq_iff_eq]
        rintro rfl
        exact hfresh (List.mem_map.mpr ⟨g, hg, rfl⟩)
      unfold Manifest.setGroup
      rw [Assoc.find?_put, if_neg hne, hgs g hg]
    have happly := applyTo_mappable hfind hhead
    have happlyRest := ih hrest hnames hmap
    unfold applyGroups
    rw [happly]
    dsimp only
    rw [happlyRest, List.filterMap_eq_flatMap_toList, List.filterMap_eq_flatMap_toList]
    rfl

/-- A replacement whose versions can be looked up goes through. -/
theorem apply_mappable (h : r.Mappable doc) :
    r.apply doc = .ok (Manifest.regroup r.stepIn doc (groups doc), r.reports doc) :=
  applyGroups_mappable (fun _ hg => (Manifest.mem_groups hg).2) (Manifest.nodup_groups doc) h

theorem mappable_strings (r : Replacement) (hs : StringVersions doc) : r.Mappable doc := by
  intro g hg j hj
  obtain ⟨v, hv⟩ := hs g hg _ (Assoc.mem_of_find?_eq_some hj)
  obtain rfl : j = .str v := hv
  rfl

theorem apply_regrouped (r : Replacement) (hs : StringVersions doc) :
    ∃ edited, r.apply doc = .ok (edited, r.reports doc) ∧ Regrouped r.within doc edited := by
  have happly := apply_mappable (r.mappable_strings hs)
  have hedited := Manifest.regroup_regrouped r.stepIn doc
  exact ⟨_, happly, hedited.congr fun g hg => r.stepIn_strings (hs g hg)⟩

theorem applyAll_single (r : Replacement) (hs : StringVersions doc) : applyAll [r] doc =
    .ok (Manifest.regroup r.within doc (groups doc), r.reports doc) := by
  have hstep : Manifest.regroup r.stepIn doc (groups doc) =
      Manifest.regroup r.within doc (groups doc) :=
    Manifest.regroup_congr (fun g hg => r.stepIn_strings (hs g hg)) doc
  unfold applyAll
  rw [apply_mappable (r.mappable_strings hs), hstep]
  dsimp only [applyAll]
  rw [List.append_nil]

/-- Replacements never fail where versions are strings, and change nothing but the groups. -/
theorem applyAll_regrouped (rs : List Replacement) (hs : StringVersions doc) :
    ∃ edited changes, applyAll rs doc = .ok (edited, changes) ∧
      Regrouped (batch rs) doc edited := by
  induction rs generalizing doc with
  | nil => exact ⟨doc, [], rfl, .refl fun _ _ => rfl⟩
  | cons r rs ih =>
    obtain ⟨next, happly, hnext⟩ := r.apply_regrouped hs
    have hstrings := hnext.stringVersions fun g hg => hasStrings_within r (hs g hg)
    obtain ⟨edited, more, hall, hedited⟩ := ih hstrings
    refine ⟨edited, r.reports doc ++ more, ?_, hnext.trans hedited⟩
    unfold applyAll
    rw [happly]
    dsimp only
    rw [hall]

/-- A document that can be read back can be read back after a batch. -/
theorem readable_batched (hd : Json.Readable (.obj doc)) (hs : StringVersions doc)
    (hedited : Regrouped (batch rs) doc edited) : Json.Readable (.obj edited) := by
  refine hedited.readable hd fun g hg => ?_
  have hnames := (hd.find? (Manifest.mem_groups hg).2).names
  exact ((hasStrings_batch rs (hs g hg)).lossless (nodup_keys_batch rs hnames)).readable

/-! ## Without changes -/

theorem applyTo_unchanged (h : r.applyTo doc group deps = .ok (edited, [])) : edited = doc := by
  unfold applyTo at h
  split at h
  · cases h
    rfl
  · split at h <;> cases h

theorem applyGroups_unchanged (h : r.applyGroups doc gs = .ok (edited, [])) : edited = doc := by
  induction gs generalizing doc with
  | nil =>
    cases h
    rfl
  | cons g gs ih =>
    unfold applyGroups at h
    split at h
    · cases h
    · next next changes happly =>
      split at h
      · cases h
      · next last more hrest =>
        cases changes with
        | cons => cases h
        | nil =>
          cases h
          rw [ih hrest, applyTo_unchanged happly]

theorem applyAll_unchanged (h : applyAll rs doc = .ok (edited, [])) : edited = doc := by
  induction rs generalizing doc with
  | nil =>
    cases h
    rfl
  | cons r rs ih =>
    unfold applyAll at h
    split at h
    · cases h
    · next next changes happly =>
      split at h
      · cases h
      · next last more hrest =>
        cases changes with
        | cons => cases h
        | nil =>
          cases h
          rw [ih hrest, applyGroups_unchanged happly]

/-! ## The tree that is left -/

/-- What executing replacements makes of a tree, also where it fails, and the changes. -/
def run (rs : List Replacement) (t : Tree) (repo : Path) : Tree × Except Failure (List Change) :=
  match Manifest.load t repo with
  | .error e => (t, .error e)
  | .ok doc =>
    match applyAll rs doc with
    | .error e => (t, .error e)
    | .ok (_, []) => (t, .ok [])
    | .ok (doc, changes) =>
      match Manifest.write t repo doc with
      | (t, .error e) => (t, .error e)
      | (t, .ok ()) => (t, .ok changes)

theorem execute_eq_run (rs : List Replacement) (t : Tree) (repo : Path) :
    execute rs t repo = (run rs t repo).2.map fun changes => ((run rs t repo).1, changes) := by
  unfold execute run
  cases Manifest.load t repo with
  | error e => rfl
  | ok doc =>
    dsimp only
    rcases applyAll rs doc with e | ⟨edited, changes⟩
    · rfl
    · cases changes with
      | nil => rfl
      | cons change changes =>
        dsimp only
        rw [Manifest.write_eq]
        cases Manifest.save t repo edited <;> rfl

theorem execute_eq_ok_iff :
    execute rs t repo = .ok (u, changes) ↔ run rs t repo = (u, .ok changes) := by
  rw [execute_eq_run]
  rcases run rs t repo with ⟨u', e | changes'⟩ <;> simp [Except.map]

theorem run_of_unchanged (hload : Manifest.load t repo = .ok doc)
    (hall : applyAll rs doc = .ok (edited, [])) : run rs t repo = (t, .ok []) := by
  unfold run
  rw [hload]
  dsimp only
  rw [hall]

theorem run_of_changed {change : Change} (hload : Manifest.load t repo = .ok doc)
    (hall : applyAll rs doc = .ok (edited, change :: changes)) : run rs t repo =
      match Manifest.save t repo edited with
      | .error e => (t, .error e)
      | .ok u => (u, .ok (change :: changes)) := by
  unfold run
  rw [hload]
  dsimp only
  rw [hall]
  dsimp only
  rw [Manifest.write_eq]
  cases Manifest.save t repo edited <;> rfl

theorem execute_of_changed (hload : Manifest.load t repo = .ok doc)
    (hall : applyAll rs doc = .ok (edited, changes)) (hchanges : changes ≠ []) :
    execute rs t repo = (Manifest.save t repo edited).map fun u => (u, changes) := by
  obtain ⟨change, more, rfl⟩ := List.exists_cons_of_ne_nil hchanges
  rw [execute_eq_run, run_of_changed hload hall]
  cases Manifest.save t repo edited <;> rfl

/-- A batch that goes through is executed where there is room for a temporary file. -/
theorem execute_ok (hload : Manifest.load t repo = .ok doc)
    (hall : applyAll rs doc = .ok (edited, changes)) (hd : Json.FieldsDateless edited)
    (hroom : ¬ t.IsCramped (Manifest.pathIn repo)) :
    ∃ u, execute rs t repo = .ok (u, changes) := by
  rw [execute_eq_run]
  cases changes with
  | nil =>
    rw [run_of_unchanged hload hall]
    exact ⟨t, rfl⟩
  | cons change changes =>
    obtain ⟨u, hu⟩ := Manifest.replaceText_of_hasFile (Manifest.hasFile_of_load hload) hroom
      (Json.obj edited).document
    have hsave : Manifest.save t repo edited = .ok u := by
      unfold Manifest.save Manifest.write
      rw [Json.fieldsHoldDate_eq_false_iff.mpr hd, if_neg (by decide), hu]
    rw [run_of_changed hload hall, hsave]
    exact ⟨u, rfl⟩

/-! ## Repositories -/

/-- What a batch of replacements has made of a repository. -/
structure Executed (rs : List Replacement) (t u : Tree) (repo : Path) (doc after : Fields) :
    Prop where
  load : Manifest.load u repo = .ok after
  /-- Every group has the entries that the batch leaves of those it had. -/
  groups : groups after = (groups doc).map fun g => (g.1, batch rs g.2)
  /-- What is no group keeps its value, and is written once more at most. -/
  others : ∀ name, name ∉ groupNames → Assoc.find? name after = Assoc.find? name doc ∨
    Assoc.find? name after = (Assoc.find? name doc).map Json.reread
  /-- Only the manifest may have changed. -/
  elsewhere : ∃ l e, t.locate (Manifest.pathIn repo) = .ok (l, e) ∧
    ∀ k, k ≠ l → u.get? k = t.get? k

/-- Executing replacements fails where the new manifest cannot be written, and succeeds
otherwise. -/
theorem execute_cases (rs : List Replacement) (hload : Manifest.load t repo = .ok doc)
    (hs : StringVersions doc) :
    (∃ text e, t.replaceText (Manifest.pathIn repo) text = (t, .error e) ∧
        execute rs t repo = .error (.file e)) ∨
      ∃ u changes after, execute rs t repo = .ok (u, changes) ∧
        Executed rs t u repo doc after := by
  obtain ⟨edited, changes, hall, hedited⟩ := applyAll_regrouped rs hs
  have hd := Manifest.readable_of_load hload
  obtain ⟨l, e, hl, -⟩ := Manifest.load_eq_ok.mp hload
  cases changes with
  | nil =>
    obtain rfl := applyAll_unchanged hall
    refine .inr ⟨t, [], edited, ?_, hload, hedited.groups, fun _ _ => .inl rfl, l, e, hl,
      fun _ _ => rfl⟩
    simp only [execute, hload, hall]
  | cons change changes =>
    have hstrings := hedited.stringVersions fun g hg => hasStrings_batch rs (hs g hg)
    rcases Manifest.save_cases t repo (readable_batched hd hs hedited) with
      ⟨e', he, hsave⟩ | ⟨u, k, hsave, hafter, hworking, hk, helse⟩
    · refine .inl ⟨_, e', he, ?_⟩
      simp only [execute, hload, hall, hsave]
    · obtain rfl : k = l := Tree.locate_unique hworking.symm hk hl
      have hgroups := (Manifest.groups_rereadFields hstrings).trans hedited.groups
      refine .inr ⟨u, change :: changes, _, ?_, hafter, hgroups, ?_, k, e, hl, helse⟩
      · simp only [execute, hload, hall, hsave]
      · intro name hname
        rw [Json.find?_rereadFields, hedited.others hname]
        exact .inr rfl

/-! ## A repository with one group -/

/-- A repository with a manifest. -/
def repository (doc : Fields) : Tree :=
  { entries := [(["repo"], .directory),
      (["repo", "package.json"], .file (.text (Json.obj doc).document))] }

theorem load_repository (h : Json.Lossless (.obj doc)) :
    Manifest.load (repository doc) (Path.ofString "repo") = .ok doc :=
  Manifest.load_eq_ok.mpr ⟨["repo", "package.json"], _, rfl, Manifest.standsAt_of_document h rfl⟩

theorem repository_not_cramped (doc : Fields) :
    ¬ (repository doc).IsCramped (Manifest.pathIn (Path.ofString "repo")) :=
  not_or.mpr ⟨by decide, fun h : 16 ^ 8 ≤ 2 => absurd h (by decide)⟩

theorem replaceText_repository (doc : Fields) (text : String) : ∃ u,
    (repository doc).replaceText (Manifest.pathIn (Path.ofString "repo")) text = (u, .ok ()) :=
  Manifest.replaceText_of_hasFile ⟨["repo", "package.json"], _, rfl⟩ (repository_not_cramped doc)
    text

/-- Executing replacements in such a repository succeeds. -/
theorem execute_repository (rs : List Replacement) (h : Json.Lossless (.obj doc))
    (hs : StringVersions doc) : ∃ u changes after,
      execute rs (repository doc) (Path.ofString "repo") = .ok (u, changes) ∧
        Executed rs (repository doc) u (Path.ofString "repo") doc after := by
  rcases execute_cases rs (load_repository h) hs with ⟨text, e, he, -⟩ | hok
  · obtain ⟨u, hu⟩ := replaceText_repository doc text
    cases he.symm.trans hu
  · exact hok

/-- A manifest with one group. -/
def oneGroup (deps : Fields) : Fields := [("dependencies", .obj deps)]

theorem mem_groups_oneGroup (deps : Fields) : ("dependencies", deps) ∈ groups (oneGroup deps) :=
  Manifest.mem_groups_iff.mpr ⟨List.mem_cons_self .., rfl⟩

theorem hasStrings_oneGroup (hs : HasStrings deps) : StringVersions (oneGroup deps) := by
  rintro g hg
  obtain rfl : g = ("dependencies", deps) := List.mem_singleton.mp hg
  exact hs

theorem lossless_oneGroup (hs : HasStrings deps) (hnames : (Assoc.keys deps).Nodup) :
    Json.Lossless (.obj (oneGroup deps)) :=
  .obj (by simpa [oneGroup] using hs.lossless hnames) (by simp [oneGroup, Assoc.keys])

end Replacement
end BuildRepair
