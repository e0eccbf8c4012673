import BuildRepair.Manifest
import BuildRepair.Proofs.File.Temporary
import BuildRepair.Proofs.Json.Lossless

/-
  Manifests at places, and documents whose groups take other entries. A manifest is loaded from the
  place that its path leads to (`load_eq_ok`), where there is room for a temporary file it can be
  replaced (`replaceText_of_hasFile`), and one that is saved is loaded again up to its doubles
  (`Saved`, `save_of_load`). `Regrouped f doc edited`: the groups of `doc` have the entries that `f` makes of
  theirs in `edited`, and nothing else differs; `regroup f` makes such a document
  (`regroup_regrouped`).
-/

namespace BuildRepair

open Json (FieldsDateless Lossless Readable)
open BuildRepair.Tree (Spares)

/-! ## Manifests at places -/

/-- The text that content is read as. -/
def Content.read : Content → Except Failure String
  | .text s => .ok (String.ofList (Text.unifyLineEnds s.toList))
  | .bytes b =>
    match Text.Utf8.decode b with
    | .ok s => .ok (String.ofList (Text.unifyLineEnds s))
    | .error e => .error (.notText e)

namespace Manifest

variable {t u : Tree} {repo : Path} {l : Place} {doc edited : Fields} {e : Option Entry}

/-- Whether the file at a place is read as a document. -/
def StandsAt (t : Tree) (l : Place) (doc : Fields) : Prop :=
  ∃ content text, t.get? l = some (.file content) ∧ content.read = .ok text ∧
    readDocument text = .ok doc

theorem StandsAt.unique (h : StandsAt t l doc) (h' : StandsAt t l edited) : doc = edited := by
  obtain ⟨content, text, hfile, htext, hdoc⟩ := h
  obtain ⟨content', text', hfile', htext', hdoc'⟩ := h'
  cases hfile.symm.trans hfile'
  cases htext.symm.trans htext'
  cases hdoc.symm.trans hdoc'
  rfl

theorem readText_eq_ok {p : Path} {s : String} : t.readText p = .ok s ↔
    ∃ l content, t.locate p = .ok (l, some (.file content)) ∧ content.read = .ok s := by
  unfold Tree.readText
  constructor
  · intro h
    split at h
    · cases h
    · cases h
    · cases h
    · next hl => exact ⟨_, _, hl, h⟩
    · next hl => exact ⟨_, _, hl, h⟩
  · rintro ⟨l, content, hl, hread⟩
    rw [hl]
    cases content with
    | text s => exact hread
    | bytes b => exact hread

/-- A manifest is loaded from the place that its path leads to. -/
theorem load_eq_ok : load t repo = .ok doc ↔
    ∃ l e, t.locate (pathIn repo) = .ok (l, e) ∧ StandsAt t l doc := by
  unfold load
  constructor
  · intro h
    split at h
    · cases h
    · next htext =>
      obtain ⟨l, content, hl, hread⟩ := readText_eq_ok.mp htext
      exact ⟨l, _, hl, content, _, (Tree.locate_get? hl).symm, hread, h⟩
  · rintro ⟨l, e, hl, content, text, hfile, hread, hdoc⟩
    obtain rfl : e = some (.file content) := (Tree.locate_get? hl).trans hfile
    rw [readText_eq_ok.mpr ⟨l, content, hl, hread⟩]
    exact hdoc

/-- The file of a manifest that can be loaded is there. -/
theorem hasFile_of_load (h : load t repo = .ok doc) : t.HasFile (pathIn repo) := by
  obtain ⟨l, e, hl, content, text, hfile, -⟩ := load_eq_ok.mp h
  obtain rfl : e = some (.file content) := (Tree.locate_get? hl).trans hfile
  exact ⟨l, content, hl⟩

theorem holds_of_load (h : load t repo = .ok doc) : t.holds (pathIn repo) = .ok true := by
  obtain ⟨l, content, hl⟩ := hasFile_of_load h
  exact Tree.holds_eq_true.mpr ⟨l, _, hl⟩

/-- A manifest can be written where there is room for a temporary file, unless a directory is in its
place. -/
theorem replaceText_of_locate (hl : t.locate (pathIn repo) = .ok (l, e))
    (hdir : e ≠ some .directory) (hroom : ¬ t.IsCramped (pathIn repo)) (text : String) :
    ∃ u, t.replaceText (pathIn repo) text = (u, .ok ()) :=
  Tree.replaceText_of_not_cramped (by decide) (by decide) hl hdir hroom text

/-- So a manifest that is there can be replaced. -/
theorem replaceText_of_hasFile (hfile : t.HasFile (pathIn repo))
    (hroom : ¬ t.IsCramped (pathIn repo)) (text : String) :
    ∃ u, t.replaceText (pathIn repo) text = (u, .ok ()) := by
  obtain ⟨l, content, hl⟩ := hfile
  exact replaceText_of_locate hl (by simp) hroom text

/-- A place that is left alone has the manifest that it had. -/
theorem StandsAt.of_spares (h : StandsAt t l doc) (hs : Spares l t u) : StandsAt u l doc := by
  obtain ⟨content, text, hfile, hread, hdoc⟩ := h
  exact ⟨content, text, (hs.places l (List.prefix_refl l)).trans hfile, hread, hdoc⟩

/-- A document that can be read stands where it was written, up to its doubles. -/
theorem standsAt_reread (h : Readable (.obj doc))
    (hfile : u.get? l = some (.file (.text (Json.obj doc).document))) :
    StandsAt u l (Json.rereadFields doc) := by
  refine ⟨_, (Json.obj doc).document, hfile, ?_, ?_⟩
  · unfold Content.read
    dsimp only
    rw [Json.unifyLineEnds_document, String.ofList_toList]
  · unfold readDocument
    rw [h.read_document]
    rfl

/-- A document that loses nothing stands where it was written. -/
theorem standsAt_of_document (h : Lossless (.obj doc))
    (hfile : u.get? l = some (.file (.text (Json.obj doc).document))) : StandsAt u l doc := by
  have hstands := standsAt_reread h.readable hfile
  rwa [Json.obj.inj h.reread] at hstands

theorem readable_of_standsAt (h : StandsAt t l doc) : Readable (.obj doc) := by
  obtain ⟨-, text, -, -, hdoc⟩ := h
  unfold readDocument at hdoc
  split at hdoc
  · cases hdoc
  · next j hj =>
    unfold fieldsOf at hdoc
    split at hdoc
    · cases hdoc
      exact Json.readable_of_read hj
    · cases hdoc

theorem lossless_of_standsAt (h : StandsAt t l doc) (hreal : Json.fieldsHoldReal doc = false) :
    Lossless (.obj doc) :=
  (readable_of_standsAt h).lossless hreal

theorem readable_of_load (h : load t repo = .ok doc) : Readable (.obj doc) := by
  obtain ⟨l, e, -, hstands⟩ := load_eq_ok.mp h
  exact readable_of_standsAt hstands

/-- Saving a document without points in time is refused, or writes it and nothing else; it is then
loaded up to its doubles. -/
theorem save_cases (t : Tree) (repo : Path) (h : Readable (.obj doc)) :
    (∃ e, t.replaceText (pathIn repo) (Json.obj doc).document = (t, .error e) ∧
        save t repo doc = .error (.file e)) ∨
      ∃ u l, save t repo doc = .ok u ∧ load u repo = .ok (Json.rereadFields doc) ∧
        u.working = t.working ∧
        u.locate (pathIn repo) = .ok (l, some (.file (.text (Json.obj doc).document))) ∧
        ∀ k, k ≠ l → u.get? k = t.get? k := by
  have hdates : Json.fieldsHoldDate doc = false :=
    Json.fieldsHoldDate_eq_false_iff.mpr (Json.dateless_obj_iff.mp h.dateless)
  unfold save write
  rw [hdates, if_neg (by decide)]
  rcases Tree.replaceText_cases t (pathIn repo) (Json.obj doc).document with ⟨e, he⟩ | ⟨u, hu, hw⟩
  · rw [he]
    exact .inl ⟨e, rfl, rfl⟩
  · rw [hu]
    obtain ⟨l, hl, hothers⟩ := Tree.writeText_spec hw
    refine .inr ⟨u, l, rfl, load_eq_ok.mpr ⟨l, _, hl, ?_⟩, Tree.writeText_working hw, hl, hothers⟩
    exact standsAt_reread h (Tree.locate_get? hl).symm

/-- What saving a document makes of a tree: the file of the manifest has its text, which is read as
the document up to its doubles, and nothing else differs. -/
structure Saved (t u : Tree) (repo : Path) (doc : Fields) : Prop where
  load : Manifest.load u repo = .ok (Json.rereadFields doc)
  working : u.working = t.working
  file : ∃ l, u.locate (pathIn repo) = .ok (l, some (.file (.text (Json.obj doc).document))) ∧
    ∀ k, k ≠ l → u.get? k = t.get? k

/-- Where a manifest could be loaded, another one is saved if there is room for a temporary file. -/
theorem save_of_load (hload : load t repo = .ok doc) (h : Readable (.obj edited)) :
    (t.IsCramped (pathIn repo) ∧ ∃ e, save t repo edited = .error (.file e)) ∨
      ∃ u, save t repo edited = .ok u ∧ Saved t u repo edited := by
  rcases save_cases t repo h with ⟨e, he, hsave⟩ | ⟨u, l, hsave, hafter, hworking, hl, helse⟩
  · refine .inl ⟨?_, e, hsave⟩
    by_contra hroom
    obtain ⟨u, hu⟩ := replaceText_of_hasFile (hasFile_of_load hload) hroom
      (Json.obj edited).document
    cases he.symm.trans hu
  · exact .inr ⟨u, hsave, hafter, hworking, l, hl, helse⟩

/-- Writing a document either saves it or leaves the tree as it was. -/
theorem write_eq (t : Tree) (repo : Path) (doc : Fields) :
    write t repo doc = match save t repo doc with
      | .error e => (t, .error e)
      | .ok u => (u, .ok ()) := by
  unfold save write
  by_cases hdate : Json.fieldsHoldDate doc = true
  · rw [if_pos hdate]
  · rw [if_neg hdate]
    rcases hreplace : t.replaceText (pathIn repo) (Json.obj doc).document with ⟨u, e | ⟨⟩⟩
    · rw [Tree.replaceText_error hreplace]
    · rfl

/-! ## Groups -/

theorem mem_groups_iff {g : String × Fields} :
    g ∈ groups doc ↔ g.1 ∈ groupNames ∧ Assoc.find? g.1 doc = some (.obj g.2) := by
  unfold groups
  rw [List.mem_filterMap]
  constructor
  · rintro ⟨name, hmem, hname⟩
    obtain ⟨deps, hdeps, rfl⟩ := Option.map_eq_some_iff.mp hname
    obtain ⟨j, hj, hf⟩ := Option.bind_eq_some_iff.mp hdeps
    cases j with
    | obj fields =>
      cases hf
      exact ⟨hmem, hj⟩
    | _ => cases hf
  · rintro ⟨hmem, hfind⟩
    refine ⟨g.1, hmem, ?_⟩
    rw [hfind]
    rfl

/-- The groups of a document are those of its values that are objects under one of their names. -/
theorem mem_groups {g : String × Fields} (h : g ∈ groups doc) :
    g.1 ∈ groupNames ∧ Assoc.find? g.1 doc = some (.obj g.2) :=
  mem_groups_iff.mp h

/-- Whether some group of a document has an entry for a package. -/
def Declares (doc : Fields) (package : String) : Prop :=
  ∃ g ∈ groups doc, package ∈ Assoc.keys g.2

theorem nodup_groupNames : groupNames.Nodup := by decide

theorem nodup_groups (doc : Fields) : (Assoc.keys (groups doc)).Nodup := by
  have hkeys : Assoc.keys (groups doc) =
      groupNames.filter fun group => ((Assoc.find? group doc).bind Json.fields?).isSome := by
    unfold Assoc.keys groups
    rw [List.map_filterMap, ← List.filterMap_eq_filter]
    congr 1
    funext group
    cases h : (Assoc.find? group doc).bind Json.fields? <;> simp [Option.guard, h]
  rw [hkeys]
  exact nodup_groupNames.filter _

/-- What stands in a block is nothing, or the fields of the object of that name. -/
theorem entries_cases (block : String) (doc : Fields) :
    ((Assoc.find? block doc).bind Json.fields?).getD [] = [] ∨
      Assoc.find? block doc =
        some (.obj (((Assoc.find? block doc).bind Json.fields?).getD [])) := by
  cases hf : Assoc.find? block doc with
  | none => exact .inl rfl
  | some j =>
    cases j with
    | obj entries => exact .inr rfl
    | _ => exact .inl rfl

/-! ## Points in time -/

/-- A manifest is read by a reader that builds no points in time. -/
theorem load_dateless (h : load t repo = .ok doc) : FieldsDateless doc :=
  Json.dateless_obj_iff.mp (readable_of_load h).dateless

theorem groups_dateless (h : FieldsDateless doc) : ∀ g ∈ groups doc, FieldsDateless g.2 := by
  intro g hg
  obtain ⟨_, hm⟩ := Assoc.mem_of_find? (mem_groups hg).2
  exact Json.dateless_obj_iff.mp (h _ hm)

/-! ## Versions and other entries -/

/-- Entries with strings as versions. -/
def HasStrings (deps : Fields) : Prop := ∀ p ∈ deps, ∃ v, p.2 = .str v

/-- The entries of every group have strings as versions. -/
def StringVersions (doc : Fields) : Prop := ∀ g ∈ groups doc, HasStrings g.2

theorem HasStrings.find? {deps : Fields} {name : String} (h : HasStrings deps)
    (hname : name ∈ Assoc.keys deps) : ∃ v, Assoc.find? name deps = some (.str v) := by
  obtain ⟨j, hj⟩ := Option.isSome_iff_exists.mp (Assoc.find?_isSome_iff.mpr hname)
  obtain ⟨v, hv⟩ := h _ (Assoc.mem_of_find?_eq_some hj)
  obtain rfl : j = .str v := hv
  exact ⟨v, hj⟩

theorem HasStrings.lossless {deps : Fields} (h : HasStrings deps)
    (hnames : (Assoc.keys deps).Nodup) : Lossless (.obj deps) := by
  refine .obj ?_ hnames
  intro p hp
  obtain ⟨v, hv⟩ := h p hp
  rw [hv]
  exact .str v

/-- The value of a name with other entries, if it is a group. -/
def regrouped (f : Fields → Fields) (name : String) : Json → Json
  | .obj deps => if name ∈ groupNames then .obj (f deps) else .obj deps
  | j => j

/-- A document has other entries in its groups, and nothing else has changed. -/
structure Regrouped (f : Fields → Fields) (doc edited : Fields) : Prop where
  names : Assoc.keys edited = Assoc.keys doc
  values : ∀ name, Assoc.find? name edited = (Assoc.find? name doc).map (regrouped f name)

variable {f f' : Fields → Fields} {name : String}

theorem regrouped_obj (hname : name ∈ groupNames) (deps : Fields) :
    regrouped f name (.obj deps) = .obj (f deps) := if_pos hname

theorem regrouped_of_not_mem (hname : name ∉ groupNames) (j : Json) : regrouped f name j = j := by
  cases j with
  | obj deps => exact if_neg hname
  | _ => rfl

theorem regrouped_comp (j : Json) :
    regrouped f' name (regrouped f name j) = regrouped (f' ∘ f) name j := by
  by_cases hname : name ∈ groupNames
  · cases j with
    | obj deps => rw [regrouped_obj hname, regrouped_obj hname, regrouped_obj hname]; rfl
    | _ => rfl
  · rw [regrouped_of_not_mem hname, regrouped_of_not_mem hname, regrouped_of_not_mem hname]

theorem regrouped_id (name : String) (j : Json) : regrouped id name j = j := by
  cases j with
  | obj deps => exact ite_self ..
  | _ => rfl

/-- Only what becomes of the groups that are there counts. -/
theorem map_regrouped_congr (h : ∀ g ∈ groups doc, f g.2 = f' g.2) (name : String) :
    (Assoc.find? name doc).map (regrouped f name) =
      (Assoc.find? name doc).map (regrouped f' name) := by
  cases hfind : Assoc.find? name doc with
  | none => rfl
  | some j =>
    rw [Option.map_some, Option.map_some]
    by_cases hname : name ∈ groupNames
    · cases j with
      | obj deps =>
        have hdeps := h (name, deps) (mem_groups_iff.mpr ⟨hname, hfind⟩)
        rw [regrouped_obj hname, regrouped_obj hname, hdeps]
      | _ => rfl
    · rw [regrouped_of_not_mem hname, regrouped_of_not_mem hname]

theorem Regrouped.refl (h : ∀ g ∈ groups doc, f g.2 = g.2) : Regrouped f doc doc where
  names := rfl
  values name := by
    have hid : (Assoc.find? name doc).map (regrouped f name) =
        (Assoc.find? name doc).map (regrouped id name) := map_regrouped_congr h name
    rw [hid, funext (regrouped_id name), Option.map_id']

theorem Regrouped.congr (h : Regrouped f doc edited)
    (hf : ∀ g ∈ Manifest.groups doc, f g.2 = f' g.2) : Regrouped f' doc edited where
  names := h.names
  values name := (h.values name).trans (map_regrouped_congr hf name)

theorem Regrouped.trans {last : Fields} (h : Regrouped f doc edited)
    (h' : Regrouped f' edited last) : Regrouped (f' ∘ f) doc last where
  names := h'.names.trans h.names
  values name := by
    rw [h'.values, h.values, Option.map_map]
    exact congrArg (Option.map · _) (funext regrouped_comp)

/-- The entries of its groups and what it was before make a document what it is. -/
theorem Regrouped.unique {edited' : Fields} (h : Regrouped f doc edited)
    (h' : Regrouped f doc edited') (hnames : (Assoc.keys doc).Nodup) : edited = edited' := by
  have hkeys : Assoc.keys edited = Assoc.keys edited' := h.names.trans h'.names.symm
  refine Assoc.eq_of_find? hkeys (h.names ▸ hnames) fun name _ => ?_
  rw [h.values, h'.values]

theorem Regrouped.groups (h : Regrouped f doc edited) :
    Manifest.groups edited = (Manifest.groups doc).map fun g => (g.1, f g.2) := by
  unfold Manifest.groups
  rw [List.map_filterMap]
  refine List.filterMap_congr fun group hgroup => ?_
  rw [h.values]
  cases Assoc.find? group doc with
  | none => rfl
  | some j =>
    rw [Option.map_some]
    cases j with
    | obj deps => rw [regrouped_obj hgroup]; rfl
    | _ => rfl

/-- What is no group keeps its value. -/
theorem Regrouped.others (h : Regrouped f doc edited) (hname : name ∉ groupNames) :
    Assoc.find? name edited = Assoc.find? name doc := by
  rw [h.values]
  cases Assoc.find? name doc with
  | none => rfl
  | some j => rw [Option.map_some, regrouped_of_not_mem hname]

theorem Regrouped.stringVersions (h : Regrouped f doc edited)
    (hf : ∀ g ∈ Manifest.groups doc, HasStrings (f g.2)) : StringVersions edited := by
  intro g hg
  rw [h.groups] at hg
  obtain ⟨g', hg', rfl⟩ := List.mem_map.mp hg
  exact hf g' hg'

theorem Regrouped.readable (h : Regrouped f doc edited) (hd : Readable (.obj doc))
    (hf : ∀ g ∈ Manifest.groups doc, Readable (.obj (f g.2))) : Readable (.obj edited) := by
  have hnames : (Assoc.keys edited).Nodup := h.names ▸ hd.names
  refine .obj ?_ hnames
  intro p hp
  have hfind := (Assoc.find?_eq_some_iff hnames).mpr hp
  rw [h.values] at hfind
  obtain ⟨j, hj, hp⟩ := Option.map_eq_some_iff.mp hfind
  rw [← hp]
  by_cases hname : p.1 ∈ groupNames
  · cases j with
    | obj deps =>
      rw [regrouped_obj hname]
      exact hf (p.1, deps) (mem_groups_iff.mpr ⟨hname, hj⟩)
    | _ => exact hd.find? hj
  · rw [regrouped_of_not_mem hname]
    exact hd.find? hj

/-- A document in which groups take other entries, one after the other. -/
def regroup (f : Fields → Fields) (doc : Fields) (gs : List (String × Fields)) : Fields :=
  gs.foldl (fun doc g => setGroup doc g.1 (f g.2)) doc

theorem regroup_congr {gs : List (String × Fields)} (h : ∀ g ∈ gs, f g.2 = f' g.2) (doc : Fields) :
    regroup f doc gs = regroup f' doc gs := by
  induction gs generalizing doc with
  | nil => rfl
  | cons g gs ih =>
    obtain ⟨hg, h⟩ := List.forall_mem_cons.mp h
    show regroup f (setGroup doc g.1 (f g.2)) gs = regroup f' (setGroup doc g.1 (f' g.2)) gs
    rw [hg, ih h]

/-- Groups that are there keep their places, and a name that is no group keeps its value. -/
theorem regroup_spec (f : Fields → Fields) {gs : List (String × Fields)}
    (hgs : ∀ g ∈ gs, g.1 ∈ Assoc.keys doc) (hnames : (Assoc.keys gs).Nodup) :
    Assoc.keys (regroup f doc gs) = Assoc.keys doc ∧
      ∀ name, Assoc.find? name (regroup f doc gs) =
        (Assoc.find? name gs).elim (Assoc.find? name doc) fun deps => some (.obj (f deps)) := by
  induction gs generalizing doc with
  | nil => exact ⟨rfl, fun _ => rfl⟩
  | cons g gs ih =>
    obtain ⟨group, deps⟩ := g
    obtain ⟨hgroup, hgs⟩ := List.forall_mem_cons.mp hgs
    obtain ⟨hfresh, hnames⟩ := List.nodup_cons.mp hnames
    have hkeys : Assoc.keys (setGroup doc group (f deps)) = Assoc.keys doc := by
      unfold setGroup
      rw [Assoc.keys_put, if_pos hgroup]
    have hlater : ∀ g ∈ gs, g.1 ∈ Assoc.keys (setGroup doc group (f deps)) :=
      fun g hg => hkeys ▸ hgs g hg
    obtain ⟨hrest, hvalues⟩ := ih hlater hnames
    refine ⟨hrest.trans hkeys, fun name => ?_⟩
    show Assoc.find? name (regroup f (setGroup doc group (f deps)) gs) = _
    rw [hvalues, Assoc.find?]
    unfold setGroup
    rw [Assoc.find?_put]
    by_cases hname : group = name
    · subst hname
      have hnone : Assoc.find? group gs = none := Assoc.find?_eq_none_iff.mpr hfresh
      simp [hnone]
    · simp [hname]

theorem regroup_regrouped (f : Fields → Fields) (doc : Fields) :
    Regrouped f doc (regroup f doc (groups doc)) := by
  obtain ⟨hkeys, hvalues⟩ := regroup_spec f
    (fun g hg => Assoc.mem_keys_of_find? (mem_groups hg).2) (nodup_groups doc)
  refine ⟨hkeys, fun name => ?_⟩
  rw [hvalues]
  cases hgroup : Assoc.find? name (groups doc) with
  | some deps =>
    obtain ⟨hname, hfind⟩ := mem_groups_iff.mp (Assoc.mem_of_find?_eq_some hgroup)
    rw [hfind, Option.map_some, regrouped_obj hname]
    rfl
  | none =>
    rw [Option.elim_none]
    cases hfind : Assoc.find? name doc with
    | none => rfl
    | some j =>
      rw [Option.map_some]
      by_cases hname : name ∈ groupNames
      · cases j with
        | obj deps =>
          have hmem : (name, deps) ∈ groups doc := mem_groups_iff.mpr ⟨hname, hfind⟩
          exact absurd (List.mem_map.mpr ⟨_, hmem, rfl⟩)
            (Assoc.not_mem_keys_of_find?_eq_none hgroup)
        | _ => rfl
      · rw [regrouped_of_not_mem hname]

theorem regroup_dateless {gs : List (String × Fields)} (hd : FieldsDateless doc)
    (h : ∀ g ∈ gs, FieldsDateless (f g.2)) : FieldsDateless (regroup f doc gs) := by
  induction gs generalizing doc with
  | nil => exact hd
  | cons g gs ih =>
    obtain ⟨hg, h⟩ := List.forall_mem_cons.mp h
    exact ih (hd.put (Json.dateless_obj_iff.mpr hg) g.1) h

theorem HasStrings.rereadFields {deps : Fields} (h : HasStrings deps) :
    Json.rereadFields deps = deps := by
  have hsame : ∀ p ∈ deps, (p.1, p.2.reread) = p := by
    rintro ⟨name, j⟩ hp
    obtain ⟨v, hv⟩ := h _ hp
    obtain rfl : j = .str v := hv
    rfl
  rw [Json.rereadFields_eq_map, List.map_congr_left hsame, List.map_id']

/-- Strings are read as they were written, so groups with strings are read as they are. -/
theorem groups_rereadFields (h : StringVersions doc) :
    groups (Json.rereadFields doc) = groups doc := by
  have hgroup : ∀ group ∈ groupNames,
      ((Assoc.find? group (Json.rereadFields doc)).bind Json.fields?) =
        (Assoc.find? group doc).bind Json.fields? := by
    intro group hmem
    rw [Json.find?_rereadFields]
    cases hfind : Assoc.find? group doc with
    | none => rfl
    | some j =>
      cases j with
      | obj deps =>
        exact congrArg some (h (group, deps) (mem_groups_iff.mpr ⟨hmem, hfind⟩)).rereadFields
      | _ => rfl
  unfold groups
  exact List.filterMap_congr fun group hmem => by rw [hgroup group hmem]

end Manifest
end BuildRepair
