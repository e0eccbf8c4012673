import BuildRepair.Proofs.Remedy.Keeping
import BuildRepair.Proofs.Replacement.Executing

/-
  What the edits of a manifest make of it, entry by entry. Setting the version of a package changes
  its entries and no others (`withVersion`), another package takes the place of one where that one
  stands (`withSubstitute`), and a pinned version stands in both blocks (`Pinned`). Each group is
  edited by itself (`editGroups_eq`), so an edit counts iff some group declares the package
  (`Manifest.Declares`). What the document becomes is what is read from the file afterwards
  (`Rewrites`); `apply_edits` puts this together for the remedies that edit by strings.
-/

namespace BuildRepair

open Json (Lossless Readable)
open Manifest (Declares Regrouped groups regroup)

namespace Remedy

variable {r : Remedy} {t u : Tree} {repo : Path} {doc edited deps : Fields}
  {package version original replacement : String}

/-! ## Entries -/

/-- The entries of a group with another version of a package. -/
def withVersion (package version : String) (deps : Fields) : Fields :=
  deps.map fun p => (p.1, if p.1 = package then .str version else p.2)

/-- The entries of a group with a package in the place of one that it declares. -/
def withSubstitute (original replacement : String) (deps : Fields) : Fields :=
  if original ∈ Assoc.keys deps then
    (deps.filter fun p => p.1 = original ∨ p.1 ≠ replacement).map fun p =>
      (if p.1 = original then replacement else p.1, p.2)
  else deps

theorem withVersion_of_not_mem (h : package ∉ Assoc.keys deps) :
    withVersion package version deps = deps := by
  refine (List.map_congr_left fun p hp => ?_).trans (List.map_id' deps)
  rw [if_neg]
  rintro rfl
  exact h (List.mem_map.mpr ⟨p, hp, rfl⟩)

theorem adjust_eq (hnames : (Assoc.keys deps).Nodup) :
    adjust (.str package) (.str version) deps =
      .ok (withVersion package version deps, decide (package ∈ Assoc.keys deps)) := by
  rw [adjust, declared?_str]
  cases hfind : Assoc.find? package deps with
  | none =>
    have hmem := Assoc.not_mem_keys_of_find?_eq_none hfind
    rw [withVersion_of_not_mem hmem, decide_eq_false hmem]
    rfl
  | some old =>
    have hmem := Assoc.mem_keys_of_find? hfind
    rw [withVersion, ← Assoc.put_eq_map hnames hmem, decide_eq_true hmem]
    rfl

theorem substitute_eq (hnames : (Assoc.keys deps).Nodup) (hempty : replacement ≠ "") :
    substitute (.str original) (.str replacement) deps =
      .ok (withSubstitute original replacement deps, decide (original ∈ Assoc.keys deps)) := by
  rw [substitute, declared?_str]
  cases hfind : Assoc.find? original deps with
  | none =>
    have hmem := Assoc.not_mem_keys_of_find?_eq_none hfind
    rw [withSubstitute, if_neg hmem, decide_eq_false hmem]
    rfl
  | some value =>
    have hmem := Assoc.mem_keys_of_find? hfind
    rw [withSubstitute, if_pos hmem, decide_eq_true hmem, ← List.filterMap_eq_map,
      List.filterMap_filter]
    refine congrArg (fun deps => Except.ok (deps, true)) (List.filterMap_congr fun p hp => ?_)
    by_cases hp' : p.1 = original
    · -- the only entry of the name is the one that was found
      obtain rfl : p.2 = value := Option.some.inj
        (((Assoc.find?_eq_some_iff hnames).mpr hp).symm.trans (hp' ▸ hfind))
      simp [hp', hempty]
    · by_cases hr : p.1 = replacement
      · have hne : replacement ≠ original := fun h => hp' (hr.trans h)
        simp [hr, hne]
      · simp [hp', hr]

/-! ## Pinned versions -/

/-- A document with a version pinned in some blocks. -/
structure Pinned (package version : String) (blocks : List String) (doc edited : Fields) :
    Prop where
  /-- Blocks that are not there come last. -/
  names : Assoc.keys edited = Assoc.keys doc ++ blocks.filter fun block => block ∉ Assoc.keys doc
  /-- A block keeps its other entries; what is no object has none. -/
  pins : ∀ block ∈ blocks, Assoc.find? block edited = some (.obj (Assoc.put package (.str version)
    (((Assoc.find? block doc).bind Json.fields?).getD [])))
  others : ∀ name, name ∉ blocks → Assoc.find? name edited = Assoc.find? name doc

theorem pin_pinned (package version : String) {blocks : List String} (hblocks : blocks.Nodup)
    (doc : Fields) : ∃ edited, pin (.str package) (.str version) doc blocks = .ok edited ∧
      Pinned package version blocks doc edited := by
  induction blocks generalizing doc with
  | nil => exact ⟨doc, rfl, by simp, by simp, fun _ _ => rfl⟩
  | cons block blocks ih =>
    obtain ⟨hblock, hblocks⟩ := List.nodup_cons.mp hblocks
    let entries := ((Assoc.find? block doc).bind Json.fields?).getD []
    let next := Assoc.put block (.obj (Assoc.put package (.str version) entries)) doc
    obtain ⟨edited, hpin, hpinned⟩ := ih hblocks next
    have hnext {name : String} (hname : name ≠ block) :
        Assoc.find? name next = Assoc.find? name doc := by
      rw [Assoc.find?_put, if_neg (by simpa using Ne.symm hname)]
    refine ⟨edited, hpin, ?_, ?_, ?_⟩
    · have hfilter : (blocks.filter fun b => b ∉ Assoc.keys next) =
          blocks.filter fun b => b ∉ Assoc.keys doc := by
        refine List.filter_congr fun b hb => ?_
        have hne : b ≠ block := fun h => hblock (h ▸ hb)
        simp only [← Assoc.find?_isSome_iff, hnext hne]
      rw [hpinned.names, hfilter, Assoc.keys_put]
      by_cases hmem : block ∈ Assoc.keys doc <;> simp [hmem]
    · intro b hb
      rcases List.mem_cons.mp hb with rfl | hb
      · rw [hpinned.others b hblock, Assoc.find?_put, if_pos (by simp)]
      · have hne : b ≠ block := fun h => hblock (h ▸ hb)
        rw [hpinned.pins b hb, hnext hne]
    · intro name hname
      rw [List.mem_cons, not_or] at hname
      rw [hpinned.others name hname.2, hnext hname.1]

/-! ## The manifest -/

/-- Applying a remedy saves a document as the manifest. Only where there is no room for the temporary
file that takes the place of the manifest may it be reported that this failed. -/
def Saves (r : Remedy) (t : Tree) (repo : Path) (edited : Fields) : Prop :=
  (t.IsCramped (Manifest.pathIn repo) ∧
      ∃ e, r.apply t repo = .ok (t, ⟨r, some (.failed (.file e))⟩)) ∨
    ∃ u, r.apply t repo = .ok (u, ⟨r, none⟩) ∧ Manifest.Saved t u repo edited

/-- Applying a remedy makes the manifest this document, which is read back as it is, and changes
nothing else. Only where there is no room for the temporary file that takes the place of the
manifest may it be reported that this failed. -/
def Rewrites (r : Remedy) (t : Tree) (repo : Path) (edited : Fields) : Prop :=
  (t.IsCramped (Manifest.pathIn repo) ∧
      ∃ e, r.apply t repo = .ok (t, ⟨r, some (.failed (.file e))⟩)) ∨
    ∃ u l e, r.apply t repo = .ok (u, ⟨r, none⟩) ∧ Manifest.load u repo = .ok edited ∧
      t.locate (Manifest.pathIn repo) = .ok (l, e) ∧ ∀ k, k ≠ l → u.get? k = t.get? k

theorem apply_of_refused {e : FileError}
    (h : r.attempt t repo = asChosen r (saveManifest t repo edited))
    (hsave : Manifest.save t repo edited = .error (.file e)) :
    r.apply t repo = .ok (t, ⟨r, some (.failed (.file e))⟩) := by
  unfold apply
  rw [h, saveManifest_of_error hsave]
  rfl

theorem apply_of_saved (h : r.attempt t repo = asChosen r (saveManifest t repo edited))
    (hsave : Manifest.save t repo edited = .ok u) : r.apply t repo = .ok (u, ⟨r, none⟩) := by
  unfold apply
  rw [h, saveManifest_of_ok hsave]
  rfl

theorem saves_of_attempt (hload : Manifest.load t repo = .ok doc) (hedited : Readable (.obj edited))
    (h : r.attempt t repo = asChosen r (saveManifest t repo edited)) : r.Saves t repo edited := by
  rcases Manifest.save_of_load hload hedited with ⟨hcramped, e, hsave⟩ | ⟨u, hsave, hsaved⟩
  · exact .inl ⟨hcramped, e, apply_of_refused h hsave⟩
  · exact .inr ⟨u, apply_of_saved h hsave, hsaved⟩

/-- A document that loses nothing is read back as it was saved. -/
theorem Saves.rewrites (hload : Manifest.load t repo = .ok doc) (hedited : Lossless (.obj edited))
    (h : r.Saves t repo edited) : r.Rewrites t repo edited := by
  rcases h with hcramped | ⟨u, hu, hsaved⟩
  · exact .inl hcramped
  · have hafter := hsaved.load
    rw [Json.obj.inj hedited.reread] at hafter
    obtain ⟨k, hk, helse⟩ := hsaved.file
    obtain ⟨l, e, hl, -⟩ := Manifest.load_eq_ok.mp hload
    obtain rfl : l = k := Tree.locate_unique hsaved.working hl hk
    exact .inr ⟨u, l, e, hu, hafter, hl, helse⟩

theorem rewrites_of_attempt (hload : Manifest.load t repo = .ok doc)
    (hedited : Lossless (.obj edited))
    (h : r.attempt t repo = asChosen r (saveManifest t repo edited)) : r.Rewrites t repo edited :=
  (saves_of_attempt hload hedited.readable h).rewrites hload hedited

/-- Groups that are edited each by itself are saved if one of the edits counts. If none does, the
package is reported as missing. -/
theorem attempt_editGroups {edit : Fields → Edited} (f : Fields → Fields) (counts : Fields → Bool)
    (hr : r.attempt t repo = asChosen r (editManifest (.str package) edit t repo))
    (hload : Manifest.load t repo = .ok doc)
    (hedit : ∀ g ∈ groups doc, edit g.2 = .ok (f g.2, counts g.2)) :
    ((∃ g ∈ groups doc, counts g.2 = true) → r.attempt t repo =
        asChosen r (saveManifest t repo (regroup f doc (groups doc)))) ∧
      ((¬ ∃ g ∈ groups doc, counts g.2 = true) →
        r.apply t repo = .ok (t, ⟨r, some (.notDeclared (.str package))⟩)) := by
  rw [editManifest, manifestOf_of_load hload] at hr
  dsimp only at hr
  rw [editGroups_eq f counts hedit] at hr
  constructor
  · intro hcounts
    rw [List.any_eq_true.mpr hcounts] at hr
    exact hr
  · intro hnone
    have hany : ((groups doc).any fun g => counts g.2) = false :=
      List.any_eq_false.mpr fun g hg hcounts => hnone ⟨g, hg, hcounts⟩
    rw [hany] at hr
    unfold apply
    rw [hr]
    rfl

/-- A remedy that edits the groups of a manifest finds the package declared and makes the entries of
every group what `f` makes of them, or it finds the package nowhere and changes nothing. -/
structure EditsGroups (r : Remedy) (package : String) (f : Fields → Fields) (t : Tree)
    (repo : Path) (doc : Fields) : Prop where
  declared : Declares doc package → ∃ edited, Regrouped f doc edited ∧ r.Rewrites t repo edited
  missing : ¬ Declares doc package →
    r.apply t repo = .ok (t, ⟨r, some (.notDeclared (.str package))⟩)

theorem editsGroups {edit : Fields → Edited} {f : Fields → Fields} (hr : r.attempt t repo =
      asChosen r (editManifest (.str package) edit t repo))
    (hload : Manifest.load t repo = .ok doc) (hd : Lossless (.obj doc))
    (hkeeps : KeepsLossless edit)
    (hedit : ∀ deps, (Assoc.keys deps).Nodup →
      edit deps = .ok (f deps, decide (package ∈ Assoc.keys deps))) :
    EditsGroups r package f t repo doc := by
  have hgroups : ∀ g ∈ groups doc, edit g.2 = .ok (f g.2, decide (package ∈ Assoc.keys g.2)) :=
    fun g hg => hedit g.2 (hd.find? (Manifest.mem_groups hg).2).names
  have hedited := (editGroups_groups_keeps hkeeps hd
    (editGroups_eq f (fun deps => decide (package ∈ Assoc.keys deps)) hgroups)).2
  obtain ⟨hcounts, hnone⟩ := attempt_editGroups f
    (fun deps => decide (package ∈ Assoc.keys deps)) hr hload hgroups
  simp only [decide_eq_true_eq] at hcounts hnone
  exact
    { declared := fun hdeclared =>
        ⟨_, Manifest.regroup_regrouped f doc,
          rewrites_of_attempt hload hedited (hcounts hdeclared)⟩
      missing := hnone }

/-- What the edits of a manifest without doubles do: a version is set and a package put in the place
of another one iff the package is declared somewhere, in every group that declares it; a version is
always pinned. -/
theorem apply_edits (hload : Manifest.load t repo = .ok doc)
    (hreal : Json.fieldsHoldReal doc = false) :
    (∀ package version, EditsGroups (.adjustVersion (.str package) (.str version)) package
        (withVersion package version) t repo doc) ∧
      (∀ original replacement, replacement ≠ "" →
        EditsGroups (.substitutePackage (.str original) (.str replacement)) original
          (withSubstitute original replacement) t repo doc) ∧
      ∀ package version, ∃ edited, Pinned package version pinBlocks doc edited ∧
        Rewrites (.addResolution (.str package) (.str version)) t repo edited := by
  have hd : Lossless (.obj doc) := (Manifest.readable_of_load hload).lossless hreal
  refine ⟨fun package version => ?_, fun original replacement hempty => ?_,
    fun package version => ?_⟩
  · exact editsGroups rfl hload hd (keepsLossless_adjust package version) fun _ => adjust_eq
  · exact editsGroups rfl hload hd (keepsLossless_substitute original replacement)
      fun _ hnames => substitute_eq hnames hempty
  · obtain ⟨edited, hpin, hpinned⟩ := pin_pinned package version (by decide : pinBlocks.Nodup) doc
    have hlossless := (pin_keeps (fun _ hb => hb) hd hpin).2
    refine ⟨edited, hpinned, rewrites_of_attempt hload hlossless ?_⟩
    rw [attempt, pinManifest, manifestOf_of_load hload]
    dsimp only
    rw [hpin]

/-- A manifest that declares a package and one that can take its place. -/
def twoReacts : Fields := Replacement.oneGroup [("preact", .str "8"), ("react", .str "17")]

theorem twoReacts_edits : ∃ u edited,
    apply (.substitutePackage (.str "react") (.str "preact")) (Replacement.repository twoReacts)
        (Path.ofString "repo") =
      .ok (u, ⟨.substitutePackage (.str "react") (.str "preact"), none⟩) ∧
      Manifest.load u (Path.ofString "repo") = .ok edited ∧
      Assoc.find? "dependencies" edited = some (.obj [("preact", .str "17")]) := by
  have hs : Manifest.HasStrings [("preact", .str "8"), ("react", .str "17")] := by
    simp [Manifest.HasStrings]
  have hlossless : Lossless (.obj twoReacts) := Replacement.lossless_oneGroup hs (by decide)
  have hdeclares : Declares twoReacts "react" :=
    ⟨_, Replacement.mem_groups_oneGroup _, by decide⟩
  obtain ⟨-, hsubstitute, -⟩ :=
    apply_edits (Replacement.load_repository hlossless) (by decide)
  obtain ⟨edited, hedited, hrewrites⟩ :=
    (hsubstitute "react" "preact" (by decide)).declared hdeclares
  have hfind : Assoc.find? "dependencies" edited = some (.obj [("preact", .str "17")]) := by
    rw [hedited.values]
    rfl
  rcases hrewrites with ⟨hcramped, -⟩ | ⟨u, -, -, hu, hload, -⟩
  · exact absurd hcramped (Replacement.repository_not_cramped twoReacts)
  · exact ⟨u, edited, hu, hload, hfind⟩

end Remedy
end BuildRepair
