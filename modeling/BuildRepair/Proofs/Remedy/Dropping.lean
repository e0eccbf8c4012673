import BuildRepair.Proofs.Remedy.Edits

/-
  What the removal of a package does to a manifest. Dropping takes every entry of the package out of
  a group, but it counts only where the entry had a version, so a null does not count (`drop_eq`).
  If some group has a version, the manifest is saved without the package in any group, those with a
  null included, and with every other entry as it was. Otherwise the package is reported as not
  declared and stays, also where it is declared (`apply_drops`, `nullVersion_stays`).
-/

namespace BuildRepair

open Json (Lossless Readable)
open Manifest (Declares Regrouped groups)

variable {t : Tree} {repo : Path} {doc edited deps : Fields} {package : String}

/-! ## Versions of a package -/

namespace Manifest

/-- Whether a group has an entry for a package that is not null. -/
def hasVersion (package : String) (deps : Fields) : Bool :=
  ((Assoc.find? package deps).bind versionOf).isSome

/-- Whether some group of a document has an entry for a package that is not null. -/
def Versioned (doc : Fields) (package : String) : Prop :=
  ∃ g ∈ groups doc, ∃ j, Assoc.find? package g.2 = some j ∧ j ≠ .null

theorem versionOf_isSome {j : Json} : (versionOf j).isSome = true ↔ j ≠ .null := by
  cases j <;> simp [versionOf]

theorem hasVersion_iff :
    hasVersion package deps = true ↔ ∃ j, Assoc.find? package deps = some j ∧ j ≠ .null := by
  unfold hasVersion
  cases Assoc.find? package deps with
  | none => simp
  | some j => simpa using versionOf_isSome

theorem versioned_iff :
    Versioned doc package ↔ ∃ g ∈ groups doc, hasVersion package g.2 = true := by
  unfold Versioned
  simp only [hasVersion_iff]

/-- Where every group is without a package, no group declares it. -/
theorem not_declares_of_erased (h : Regrouped (Assoc.erase package) doc edited) :
    ¬ Declares edited package := by
  rintro ⟨g, hg, hmem⟩
  rw [h.groups] at hg
  obtain ⟨old, -, rfl⟩ := List.mem_map.mp hg
  have hnone := Assoc.find?_erase_self package old.2
  exact Assoc.not_mem_keys_of_find?_eq_none hnone hmem

end Manifest

namespace Remedy

open Manifest (Versioned hasVersion)

/-! ## Dropping a package -/

/-- Dropping takes out all entries of a package, and counts if the first of them is not null. -/
theorem drop_eq (package : String) (deps : Fields) :
    drop (.str package) deps = .ok (Assoc.erase package deps, hasVersion package deps) := by
  unfold drop hasVersion
  rw [declared?_str]
  cases hfind : Assoc.find? package deps with
  | none =>
    rw [Assoc.erase_of_find?_eq_none hfind]
    split <;> rfl
  | some j =>
    have hne : deps.isEmpty = false := by
      cases deps with
      | nil => cases hfind
      | cons p deps => rfl
    rw [if_neg (by simp [hne])]
    cases j <;> rfl

/-- Dropping a package is attempted in every group if some group has a version for it, and reported
as impossible otherwise. -/
theorem attempt_drop (hload : Manifest.load t repo = .ok doc) (package : String) :
    (Versioned doc package → attempt (.removePackage (.str package)) t repo =
        asChosen (.removePackage (.str package))
          (saveManifest t repo (Manifest.regroup (Assoc.erase package) doc (groups doc)))) ∧
      (¬ Versioned doc package → apply (.removePackage (.str package)) t repo =
        .ok (t, ⟨.removePackage (.str package), some (.notDeclared (.str package))⟩)) := by
  rw [Manifest.versioned_iff]
  exact attempt_editGroups (Assoc.erase package) (hasVersion package) rfl hload
    fun g _ => drop_eq package g.2

theorem readable_dropped (h : Readable (.obj doc)) (package : String) :
    Readable (.obj (Manifest.regroup (Assoc.erase package) doc (groups doc))) :=
  (Manifest.regroup_regrouped _ doc).readable h fun _ hg =>
    (h.find? (Manifest.mem_groups hg).2).erase package

/-- Removing a package succeeds iff some group has a version for it, as far as there is room to
write the manifest. It is then saved without the package in any of its groups and with every other
entry as it was. If no group has a version, nothing changes and the package is reported as not
declared, which it may well be, with nulls as its versions. -/
theorem apply_drops (hload : Manifest.load t repo = .ok doc) (package : String) :
    (Versioned doc package → ∃ edited, Regrouped (Assoc.erase package) doc edited ∧
        ¬ Declares edited package ∧ Saves (.removePackage (.str package)) t repo edited) ∧
      (¬ Versioned doc package → apply (.removePackage (.str package)) t repo =
        .ok (t, ⟨.removePackage (.str package), some (.notDeclared (.str package))⟩)) := by
  obtain ⟨hcounts, hnone⟩ := attempt_drop hload package
  refine ⟨fun hversioned => ?_, hnone⟩
  have hedited := Manifest.regroup_regrouped (Assoc.erase package) doc
  have hreadable := readable_dropped (Manifest.readable_of_load hload) package
  exact ⟨_, hedited, Manifest.not_declares_of_erased hedited,
    saves_of_attempt hload hreadable (hcounts hversioned)⟩

/-- A manifest that declares a package in two groups, in one of them without a version. -/
def mixedVersions : Fields :=
  [("dependencies", .obj [("left", .null), ("right", .str "1")]),
    ("devDependencies", .obj [("left", .str "2")])]

theorem lossless_mixedVersions : Lossless (.obj mixedVersions) := by
  have hdeps : Lossless (.obj [("left", .null), ("right", .str "1")]) :=
    .obj (by simpa using ⟨.null, .str "1"⟩) (by decide)
  have hdev : Lossless (.obj [("left", .str "2")]) := .obj (by simpa using .str "2") (by decide)
  exact .obj (by simpa [mixedVersions] using ⟨hdeps, hdev⟩) (by decide)

theorem mixedVersions_dropped : ∃ u after,
    apply (.removePackage (.str "left")) (Replacement.repository mixedVersions)
        (Path.ofString "repo") = .ok (u, ⟨.removePackage (.str "left"), none⟩) ∧
      Manifest.load u (Path.ofString "repo") = .ok after ∧
      Assoc.find? "dependencies" after = some (.obj [("right", .str "1")]) ∧
      Assoc.find? "devDependencies" after = some (.obj []) := by
  have hversioned : Versioned mixedVersions "left" :=
    ⟨("devDependencies", [("left", .str "2")]), Manifest.mem_groups_iff.mpr ⟨by decide, rfl⟩,
      .str "2", rfl, by simp⟩
  obtain ⟨hdropped, -⟩ := apply_drops (Replacement.load_repository lossless_mixedVersions) "left"
  obtain ⟨edited, hedited, -, hcramped | ⟨u, hu, hsaved⟩⟩ := hdropped hversioned
  · exact absurd hcramped.1 (Replacement.repository_not_cramped mixedVersions)
  · have hafter (group : String) : Assoc.find? group (Json.rereadFields edited) =
        ((Assoc.find? group mixedVersions).map
          (Manifest.regrouped (Assoc.erase "left") group)).map Json.reread := by
      rw [Json.find?_rereadFields, hedited.values]
    exact ⟨u, _, hu, hsaved.load, hafter "dependencies", hafter "devDependencies"⟩

/-- A manifest that declares a package without a version. -/
def nullVersion : Fields := Replacement.oneGroup [("left", .null)]

/-- A package whose only version is null stays, although it is declared. -/
theorem nullVersion_stays :
    Manifest.load (Replacement.repository nullVersion) (Path.ofString "repo") = .ok nullVersion ∧
      Declares nullVersion "left" ∧
      apply (.removePackage (.str "left")) (Replacement.repository nullVersion)
          (Path.ofString "repo") =
        .ok (Replacement.repository nullVersion,
          ⟨.removePackage (.str "left"), some (.notDeclared (.str "left"))⟩) := by
  have hdeps : Lossless (.obj [("left", .null)]) := .obj (by simpa using .null) (by decide)
  have hlossless : Lossless (.obj nullVersion) :=
    .obj (by simpa [nullVersion, Replacement.oneGroup] using hdeps) (by decide)
  have hload := Replacement.load_repository hlossless
  have hnone : ¬ Versioned nullVersion "left" := by
    rw [Manifest.versioned_iff]
    rintro ⟨g, hg, hversion⟩
    obtain rfl : g = ("dependencies", [("left", .null)]) := List.mem_singleton.mp hg
    cases hversion
  obtain ⟨-, hreported⟩ := attempt_drop hload "left"
  exact ⟨hload, ⟨_, Replacement.mem_groups_oneGroup _, by decide⟩, hreported hnone⟩

end Remedy
end BuildRepair
