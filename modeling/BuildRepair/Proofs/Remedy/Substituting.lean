import BuildRepair.Proofs.Remedy.Edits

/-
  A package can be put in the place of another one by a remedy or by a replacement, and the two are
  programs of their own: a replacement maps versions, gives an entry that keeps its name another
  version and reports each change, a remedy says whether it found the package. Where no version is
  mapped, they make the same of each group (`substitute_eq_within`), so they leave the same tree,
  and the remedy succeeds iff the replacement reports a change (`apply_eq_run`).
-/

namespace BuildRepair

open Manifest (Declares HasStrings Regrouped StringVersions groups regroup)

namespace Remedy

variable {s : Replacement} {t : Tree} {repo : Path} {doc deps : Fields}

/-! ## One group -/

/-- In a group, the remedy does what the replacement does. Only the empty name would make a
difference: the remedy removes it where it should keep its name. -/
theorem substitute_eq_within (hold : s.oldName ≠ "") (hversions : s.versions = [])
    (hs : HasStrings deps) (hnames : (Assoc.keys deps).Nodup) :
    substitute (.str s.oldName) (.str s.newName) deps =
      .ok (s.within deps, decide (s.oldName ∈ Assoc.keys deps)) := by
  rw [substitute, declared?_str]
  cases hfind : Assoc.find? s.oldName deps with
  | none =>
    have hmem := Assoc.not_mem_keys_of_find?_eq_none hfind
    rw [Replacement.within_of_not_mem hmem, decide_eq_false hmem]
    rfl
  | some version =>
    have hmem := Assoc.mem_keys_of_find? hfind
    obtain ⟨v, hv⟩ := hs.find? hmem
    obtain rfl : version = .str v := Option.some.inj (hfind.symm.trans hv)
    rw [Replacement.within_eq_rename hold hnames hfind, Replacement.mapVersion_of_nil hversions,
      decide_eq_true hmem]
    rfl

/-! ## The manifest -/

/-- Where versions are strings, substituting a package as a remedy and replacing it without mapping
its versions leave the same tree. The remedy succeeds iff the replacement reports a change. -/
theorem apply_eq_run (hload : Manifest.load t repo = .ok doc) (hs : StringVersions doc)
    (hold : s.oldName ≠ "") (hversions : s.versions = []) :
    ∃ u a, apply (.substitutePackage (.str s.oldName) (.str s.newName)) t repo = .ok (u, a) ∧
      (Replacement.run [s] t repo).1 = u ∧
      (a.success = true ↔
        ∃ change more, Replacement.execute [s] t repo = .ok (u, change :: more)) := by
  have hd := Manifest.readable_of_load hload
  obtain ⟨hcounts, hnone⟩ := attempt_editGroups
    (r := .substitutePackage (.str s.oldName) (.str s.newName)) s.within
    (fun deps => decide (s.oldName ∈ Assoc.keys deps)) rfl hload fun g hg =>
      substitute_eq_within hold hversions (hs g hg) (hd.find? (Manifest.mem_groups hg).2).names
  simp only [decide_eq_true_eq] at hcounts hnone
  have hall := Replacement.applyAll_single s hs
  rw [Replacement.execute_eq_run]
  cases hreports : s.reports doc with
  | nil =>
    rw [hreports] at hall
    rw [Replacement.run_of_unchanged hload hall]
    exact ⟨t, _, hnone (Replacement.reports_eq_nil_iff.mp hreports), rfl, by
      simp [Application.success, Except.map]⟩
  | cons change more =>
    rw [hreports] at hall
    have hdeclared : Declares doc s.oldName := by
      by_contra hmissing
      rw [Replacement.reports_eq_nil_iff.mpr hmissing] at hreports
      cases hreports
    have hedited : Regrouped (Replacement.batch [s]) doc (regroup s.within doc (groups doc)) :=
      Manifest.regroup_regrouped s.within doc
    have hreadable := Replacement.readable_batched hd hs hedited
    rw [Replacement.run_of_changed hload hall]
    rcases Manifest.save_of_load hload hreadable with ⟨-, e, hsave⟩ | ⟨u, hsave, -⟩
    · rw [hsave]
      exact ⟨t, _, apply_of_refused (hcounts hdeclared) hsave, rfl, by
        simp [Application.success, Except.map]⟩
    · rw [hsave]
      exact ⟨u, _, apply_of_saved (hcounts hdeclared) hsave, rfl, by
        simp [Application.success, Except.map]⟩

/-- The replacement that puts one of two packages in the place of the other. -/
def reactToPreact : Replacement := { oldName := "react", newName := "preact", versions := [] }

theorem twoReacts_agrees : ∃ u a change more,
    apply (.substitutePackage (.str "react") (.str "preact")) (Replacement.repository twoReacts)
        (Path.ofString "repo") = .ok (u, a) ∧ a.success = true ∧
      Replacement.execute [reactToPreact] (Replacement.repository twoReacts)
        (Path.ofString "repo") = .ok (u, change :: more) := by
  have hdeps : HasStrings [("preact", .str "8"), ("react", .str "17")] := by simp [HasStrings]
  have hs : StringVersions twoReacts := Replacement.hasStrings_oneGroup hdeps
  have hload := Replacement.load_repository (Replacement.lossless_oneGroup hdeps (by decide))
  obtain ⟨v, hexecute⟩ := Replacement.execute_ok hload (Replacement.applyAll_single reactToPreact hs)
    (Json.fieldsHoldDate_eq_false_iff.mp (by decide)) (Replacement.repository_not_cramped twoReacts)
  obtain ⟨u, a, happly, hrun, hsuccess⟩ := apply_eq_run (s := reactToPreact) hload hs (by decide) rfl
  obtain rfl : v = u := by rw [← hrun, Replacement.execute_eq_ok_iff.mp hexecute]
  exact ⟨v, a, _, _, happly, hsuccess.mpr ⟨_, _, hexecute⟩, hexecute⟩

end Remedy
end BuildRepair
