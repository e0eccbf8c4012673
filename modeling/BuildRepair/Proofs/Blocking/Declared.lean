import BuildRepair.Blocking
import BuildRepair.Proofs.Replacement.Executing

/-
  The two maps from names to versions that are made of a manifest: the one that is scanned
  (`Manifest.dependencies`) and the one that is repaired from (`Detector.declared`). Both take the
  first entry of each name, group by group, so they have the same names in the same order. They take
  another version where that entry holds false, a zero, or an empty array or object: the first map
  has its text, the second one the empty text. So they are one map iff no first entry does
  (`dependencies_eq_declared_iff`), and only then does every detector find the same in both.
-/

namespace BuildRepair

open Manifest (dependencies declarations versionOf)
open Replacement (repository)

/-! ## Versions -/

/-- A value that says in every reading which version it is: one that counts as present, null, or
the empty string. -/
def Json.IsClear (j : Json) : Prop := j.truthy = true ∨ j = .null ∨ j = .str ""

namespace Detector

/-- The version that a value is repaired from. -/
def versionText (j : Json) : String := if j.truthy then j.display else ""

/-- A value that counts as absent has a text all the same, but for null and the empty string. -/
theorem display_ne_empty {j : Json} (hj : j.truthy = false) (hnull : j ≠ .null)
    (hempty : j ≠ .str "") : j.display ≠ "" := by
  cases j with
  | null => exact absurd rfl hnull
  | bool b =>
    obtain rfl : b = false := hj
    decide
  | int n =>
    obtain rfl : n = 0 := by simpa [Json.truthy] using hj
    decide
  | real x =>
    cases x with
    | finite negative mantissa exponent =>
      obtain rfl : mantissa = 0 := by simpa [Json.truthy, Binary64.isZero] using hj
      cases negative <;> simp [Json.display, Json.spelled, Json.spell, Binary64.textWith]
    | infinite negative => cases hj
    | nan => cases hj
  | str s =>
    obtain rfl : s = "" := by simpa [Json.truthy] using hj
    exact absurd rfl hempty
  | arr items =>
    obtain rfl : items = [] := by simpa [Json.truthy] using hj
    decide
  | obj fields =>
    obtain rfl : fields = [] := by simpa [Json.truthy] using hj
    decide
  | date t => cases hj

/-- The two readings of a value agree iff it is clear. -/
theorem versionOf_eq_iff (j : Json) : (versionOf j).getD "" = versionText j ↔ j.IsClear := by
  unfold Json.IsClear versionText
  by_cases hnull : j = .null
  · subst hnull
    exact ⟨fun _ => .inr (.inl rfl), fun _ => rfl⟩
  · have hread : (versionOf j).getD "" = j.display := by
      cases j with
      | null => exact absurd rfl hnull
      | _ => rfl
    rw [hread]
    by_cases hpresent : j.truthy = true
    · simp [hpresent]
    · rw [Bool.not_eq_true] at hpresent
      rw [hpresent, if_neg (by decide)]
      constructor
      · intro h
        refine .inr (.inr ?_)
        by_contra hempty
        exact display_ne_empty hpresent hnull hempty h
      · rintro (h | h | rfl)
        · cases h
        · exact absurd h hnull
        · rfl

/-! ## The maps -/

/-- The entries of all groups, group by group. -/
def entries (doc : Fields) : Fields := (Manifest.groups doc).flatMap (·.2)

/-- The versions of entries by name, of which the first one counts. -/
def versions (text : Json → String) (ps : Fields) : List (String × String) :=
  Assoc.putAllNew (ps.map fun p => (p.1, text p.2)) []

theorem dependencies_eq (doc : Fields) : dependencies (declarations doc) =
    versions (fun j => (versionOf j).getD "") (entries doc) := by
  unfold dependencies declarations versions entries Assoc.putAllNew
  rw [List.foldl_map, List.foldl_flatMap, List.foldl_flatMap]
  simp only [List.foldl_map]

theorem declared_eq (doc : Fields) : declared doc = versions versionText (entries doc) := by
  unfold declared versions entries versionText Assoc.putAllNew
  rw [List.foldl_map]

variable {text text' : Json → String} {ps : Fields}

theorem keys_versions (text text' : Json → String) (ps : Fields) :
    Assoc.keys (versions text ps) = Assoc.keys (versions text' ps) := by
  refine Assoc.keys_putAllNew_congr ?_ rfl
  unfold Assoc.keys
  rw [List.map_map, List.map_map]
  rfl

theorem find?_versions (text : Json → String) (ps : Fields) (name : String) :
    Assoc.find? name (versions text ps) = (Assoc.find? name ps).map text := by
  unfold versions
  rw [Assoc.find?_putAllNew fun _ => eq_of_beq, Assoc.find?_map]
  rfl

theorem nodup_keys_versions (text : Json → String) (ps : Fields) :
    (Assoc.keys (versions text ps)).Nodup :=
  Assoc.nodup_keys_putAllNew (by simp [Assoc.keys]) _

theorem nodup_keys_declared (doc : Fields) : (Assoc.keys (declared doc)).Nodup := by
  rw [declared_eq]
  exact nodup_keys_versions _ _

/-- A name in the map that is scanned is declared in some group. -/
theorem declares_of_mem_dependencies {doc : Fields} {name : String}
    (h : name ∈ Assoc.keys (dependencies (declarations doc))) : Manifest.Declares doc name := by
  rw [dependencies_eq, ← Assoc.find?_isSome_iff, find?_versions, Option.isSome_map,
    Assoc.find?_isSome_iff] at h
  obtain ⟨p, hp, rfl⟩ := List.mem_map.mp h
  obtain ⟨g, hg, hp⟩ := List.mem_flatMap.mp hp
  exact ⟨g, hg, List.mem_map.mpr ⟨p, hp, rfl⟩⟩

/-- Two readings make one map of entries iff they agree on the first entry of each name. -/
theorem versions_eq_iff : versions text ps = versions text' ps ↔
    ∀ name j, Assoc.find? name ps = some j → text j = text' j := by
  constructor
  · intro h name j hj
    have hname := congrArg (Assoc.find? name) h
    rw [find?_versions, find?_versions, hj] at hname
    exact Option.some.inj hname
  · intro h
    refine Assoc.eq_of_find? (keys_versions text text' ps) (nodup_keys_versions text ps)
      fun name _ => ?_
    rw [find?_versions, find?_versions]
    cases hj : Assoc.find? name ps with
    | none => rfl
    | some j => exact congrArg some (h name j hj)

/-- The two maps are one iff the first entry of every name is clear. -/
theorem dependencies_eq_iff (doc : Fields) : dependencies (declarations doc) = declared doc ↔
    ∀ name j, Assoc.find? name (entries doc) = some j → j.IsClear := by
  rw [dependencies_eq, declared_eq, versions_eq_iff]
  simp only [versionOf_eq_iff]

/-- Strings are clear, so where all versions are strings the two maps are one. -/
theorem clear_of_strings {doc : Fields} (hs : Manifest.StringVersions doc) (name : String)
    (j : Json) (h : Assoc.find? name (entries doc) = some j) : j.IsClear := by
  obtain ⟨g, hg, hmem⟩ := List.mem_flatMap.mp (Assoc.mem_of_find?_eq_some h)
  obtain ⟨v, hv⟩ := hs g hg _ hmem
  obtain rfl : j = .str v := hv
  by_cases hempty : v = ""
  · exact .inr (.inr (congrArg Json.str hempty))
  · exact .inl (by simpa [Json.truthy] using hempty)

/-! ## What is found in them -/

/-- A detector for which every source is gone, since every text holds the empty one. -/
def everythingGone : Detector :=
  { registry := some { deadUrls := [""] }, architecture := "", network := ⟨fun _ _ => .failed⟩ }

theorem verdict_everythingGone (sent : List String) (name version : String) :
    ((everythingGone.verdict sent name version).1).isSome = true := by
  have hholds : Text.holds "" version.toList = true := by
    cases h : version.toList <;> rfl
  have hdead :
      everythingGone.listedDead name version = some (everythingGone.replacementOf name) := by
    simp [listedDead, everythingGone, Registry.isDeadUrl, hholds]
  unfold verdict
  split
  · rfl
  · rw [hdead]
    split <;> rfl

/-- It finds every dependency. -/
theorem scan_everythingGone (sent : List String) (deps : List (String × String)) :
    ((everythingGone.scan sent deps).1.map fun b => (b.name, b.version)) = deps := by
  induction deps generalizing sent with
  | nil => rfl
  | cons p deps ih =>
    obtain ⟨name, version⟩ := p
    obtain ⟨found, hfound⟩ := Option.isSome_iff_exists.mp (verdict_everythingGone sent name version)
    simp [scan, hfound, ih]

/-- Two maps in which every detector finds the same are one map. -/
theorem eq_of_detect_eq {deps deps' : List (String × String)}
    (h : ∀ d : Detector, (d.detect deps).1 = (d.detect deps').1) : deps = deps' := by
  have hall := congrArg (List.map fun b : Blocked => (b.name, b.version)) (h everythingGone)
  unfold detect at hall
  rwa [scan_everythingGone, scan_everythingGone] at hall

/-- The map that is scanned and the map that is repaired from have the same names in the same order.
They are one map iff the first entry of every name is clear, and that is so iff every detector finds
the same blocking dependencies in both. -/
theorem dependencies_eq_declared_iff (doc : Fields) :
    Assoc.keys (dependencies (declarations doc)) = Assoc.keys (declared doc) ∧
    (dependencies (declarations doc) = declared doc ↔
      ∀ name j, Assoc.find? name (entries doc) = some j → j.IsClear) ∧
    (dependencies (declarations doc) = declared doc ↔
      ∀ d : Detector, (d.detect (dependencies (declarations doc))).1 =
        (d.detect (declared doc)).1) := by
  refine ⟨?_, dependencies_eq_iff doc, fun h d => by rw [h], eq_of_detect_eq⟩
  rw [dependencies_eq, declared_eq]
  exact keys_versions _ _ _

/-- A manifest with a truth value as version. -/
def falseVersion : Fields := [("dependencies", .obj [("left", .bool false)])]

/-- A detector for which a source is gone if it holds the text of that value. -/
def falseGone : Detector := { everythingGone with registry := some { deadUrls := ["False"] } }

/-- Its version is that text where the manifest is scanned, and empty where it is repaired. -/
theorem falseVersion_differs :
    Manifest.load (repository falseVersion) (Path.ofString "repo") = .ok falseVersion ∧
      dependencies (declarations falseVersion) = [("left", "False")] ∧
      declared falseVersion = [("left", "")] ∧
      (falseGone.detect (dependencies (declarations falseVersion))).1 =
        [⟨"left", "False", .deadUrl, none⟩] ∧
      (falseGone.detect (declared falseVersion)).1 = [] := by
  have hlossless : Json.Lossless (.obj falseVersion) := by
    have hdeps : Json.Lossless (.obj [("left", .bool false)]) :=
      .obj (by simpa using .bool false) (by decide)
    exact .obj (by simpa [falseVersion] using hdeps) (by decide)
  exact ⟨Replacement.load_repository hlossless, by decide +kernel, by decide +kernel,
    by decide +kernel, by decide +kernel⟩

end Detector
end BuildRepair
