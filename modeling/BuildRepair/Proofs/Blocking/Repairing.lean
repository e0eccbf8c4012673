import BuildRepair.Proofs.Blocking.Declared
import BuildRepair.Proofs.Blocking.Rules

/-
  What a run over a repository repairs. The replacements that blocking dependencies carry are those
  that are executed (`replacements_eq`), one for each name. So no group declares a replaced name
  afterwards, unless a replacement brings it in, and what no replacement names stays as it was
  (`replaceIn_repairs`).
-/

namespace BuildRepair

open Manifest (StringVersions groups groupNames)

/-! ## The replacements of a run -/

namespace Blocked

variable {blocked : List Blocked} {chosen : List Replacement}

/-- Where the replacements have different old names, each of them is chosen. -/
theorem replacements_foldl
    (h : ((chosen ++ blocked.filterMap (·.replacement)).map (·.oldName)).Nodup) :
    blocked.foldl
      (fun chosen b =>
        match b.replacement with
        | some r => if chosen.any (·.oldName == r.oldName) then chosen else chosen ++ [r]
        | none => chosen)
      chosen = chosen ++ blocked.filterMap (·.replacement) := by
  induction blocked generalizing chosen with
  | nil => simp
  | cons b blocked ih =>
    rw [List.foldl_cons]
    cases hb : b.replacement with
    | none =>
      rw [List.filterMap_cons_none hb] at h ⊢
      exact ih h
    | some r =>
      rw [List.filterMap_cons_some hb] at h ⊢
      have hnew : ¬ chosen.any (·.oldName == r.oldName) = true := by
        rw [List.map_append, List.nodup_append] at h
        rw [List.any_eq_true]
        rintro ⟨s, hs, hname⟩
        exact h.2.2 _ (List.mem_map_of_mem hs) r.oldName (by simp) (eq_of_beq hname)
      have happend : chosen ++ r :: blocked.filterMap (·.replacement) =
          (chosen ++ [r]) ++ blocked.filterMap (·.replacement) := by simp
      dsimp only
      rw [if_neg hnew, happend]
      exact ih (happend ▸ h)

theorem replacements_eq (h : ((blocked.filterMap (·.replacement)).map (·.oldName)).Nodup) :
    replacements blocked = blocked.filterMap (·.replacement) :=
  @replacements_foldl blocked [] h

/-- The old names are names of blocking dependencies, in their order. -/
theorem oldNames_sublist (h : ∀ b ∈ blocked, ∀ r ∈ b.replacement, r.oldName = b.name) :
    ((blocked.filterMap (·.replacement)).map (·.oldName)).Sublist (blocked.map (·.name)) := by
  induction blocked with
  | nil => exact .slnil
  | cons b blocked ih =>
    obtain ⟨hb, h⟩ := List.forall_mem_cons.mp h
    cases hr : b.replacement with
    | none =>
      rw [List.filterMap_cons_none hr, List.map_cons]
      exact (ih h).cons _
    | some r =>
      rw [List.filterMap_cons_some hr, List.map_cons, List.map_cons, hb r hr]
      exact (ih h).cons_cons _

end Blocked

namespace Detector

variable {d : Detector} {t u : Tree} {repo : Path} {doc after : Fields} {report : Report}

/-- The replacements that the blocking dependencies of a manifest carry have different old names. -/
theorem nodup_oldNames (d : Detector) (doc : Fields) :
    (((d.detect (declared doc)).1.filterMap (·.replacement)).map (·.oldName)).Nodup := by
  have hdeps := nodup_keys_declared doc
  exact (d.nodup_names_detect hdeps).sublist
    (Blocked.oldNames_sublist (oldName_of_mem_detect hdeps))

/-! ## The repaired repository -/

/-- A name that no replacement has as its old or new one. -/
def neutral (rs : List Replacement) (name : String) : Bool :=
  rs.all fun r => name != r.oldName && name != r.newName

/-- What a run that executes some replacements makes of a repository. -/
structure Repaired (rs : List Replacement) (t u : Tree) (repo : Path) (doc after : Fields) :
    Prop where
  distinct : (rs.map (·.oldName)).Nodup
  load : Manifest.load u repo = .ok after
  sameGroups : Assoc.keys (groups after) = Assoc.keys (groups doc)
  /-- No group declares a replaced name, unless it is also one that takes the place of another. -/
  replaced : ∀ g ∈ groups after, ∀ r ∈ rs, r.oldName ∈ Assoc.keys g.2 →
    ∃ s ∈ rs, s.newName = r.oldName
  /-- Every other entry of a group keeps its version and its place among these. -/
  kept : ∀ group deps deps', (group, deps) ∈ groups doc → (group, deps') ∈ groups after →
    deps'.filter (fun p => neutral rs p.1) = deps.filter fun p => neutral rs p.1
  /-- What is no group keeps its value, and is written once more at most. -/
  others : ∀ name, name ∉ groupNames → Assoc.find? name after = Assoc.find? name doc ∨
    Assoc.find? name after = (Assoc.find? name doc).map Json.reread
  /-- No other file changes, and nothing does without a replacement. -/
  elsewhere : ∃ l e, t.locate (Manifest.pathIn repo) = .ok (l, e) ∧
    ∀ k, k ≠ l → u.get? k = t.get? k
  untouched : rs = [] → u = t

/-- What a batch leaves of a group keeps the entries that are neutral. -/
theorem repaired_of_executed {rs : List Replacement} (hs : StringVersions doc)
    (hold : (rs.map (·.oldName)).Nodup) (h : Replacement.Executed rs t u repo doc after)
    (huntouched : rs = [] → u = t) : Repaired rs t u repo doc after where
  distinct := hold
  load := h.load
  sameGroups := by
    rw [h.groups]
    unfold Assoc.keys
    rw [List.map_map]
    rfl
  replaced := by
    intro g hg r hr hmem
    rw [h.groups] at hg
    obtain ⟨g', hg', rfl⟩ := List.mem_map.mp hg
    rcases Replacement.mem_keys_batch (hs g' hg') hmem with hname | ⟨-, hnone⟩
    · exact hname
    · exact absurd rfl (hnone r hr)
  kept := by
    intro group deps deps' hdeps hdeps'
    rw [h.groups] at hdeps'
    obtain ⟨⟨group', old⟩, hg, heq⟩ := List.mem_map.mp hdeps'
    cases heq
    have hfind := (Manifest.mem_groups hdeps).2
    have hsame := (Manifest.mem_groups hg).2.symm.trans hfind
    obtain rfl : old = deps := Json.obj.inj (Option.some.inj hsame)
    refine Replacement.filter_batch ?_
    intro r hr
    unfold neutral
    constructor
    · rw [List.all_eq_false]
      exact ⟨r, hr, by simp⟩
    · rw [List.all_eq_false]
      exact ⟨r, hr, by simp⟩
  others := h.others
  elsewhere := h.elsewhere
  untouched := huntouched

/-- A run that returns has replaced what the blocking dependencies carry a replacement for, and
nothing else. -/
theorem replaceIn_repairs (hload : Manifest.load t repo = .ok doc) (hs : StringVersions doc)
    (h : d.replaceIn t repo = .ok (u, report)) :
    ∃ after, Repaired (report.blocked.filterMap (·.replacement)) t u repo doc after := by
  have hold := d.nodup_oldNames doc
  have hrs := Blocked.replacements_eq hold
  unfold replaceIn at h
  rw [hload] at h
  dsimp only at h
  split at h
  · next hnone =>
    cases h
    rw [hrs] at hnone
    dsimp only
    rw [hnone]
    obtain ⟨l, e, hl, -⟩ := Manifest.load_eq_ok.mp hload
    have hgroups : groups doc = (groups doc).map fun g => (g.1, Replacement.batch [] g.2) := by simp
    exact ⟨doc, repaired_of_executed hs List.nodup_nil
      ⟨hload, hgroups, fun _ _ => .inl rfl, l, e, hl, fun _ _ => rfl⟩ fun _ => rfl⟩
  · next hsome =>
    split at h
    · cases h
    · next hexecute =>
      cases h
      rw [hrs] at hexecute hsome
      dsimp only
      rcases Replacement.execute_cases _ hload hs with ⟨text, e, -, herror⟩ |
        ⟨v, changes, after, hok, hafter⟩
      · cases hexecute.symm.trans herror
      · cases hexecute.symm.trans hok
        exact ⟨after, repaired_of_executed hs hold hafter fun hnone => absurd hnone hsome⟩

/-! ## A run -/

open Replacement (repository oneGroup)

/-- A machine whose architecture some packages do not support. -/
def arm : Detector := ⟨some Registry.bundled, "arm64", true, answersOnce⟩

/-- A package without support for the machine between two others. -/
def unsupported : Fields := [("left", .str "1"), ("grpc", .str "2"), ("right", .str "3")]

theorem replaceIn_unsupported : ∃ u report after,
    arm.replaceIn (repository (oneGroup unsupported)) (Path.ofString "repo") = .ok (u, report) ∧
      report.blocked.map (·.name) = ["grpc"] ∧
      Repaired (report.blocked.filterMap (·.replacement)) (repository (oneGroup unsupported)) u
        (Path.ofString "repo") (oneGroup unsupported) after := by
  have hstrings : Manifest.HasStrings unsupported := by simp [Manifest.HasStrings, unsupported]
  have hs := Replacement.hasStrings_oneGroup hstrings
  have hlossless := Replacement.lossless_oneGroup hstrings (by decide)
  have hload := Replacement.load_repository hlossless
  have hnames : (arm.detect (declared (oneGroup unsupported))).1.map (·.name) = ["grpc"] := by
    decide +kernel
  have hsome : Blocked.replacements (arm.detect (declared (oneGroup unsupported))).1 ≠ [] := by
    decide +kernel
  obtain ⟨u, changes, -, hexecute, -⟩ := Replacement.execute_repository
    (Blocked.replacements (arm.detect (declared (oneGroup unsupported))).1) hlossless hs
  have hrun : arm.replaceIn (repository (oneGroup unsupported)) (Path.ofString "repo") =
      .ok (u, ⟨(arm.detect (declared (oneGroup unsupported))).1, changes,
        (arm.detect (declared (oneGroup unsupported))).2⟩) := by
    unfold replaceIn
    rw [hload]
    dsimp only
    split
    · next hnone => exact absurd hnone hsome
    · rw [hexecute]
  obtain ⟨after, hafter⟩ := replaceIn_repairs hload hs hrun
  exact ⟨u, _, after, hrun, hnames, hafter⟩

end Detector
end BuildRepair
