import BuildRepair.Proofs.Replacement.Executing

/-
  The law of batches: a replacement puts its new name in the place of its old one, with the version
  that it maps the old one to (`AllReplaced`). It does not hold of every batch, since replacements
  see what those before them left (`chain_not_allReplaced`). `execute_replaced` says for each
  replacement of a batch what can get in its way, and that nothing else does.
-/

namespace BuildRepair

open Manifest (HasStrings StringVersions groups)

namespace Replacement

variable {r : Replacement} {rs before later : List Replacement} {t : Tree} {repo : Path}
  {doc deps : Fields} {v : String}

theorem mapVersion_eq (r : Replacement) (v : String) :
    r.mapVersion v = ((Assoc.find? v r.versions).or (Assoc.find? "*" r.versions)).getD v := by
  unfold mapVersion
  cases Assoc.find? v r.versions <;> rfl

/-! ## One group -/

/-- Every replacement whose old name a group declared has put its new name in the place. -/
def AllReplaced (rs : List Replacement) (deps deps' : Fields) : Prop :=
  ∀ r ∈ rs, ∀ v, Assoc.find? r.oldName deps = some (.str v) →
    r.oldName ∉ Assoc.keys deps' ∧ Assoc.find? r.newName deps' =
      some (.str (((Assoc.find? v r.versions).or (Assoc.find? "*" r.versions)).getD v))

/-- What becomes of an old name of version `v` that a group declared, and of the new one, where
`before` are the replacements of the batch before this one, and `later` those after it. -/
structure Replaced (before : List Replacement) (r : Replacement) (later : List Replacement)
    (deps deps' : Fields) (v : String) : Prop where
  /-- The old name is declared again only if a later replacement brings it back. -/
  old : r.oldName ∈ Assoc.keys deps' ↔
    ∃ s ∈ applied (batch (before ++ [r]) deps) later, s.newName = r.oldName
  /-- The new name has the version for `v`, unless an earlier replacement brought in another
  version of the old name, or a later one takes the new name away or brings it in again. -/
  new : (∀ s ∈ applied deps before, s.newName ≠ r.oldName) →
    (∀ s ∈ applied (batch (before ++ [r]) deps) later,
      s.oldName ≠ r.newName ∧ s.newName ≠ r.newName) →
    Assoc.find? r.newName deps' =
      some (.str (((Assoc.find? v r.versions).or (Assoc.find? "*" r.versions)).getD v))

theorem mem_of_mem_applied {s : Replacement} (h : s ∈ applied deps rs) : s ∈ rs := by
  induction rs generalizing deps with
  | nil => cases h
  | cons r rs ih =>
    unfold applied at h
    split at h
    · rcases List.mem_cons.mp h with rfl | h
      · exact List.mem_cons_self ..
      · exact List.mem_cons_of_mem _ (ih h)
    · exact List.mem_cons_of_mem _ (ih h)

theorem batch_replaced (hs : HasStrings deps)
    (hold : ((before ++ r :: later).map (·.oldName)).Nodup)
    (hnew : ∀ s ∈ before ++ r :: later, s.newName ≠ "" ∧ s.newName ≠ s.oldName)
    (hfind : Assoc.find? r.oldName deps = some (.str v)) :
    Replaced before r later deps (batch (before ++ r :: later) deps) v := by
  rw [List.map_append, List.map_cons, List.nodup_append, List.nodup_cons] at hold
  obtain ⟨-, ⟨hlater, -⟩, hbefore⟩ := hold
  obtain ⟨hempty, hne⟩ := hnew r (by simp)
  have hsplit : batch (before ++ r :: later) deps = batch later (batch (before ++ [r]) deps) := by
    rw [batch_append, batch_append]
    rfl
  have hstep : batch (before ++ [r]) deps = r.within (batch before deps) := by
    rw [batch_append]
    rfl
  rw [hsplit]
  constructor
  · have hgone : r.oldName ∉ Assoc.keys (batch (before ++ [r]) deps) := by
      rw [hstep]
      intro hmem
      rcases mem_keys_within (hasStrings_batch before hs) hmem with hname | ⟨-, hname⟩
      · exact hne hname
      · exact hname rfl
    rw [mem_keys_batch_iff (hasStrings_batch _ hs), or_iff_right hgone]
    · intro s hs' hname
      exact hlater (hname ▸ List.mem_map_of_mem hs')
    · exact fun s hs' => hnew s (by simp [hs'])
  · intro hearlier hlater'
    have hturn : Assoc.find? r.oldName (batch before deps) = some (.str v) := by
      rw [find?_batch_of_untouched, hfind]
      intro s hs'
      refine ⟨fun hname => ?_, hearlier s hs'⟩
      exact hbefore _ (List.mem_map_of_mem (mem_of_mem_applied hs')) _ (List.mem_cons_self ..) hname
    rw [find?_batch_of_untouched hlater', hstep, find?_within hturn hempty hne, if_pos rfl,
      mapVersion_eq]

/-! ## The whole manifest -/

/-- Executing a batch with different old names does in every group what each of its replacements
asks for, as far as no other one undoes it; it fails only where the manifest cannot be written. -/
theorem execute_replaced (hload : Manifest.load t repo = .ok doc) (hs : StringVersions doc)
    (hold : (rs.map (·.oldName)).Nodup)
    (hnew : ∀ r ∈ rs, r.newName ≠ "" ∧ r.newName ≠ r.oldName) :
    (∃ text e, t.replaceText (Manifest.pathIn repo) text = (t, .error e) ∧
        execute rs t repo = .error (.file e)) ∨
      ∃ u changes after, execute rs t repo = .ok (u, changes) ∧
        Manifest.load u repo = .ok after ∧
        ∀ group deps, (group, deps) ∈ groups doc → ∃ deps', (group, deps') ∈ groups after ∧
          ∀ before r later v, rs = before ++ r :: later →
            Assoc.find? r.oldName deps = some (.str v) → Replaced before r later deps deps' v := by
  rcases execute_cases rs hload hs with hrefused | ⟨u, changes, after, hexecute, hafter⟩
  · exact .inl hrefused
  · refine .inr ⟨u, changes, after, hexecute, hafter.load, ?_⟩
    intro group deps hgroup
    refine ⟨batch rs deps, ?_, ?_⟩
    · rw [hafter.groups]
      exact List.mem_map.mpr ⟨_, hgroup, rfl⟩
    · rintro before r later v rfl hfind
      exact batch_replaced (hs _ hgroup) hold hnew hfind

/-! ## Two batches -/

/-- Two replacements of which the second one replaces what the first one puts in place. -/
def chain : List Replacement := [
  { oldName := "left", newName := "middle", versions := [] },
  { oldName := "middle", newName := "right", versions := [] }]

/-- The chain leads past the new name of its first replacement. -/
theorem chain_not_allReplaced : ∃ u changes after deps',
    Manifest.load (repository (oneGroup [("left", .str "1")])) (Path.ofString "repo") =
        .ok (oneGroup [("left", .str "1")]) ∧
      StringVersions (oneGroup [("left", .str "1")]) ∧
      (chain.map (·.oldName)).Nodup ∧
      (∀ r ∈ chain, r.newName ≠ "" ∧ r.newName ≠ r.oldName) ∧
      execute chain (repository (oneGroup [("left", .str "1")])) (Path.ofString "repo") =
        .ok (u, changes) ∧
      Manifest.load u (Path.ofString "repo") = .ok after ∧
      ("dependencies", deps') ∈ groups after ∧ ¬ AllReplaced chain [("left", .str "1")] deps' := by
  have hs : HasStrings [("left", .str "1")] := by simp [HasStrings]
  have hlossless := lossless_oneGroup hs (by decide)
  obtain ⟨u, changes, after, hexecute, hafter⟩ :=
    execute_repository chain hlossless (hasStrings_oneGroup hs)
  have hbatch : batch chain [("left", .str "1")] = [("right", .str "1")] := rfl
  refine ⟨u, changes, after, [("right", .str "1")], load_repository hlossless,
    hasStrings_oneGroup hs, by decide, by decide, hexecute, hafter.load, ?_, ?_⟩
  · rw [hafter.groups]
    exact List.mem_map.mpr ⟨_, mem_groups_oneGroup _, congrArg _ hbatch⟩
  · intro hall
    have hmiddle := (hall _ (List.mem_cons_self ..) "1" rfl).2
    cases hmiddle

/-- Two replacements that have no name in common. -/
def apart : List Replacement := [
  { oldName := "request", newName := "node-fetch", versions := [("*", "^3.3.0")], manual := true },
  { oldName := "left", newName := "right", versions := [("1", "2")] }]

theorem execute_apart : ∃ u changes after deps',
    execute apart (repository (oneGroup [("left", .str "1"), ("request", .str "2")]))
        (Path.ofString "repo") = .ok (u, changes) ∧
      Manifest.load u (Path.ofString "repo") = .ok after ∧
      ("dependencies", deps') ∈ groups after ∧
      "left" ∉ Assoc.keys deps' ∧ Assoc.find? "right" deps' = some (.str "2") := by
  have hs : HasStrings [("left", .str "1"), ("request", .str "2")] := by simp [HasStrings]
  have hlossless := lossless_oneGroup hs (by decide)
  have hold : (apart.map (·.oldName)).Nodup := by decide
  rcases execute_replaced (load_repository hlossless) (hasStrings_oneGroup hs) hold (by decide) with
    ⟨text, e, he, -⟩ | ⟨u, changes, after, hexecute, hload, hgroups⟩
  · obtain ⟨v, hv⟩ := replaceText_repository _ text
    cases he.symm.trans hv
  · obtain ⟨deps', hmem, hreplaced⟩ := hgroups _ _ (mem_groups_oneGroup _)
    obtain ⟨hgone, hnew⟩ := hreplaced [_] _ [] "1" rfl rfl
    refine ⟨u, changes, after, deps', hexecute, hload, hmem, ?_, ?_⟩
    · rw [hgone]
      simp [applied]
    · exact hnew (by decide) (by simp [applied])

end Replacement
end BuildRepair
