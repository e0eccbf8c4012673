import BuildRepair.Proofs.Remedy.Total
import BuildRepair.Proofs.Replacement.Renaming

/-
  What the edits of a manifest keep of it (`Manifest.Keeps`). An edit of a group puts other entries
  in the place of those the group had, and pinning a version fills the two blocks for it. So names
  keep their places, new ones come last, and a group never comes or goes. An edit with strings also
  brings nothing into a document that would be lost when it is written (`editGroups_keeps`,
  `pin_keeps`).
-/

namespace BuildRepair

open Json (Lossless)

/-! ## What is kept -/

namespace Manifest

variable {doc edited : Fields} {deps : Fields} {group block : String} {j : Json}

/-- What every edit keeps of a document. -/
structure Keeps (doc edited : Fields) : Prop where
  /-- The names keep their order, and only those of pin blocks are new. -/
  names : ∃ new, Assoc.keys edited = Assoc.keys doc ++ new ∧ ∀ name ∈ new, name ∈ Remedy.pinBlocks
  /-- What is neither a group nor a pin block keeps its value. -/
  others : ∀ name, name ∉ groupNames → name ∉ Remedy.pinBlocks →
    Assoc.find? name edited = Assoc.find? name doc
  /-- A group that is not there does not come. -/
  missing : ∀ group ∈ groupNames, Assoc.find? group doc = none → Assoc.find? group edited = none
  /-- A group that is no object keeps its value. -/
  values : ∀ group ∈ groupNames, ∀ j, Assoc.find? group doc = some j → j.fields? = none →
    Assoc.find? group edited = some j
  /-- A group that is an object is one afterwards, and names no package twice. -/
  objects : ∀ group ∈ groupNames, ∀ deps, Assoc.find? group doc = some (.obj deps) →
    ∃ deps', Assoc.find? group edited = some (.obj deps') ∧ (Assoc.keys deps').Nodup

theorem Keeps.refl (h : Lossless (.obj doc)) : Keeps doc doc where
  names := ⟨[], by simp⟩
  others _ _ _ := rfl
  missing _ _ hf := hf
  values _ _ _ hf _ := hf
  objects _ _ deps hf := ⟨deps, hf, (h.find? hf).names⟩

theorem Keeps.trans {last : Fields} (h : Keeps doc edited) (h' : Keeps edited last) :
    Keeps doc last where
  names := by
    obtain ⟨new, hnew, hblocks⟩ := h.names
    obtain ⟨new', hnew', hblocks'⟩ := h'.names
    refine ⟨new ++ new', ?_, ?_⟩
    · rw [hnew', hnew, List.append_assoc]
    · intro name hname
      rcases List.mem_append.mp hname with hname | hname
      · exact hblocks name hname
      · exact hblocks' name hname
  others name hg hb := (h'.others name hg hb).trans (h.others name hg hb)
  missing group hg hf := h'.missing group hg (h.missing group hg hf)
  values group hg j hf hj := h'.values group hg j (h.values group hg j hf hj) hj
  objects group hg deps hf := by
    obtain ⟨deps', hf', -⟩ := h.objects group hg deps hf
    exact h'.objects group hg deps' hf'

theorem group_not_block : ∀ group ∈ groupNames, group ∉ Remedy.pinBlocks := by decide

/-- A group that is an object takes other entries. -/
theorem keeps_setGroup (h : Lossless (.obj doc)) (hg : group ∈ groupNames) {old : Fields}
    (hold : Assoc.find? group doc = some (.obj old)) (hdeps : (Assoc.keys deps).Nodup) :
    Keeps doc (setGroup doc group deps) where
  names := by
    refine ⟨[], ?_, by simp⟩
    unfold setGroup
    rw [Assoc.keys_put, if_pos (Assoc.mem_keys_of_find? hold), List.append_nil]
  others name hname _ := by
    have hne : ¬ (group == name) = true := by
      rw [beq_iff_eq]
      rintro rfl
      exact hname hg
    unfold setGroup
    rw [Assoc.find?_put, if_neg hne]
  missing other _ hf := by
    have hne : ¬ (group == other) = true := by
      rw [beq_iff_eq]
      rintro rfl
      cases hold.symm.trans hf
    unfold setGroup
    rw [Assoc.find?_put, if_neg hne, hf]
  values other _ j hf hj := by
    have hne : ¬ (group == other) = true := by
      rw [beq_iff_eq]
      rintro rfl
      cases hold.symm.trans hf
      cases hj
    unfold setGroup
    rw [Assoc.find?_put, if_neg hne, hf]
  objects other _ deps' hf := by
    unfold setGroup
    rw [Assoc.find?_put]
    split
    · exact ⟨deps, rfl, hdeps⟩
    · exact ⟨deps', hf, (h.find? hf).names⟩

/-- A pin block takes any value, and comes last if it was not there. -/
theorem keeps_put_block (h : Lossless (.obj doc)) (hb : block ∈ Remedy.pinBlocks) (j : Json) :
    Keeps doc (Assoc.put block j doc) := by
  have hne {name : String} (hname : name ∉ Remedy.pinBlocks) : ¬ (block == name) = true := by
    rw [beq_iff_eq]
    rintro rfl
    exact hname hb
  have hgroup {group : String} (hg : group ∈ groupNames) :
      Assoc.find? group (Assoc.put block j doc) = Assoc.find? group doc := by
    rw [Assoc.find?_put, if_neg (hne (group_not_block group hg))]
  exact
    { names := by
        rw [Assoc.keys_put]
        split
        · exact ⟨[], by simp⟩
        · exact ⟨[block], rfl, by simpa using hb⟩
      others := fun name _ hname => by rw [Assoc.find?_put, if_neg (hne hname)]
      missing := fun group hg hf => (hgroup hg).trans hf
      values := fun group hg j hf _ => (hgroup hg).trans hf
      objects := fun group hg deps hf => ⟨deps, (hgroup hg).trans hf, (h.find? hf).names⟩ }

end Manifest

/-! ## Edits of a group -/

namespace Remedy

variable {doc edited deps : Fields} {package version : String}

/-- An edit after which nothing is lost that was not lost before. -/
def KeepsLossless (edit : Fields → Edited) : Prop :=
  ∀ deps edited counts, Lossless (.obj deps) → edit deps = .ok (edited, counts) →
    Lossless (.obj edited)

theorem keepsLossless_adjust (package version : String) :
    KeepsLossless (adjust (.str package) (.str version)) := by
  intro deps edited counts hdeps h
  rw [adjust, declared?_str] at h
  cases hf : Assoc.find? package deps with
  | none =>
    rw [hf] at h
    cases h
    exact hdeps
  | some old =>
    rw [hf] at h
    cases h
    exact hdeps.put (.str version) package

theorem keepsLossless_substitute (package replacement : String) :
    KeepsLossless (substitute (.str package) (.str replacement)) := by
  intro deps edited counts hdeps h
  rw [substitute, declared?_str] at h
  cases hf : Assoc.find? package deps with
  | none =>
    rw [hf] at h
    cases h
    exact hdeps
  | some version =>
    rw [hf] at h
    cases h
    refine .obj ?_ (Replacement.nodup_keys_rename hdeps.names)
    intro p hp
    obtain ⟨q, hq, hqp⟩ := List.mem_filterMap.mp hp
    dsimp only at hqp
    -- the entry under the new name keeps the version, every other one is as it was
    split at hqp
    · split at hqp
      · cases hqp
      · cases hqp
        exact hdeps.find? hf
    · split at hqp
      · cases hqp
      · cases hqp
        exact hdeps.field q hq

theorem keepsLossless_drop (package : String) : KeepsLossless (drop (.str package)) := by
  intro deps edited counts hdeps h
  rw [drop, declared?_str] at h
  split at h
  · cases h
    exact hdeps
  · cases hf : Assoc.find? package deps with
    | none =>
      rw [hf] at h
      cases h
      exact hdeps
    | some old =>
      rw [hf] at h
      cases old <;> (cases h; exact hdeps.erase package)

/-! ## Edits of a document -/

open Manifest (Keeps groups groupNames)

/-- Groups are edited one after the other; those to come are objects still. -/
theorem editGroups_keeps {edit : Fields → Edited} (he : KeepsLossless edit)
    {gs : List (String × Fields)} {counts : Bool} (hd : Lossless (.obj doc))
    (hgs : ∀ g ∈ gs, g.1 ∈ groupNames ∧ Lossless (.obj g.2) ∧
      ∃ old, Assoc.find? g.1 doc = some (.obj old))
    (h : editGroups edit doc gs = .ok (edited, counts)) :
    Keeps doc edited ∧ Lossless (.obj edited) := by
  induction gs generalizing doc counts with
  | nil =>
    cases h
    exact ⟨.refl hd, hd⟩
  | cons g gs ih =>
    obtain ⟨group, deps⟩ := g
    obtain ⟨⟨hgroup, hdeps, old, hold⟩, hgs⟩ := List.forall_mem_cons.mp hgs
    unfold editGroups at h
    split at h
    · cases h
    · next deps' counts' hedit =>
      have hdeps' : Lossless (.obj deps') := he _ _ _ hdeps hedit
      have hset : Lossless (.obj (Manifest.setGroup doc group deps')) := hd.put hdeps' group
      have hrest : ∀ g ∈ gs, g.1 ∈ groupNames ∧ Lossless (.obj g.2) ∧
          ∃ old, Assoc.find? g.1 (Manifest.setGroup doc group deps') = some (.obj old) := by
        intro g hg
        obtain ⟨hname, hfields, old, hold⟩ := hgs g hg
        refine ⟨hname, hfields, ?_⟩
        unfold Manifest.setGroup
        rw [Assoc.find?_put]
        split
        · exact ⟨_, rfl⟩
        · exact ⟨old, hold⟩
      split at h
      · cases h
      · next hlast =>
        cases h
        obtain ⟨hkeeps, hlossless⟩ := ih hset hrest hlast
        exact ⟨(Manifest.keeps_setGroup hd hgroup hold hdeps'.names).trans hkeeps, hlossless⟩

theorem editGroups_groups_keeps {edit : Fields → Edited} (he : KeepsLossless edit) {counts : Bool}
    (hd : Lossless (.obj doc)) (h : editGroups edit doc (groups doc) = .ok (edited, counts)) :
    Keeps doc edited ∧ Lossless (.obj edited) := by
  refine editGroups_keeps he hd ?_ h
  intro g hg
  obtain ⟨hname, hfind⟩ := Manifest.mem_groups hg
  exact ⟨hname, hd.find? hfind, g.2, hfind⟩

theorem pinIn_keeps {block : String} (hb : block ∈ pinBlocks) (hd : Lossless (.obj doc))
    (h : pinIn (.str package) (.str version) doc block = .ok edited) :
    Keeps doc edited ∧ Lossless (.obj edited) := by
  cases h
  have hentries : Lossless (.obj (((Assoc.find? block doc).bind Json.fields?).getD [])) := by
    rcases Manifest.entries_cases block doc with hnone | hsome
    · rw [hnone]
      exact .obj (fun _ hp => absurd hp List.not_mem_nil) List.nodup_nil
    · exact hd.find? hsome
  exact ⟨Manifest.keeps_put_block hd hb _, hd.put (hentries.put (.str version) package) block⟩

theorem pin_keeps {blocks : List String} (hb : ∀ block ∈ blocks, block ∈ pinBlocks)
    (hd : Lossless (.obj doc)) (h : pin (.str package) (.str version) doc blocks = .ok edited) :
    Keeps doc edited ∧ Lossless (.obj edited) := by
  induction blocks generalizing doc with
  | nil =>
    cases h
    exact ⟨.refl hd, hd⟩
  | cons block blocks ih =>
    obtain ⟨hblock, hblocks⟩ := List.forall_mem_cons.mp hb
    unfold pin at h
    split at h
    · cases h
    · next pinned hpin =>
      obtain ⟨hkeeps, hlossless⟩ := pinIn_keeps hblock hd hpin
      obtain ⟨hkeeps', hlossless'⟩ := ih hblocks hlossless h
      exact ⟨hkeeps.trans hkeeps', hlossless'⟩

end Remedy

end BuildRepair
