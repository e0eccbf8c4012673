import BuildRepair.Proofs.Replacement.Executing

/-
  The turns of the replacements of a batch, whatever kinds the versions are. A replacement acts if
  some group declares its old name when its turn comes (`Acts`). A name that is declared before a
  turn is declared after it, unless the replacement removes it (`Removes`), and versions that can be
  looked up stay so. So in a batch whose old names are all declared, and none of which removes the
  old name of a later one, every replacement acts (`applyAll_acts`).
-/

namespace BuildRepair

open Json (FieldsDateless)
open Manifest (Declares groups regroup)

namespace Replacement

variable {r s : Replacement} {rs : List Replacement} {doc deps : Fields} {name : String} {j : Json}

/-! ## One turn in a group -/

/-- Whether a replacement takes away the entries of a name where it applies. One with an empty new
name also takes away those of the empty name. -/
def Removes (r : Replacement) (name : String) : Prop :=
  r.newName ≠ r.oldName ∧ (name = r.oldName ∨ name = "" ∧ r.newName = "")

/-- What a turn makes of a group: nothing if the old name is not there, else the version that it is
mapped to stands under the new name. -/
theorem stepIn_cases (hmap : r.MappableIn deps) :
    r.stepIn deps = deps ∧ r.oldName ∉ Assoc.keys deps ∨
      ∃ old new, Assoc.find? r.oldName deps = some old ∧ (new = old ∨ ∃ v, new = .str v) ∧
        (r.newName = r.oldName ∧ r.stepIn deps = Assoc.put r.newName new deps ∨
          r.newName ≠ r.oldName ∧ r.stepIn deps = rename r.oldName r.newName new deps) := by
  unfold stepIn
  cases hold : Assoc.find? r.oldName deps with
  | none => exact .inl ⟨rfl, Assoc.not_mem_keys_of_find?_eq_none hold⟩
  | some old =>
    obtain ⟨new, hnew, hkind⟩ := r.mapValue_of_key (hmap old hold)
    refine .inr ⟨old, new, rfl, hkind, ?_⟩
    dsimp only
    rw [hnew]
    dsimp only
    split
    · next hname => exact .inl ⟨hname, rfl⟩
    · next hname => exact .inr ⟨hname, rfl⟩

/-- A name that is not removed stays. -/
theorem mem_keys_stepIn (hmap : r.MappableIn deps) (hname : ¬ r.Removes name)
    (h : name ∈ Assoc.keys deps) : name ∈ Assoc.keys (r.stepIn deps) := by
  rcases stepIn_cases hmap with ⟨hsame, -⟩ | ⟨old, new, hold, -, ⟨-, hput⟩ | ⟨hne, hrename⟩⟩
  · rwa [hsame]
  · rw [hput, ← Assoc.find?_isSome_iff, Assoc.find?_put]
    split
    · rfl
    · exact Assoc.find?_isSome_iff.mpr h
  · rw [hrename, ← Assoc.find?_isSome_iff, find?_rename]
    split
    · next hn =>
      have hempty : r.newName ≠ "" := fun he => hname ⟨hne, .inr ⟨hn.trans he, he⟩⟩
      rw [if_pos ⟨hempty, Assoc.mem_keys_of_find? hold⟩]
      rfl
    · rw [if_neg fun ho => hname ⟨hne, .inl ho⟩]
      exact Assoc.find?_isSome_iff.mpr h

/-- A version after a turn was there before, or is what one of the old name is mapped to. -/
theorem find?_stepIn (hmap : r.MappableIn deps) (h : Assoc.find? name (r.stepIn deps) = some j) :
    Assoc.find? name deps = some j ∨ Assoc.find? r.oldName deps = some j ∨ ∃ v, j = .str v := by
  rcases stepIn_cases hmap with ⟨hsame, -⟩ | ⟨old, new, hold, hkind, ⟨-, hput⟩ | ⟨-, hrename⟩⟩
  · rw [hsame] at h
    exact .inl h
  · rw [hput, Assoc.find?_put] at h
    split at h
    · cases h
      rcases hkind with rfl | hkind
      · exact .inr (.inl hold)
      · exact .inr (.inr hkind)
    · exact .inl h
  · rw [hrename, find?_rename] at h
    split at h
    · split at h
      · cases h
        rcases hkind with rfl | hkind
        · exact .inr (.inl hold)
        · exact .inr (.inr hkind)
      · cases h
    · split at h
      · cases h
      · exact .inl h

theorem mappableIn_stepIn (hr : r.MappableIn deps) (hs : s.MappableIn deps) :
    s.MappableIn (r.stepIn deps) := by
  intro j hj
  rcases find?_stepIn hr hj with h | h | ⟨v, rfl⟩
  · exact hs j h
  · exact hr j h
  · rfl

theorem stepIn_dateless (hmap : r.MappableIn deps) (hd : FieldsDateless deps) :
    FieldsDateless (r.stepIn deps) := by
  rcases stepIn_cases hmap with ⟨hsame, -⟩ | ⟨old, new, hold, hkind, hstep⟩
  · rwa [hsame]
  · have hnew : new.Dateless := by
      rcases hkind with rfl | ⟨v, rfl⟩
      · exact hd _ (Assoc.mem_of_find?_eq_some hold)
      · exact Json.dateless_str v
    rcases hstep with ⟨-, hput⟩ | ⟨-, hrename⟩
    · rw [hput]
      exact hd.put hnew r.newName
    · rw [hrename]
      exact rename_dateless hd hnew

/-! ## One turn in a document -/

/-- What a turn in every group leaves: names that are not removed are declared still, and versions
that can be looked up stay so. -/
theorem declares_turn (hr : r.Mappable doc) (hname : ¬ r.Removes name) (h : Declares doc name) :
    Declares (regroup r.stepIn doc (groups doc)) name := by
  obtain ⟨g, hg, hmem⟩ := h
  refine ⟨(g.1, r.stepIn g.2), ?_, mem_keys_stepIn (hr g hg) hname hmem⟩
  rw [(Manifest.regroup_regrouped r.stepIn doc).groups]
  exact List.mem_map.mpr ⟨g, hg, rfl⟩

theorem mappable_turn (hr : r.Mappable doc) (hs : s.Mappable doc) :
    s.Mappable (regroup r.stepIn doc (groups doc)) := by
  intro g hg
  rw [(Manifest.regroup_regrouped r.stepIn doc).groups] at hg
  obtain ⟨g', hg', rfl⟩ := List.mem_map.mp hg
  exact mappableIn_stepIn (hr g' hg') (hs g' hg')

theorem turn_dateless (hr : r.Mappable doc) (hd : FieldsDateless doc) :
    FieldsDateless (regroup r.stepIn doc (groups doc)) :=
  Manifest.regroup_dateless hd fun g hg =>
    stepIn_dateless (hr g hg) (Manifest.groups_dateless hd g hg)

/-! ## The whole batch -/

/-- Whether a replacement of a batch changes something when its turn comes. -/
def Acts (rs : List Replacement) (doc : Fields) (r : Replacement) : Prop :=
  ∃ before after turn changes edited change more, rs = before ++ r :: after ∧
    applyAll before doc = .ok (turn, changes) ∧ r.apply turn = .ok (edited, change :: more)

theorem Acts.mem (h : Acts rs doc r) : r ∈ rs := by
  obtain ⟨before, after, -, -, -, -, -, rfl, -⟩ := h
  simp

/-- What acts in the rest of a batch acts in the whole. -/
theorem Acts.cons {next : Fields} {changes : List Change} (hr : r.apply doc = .ok (next, changes))
    (h : Acts rs next s) : Acts (r :: rs) doc s := by
  obtain ⟨before, after, turn, more, edited, change, others, rfl, hbefore, hs⟩ := h
  refine ⟨r :: before, after, turn, changes ++ more, edited, change, others, rfl, ?_, hs⟩
  unfold applyAll
  rw [hr]
  dsimp only
  rw [hbefore]

/-- A batch goes through and each of its replacements acts, if their old names are declared with
versions that can be looked up, and none removes the old name of a later one. -/
theorem applyAll_acts (hd : FieldsDateless doc) (hmap : ∀ r ∈ rs, r.Mappable doc)
    (hdeclared : ∀ r ∈ rs, Declares doc r.oldName)
    (hapart : rs.Pairwise fun r s => ¬ r.Removes s.oldName) :
    (∃ edited changes, applyAll rs doc = .ok (edited, changes) ∧ FieldsDateless edited) ∧
      ∀ r ∈ rs, Acts rs doc r := by
  induction rs generalizing doc with
  | nil => exact ⟨⟨doc, [], rfl, hd⟩, by simp⟩
  | cons r rs ih =>
    obtain ⟨hr, hmap⟩ := List.forall_mem_cons.mp hmap
    obtain ⟨hold, hdeclared⟩ := List.forall_mem_cons.mp hdeclared
    obtain ⟨hremoves, hapart⟩ := List.pairwise_cons.mp hapart
    have happly := apply_mappable hr
    obtain ⟨⟨edited, more, hall, hdateless⟩, hacts⟩ := ih (turn_dateless hr hd)
      (fun s hs => mappable_turn hr (hmap s hs))
      (fun s hs => declares_turn hr (hremoves s hs) (hdeclared s hs)) hapart
    refine ⟨⟨edited, r.reports doc ++ more, ?_, hdateless⟩, ?_⟩
    · unfold applyAll
      rw [happly]
      dsimp only
      rw [hall]
    · intro s hs
      rcases List.mem_cons.mp hs with rfl | hs
      · cases hreports : s.reports doc with
        | nil => exact absurd hold (reports_eq_nil_iff.mp hreports)
        | cons change others =>
          rw [hreports] at happly
          exact ⟨[], rs, doc, [], _, change, others, rfl, rfl, happly⟩
      · exact (hacts s hs).cons happly

end Replacement
end BuildRepair
