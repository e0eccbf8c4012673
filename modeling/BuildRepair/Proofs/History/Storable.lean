import BuildRepair.History.Stored
import BuildRepair.Proofs.Except
import BuildRepair.Proofs.Json.Rereading
import BuildRepair.Proofs.Time.Reading

/-
  Which values survive being stored. A `Storable` value has no integer that is too long, no object
  with two fields of one name and no object that would be taken for a point in time. In its stored
  form it is read as itself (`Storable.readAs`), save that for each double in it comes the one that
  its text denotes (`reread`). Every value that is read from a file is storable (`readWith_storable`).
-/

namespace BuildRepair

namespace Json

variable {fields : Fields} {items : List Json} {j : Json}

/-! ## Storable values -/

/-- Fields that are not those of a point in time. -/
def Untagged (fields : Fields) : Prop :=
  Assoc.find? "__type" fields = some (.str "Date") → Assoc.find? "value" fields = none

theorem untagged_of_not_mem (h : "__type" ∉ Assoc.keys fields) : Untagged fields := by
  have hnone : Assoc.find? "__type" fields = none := by
    cases hfind : Assoc.find? "__type" fields with
    | none => rfl
    | some j => exact absurd (Assoc.mem_keys_of_find? hfind) h
  intro htype
  rw [hnone] at htype
  cases htype

theorem ofTagged_of_untagged (h : Untagged fields) : ofTagged fields = .ok (.obj fields) := by
  unfold ofTagged
  split
  · next htype hvalue =>
    rw [h htype] at hvalue
    cases hvalue
  · rfl

/-- Objects that are read are points in time or not tagged. -/
theorem ofTagged_cases (h : ofTagged fields = .ok j) :
    (∃ t, j = .date t) ∨ j = .obj fields ∧ Untagged fields := by
  unfold ofTagged at h
  split at h
  · obtain ⟨t, -, rfl⟩ := map_eq_ok.mp h
    exact .inl ⟨t, rfl⟩
  · next hnone =>
    cases h
    refine .inr ⟨rfl, ?_⟩
    intro htype
    cases hvalue : Assoc.find? "value" fields with
    | none => rfl
    | some value => exact absurd hvalue (hnone value htype)

/-- A value that is read back from its stored form. -/
inductive Storable : Json → Prop
  | null : Storable .null
  | bool (b : Bool) : Storable (.bool b)
  | int (n : Int) (short : n.natAbs < Binary64.tenPow integerDigitLimit) : Storable (.int n)
  | real (x : Binary64) : Storable (.real x)
  | str (s : String) : Storable (.str s)
  | date (t : Timestamp) : Storable (.date t)
  | arr (items : List Json) (all : ∀ x ∈ items, Storable x) : Storable (.arr items)
  | obj (fields : Fields) (distinct : (Assoc.keys fields).Nodup) (untagged : Untagged fields)
      (all : ∀ p ∈ fields, Storable p.2) : Storable (.obj fields)

theorem Untagged.reread (h : Untagged fields) : Untagged (rereadFields fields) := by
  unfold Untagged
  rw [find?_rereadFields, find?_rereadFields, Option.map_eq_some_iff]
  rintro ⟨x, hx, htype⟩
  obtain rfl := reread_eq_str.mp htype
  rw [h hx]
  rfl

/-- A point in time is stored as an object with its tag and its text. -/
theorem readAs_date (t : Timestamp) : ReadAs ofTagged t.toJson (.date t) := by
  have hfields : List.Forall₂ (FieldReadAs ofTagged)
      [("__type", .str "Date"), ("value", .str t.text)]
      [("__type", .str "Date"), ("value", .str t.text)] :=
    .cons ⟨rfl, readAs_str _⟩ (.cons ⟨rfl, readAs_str _⟩ .nil)
  refine readAs_obj hfields (by simp [Assoc.keys]) ?_
  simp [ofTagged, Assoc.find?, Timestamp.ofJson, Timestamp.ofText, t.read_text, Except.map]

theorem readAs_items (h : ∀ x ∈ items, ReadAs ofTagged x.tagDates x.reread) :
    List.Forall₂ (ReadAs ofTagged) (tagItems items) (rereadItems items) := by
  induction items with
  | nil => exact .nil
  | cons x items ih =>
    rw [List.forall_mem_cons] at h
    exact .cons h.1 (ih h.2)

theorem readAs_fields (h : ∀ p ∈ fields, ReadAs ofTagged p.2.tagDates p.2.reread) :
    List.Forall₂ (FieldReadAs ofTagged) (tagFields fields) (rereadFields fields) := by
  induction fields with
  | nil => exact .nil
  | cons p fields ih =>
    rw [List.forall_mem_cons] at h
    exact .cons ⟨rfl, h.1⟩ (ih h.2)

/-- A storable value in its stored form is read as itself up to its doubles. -/
theorem Storable.readAs (h : j.Storable) : ReadAs ofTagged j.tagDates j.reread := by
  induction h with
  | null => exact readAs_null
  | bool b => exact readAs_bool b
  | int n short => exact readAs_int short
  | real x => exact readAs_reread x
  | str s => exact readAs_str s
  | date t => exact readAs_date t
  | arr items _ ih => exact readAs_arr (readAs_items ih)
  | obj fields distinct untagged _ ih =>
    refine readAs_obj (readAs_fields ih) ?_ (ofTagged_of_untagged untagged.reread)
    rw [keys_rereadFields]
    exact distinct

/-! ## Values that were read -/

/-- Fields of different names with storable values. -/
structure StorableFields (fields : Fields) : Prop where
  distinct : (Assoc.keys fields).Nodup
  all : ∀ p ∈ fields, p.2.Storable

theorem StorableFields.put (h : StorableFields fields) (name : String) (hj : j.Storable) :
    StorableFields (Assoc.put name j fields) := by
  refine ⟨?_, ?_⟩
  · rw [Assoc.keys_put]
    split
    · exact h.distinct
    · next hnew => exact List.nodup_append.mpr ⟨h.distinct, by simp, by
        rintro a ha b hb rfl
        exact hnew (List.mem_singleton.mp hb ▸ ha)⟩
  · intro p hp
    rcases Assoc.mem_put hp with hp | hp
    · exact h.all p hp
    · rw [hp]
      exact hj

theorem IsAtom.storable (h : j.IsAtom) : j.Storable := by
  cases j with
  | null => exact .null
  | bool b => exact .bool b
  | int n => exact .int n h
  | real x => exact .real x
  | str => cases h
  | arr => cases h
  | obj => cases h
  | date => cases h

/-- Every value that is read from a file is storable. -/
theorem readWith_storable {wrap : ReadError → Failure} {text : String}
    (h : readWith ofTagged wrap text = .ok j) : j.Storable := by
  refine readWith_built (Q := StorableFields) ?_ h
  exact
    { atom := fun _ hj => hj.storable
      str := .str
      arr := .arr
      noFields := ⟨List.nodup_nil, by simp⟩
      field := fun name _ _ hx hf => hf.put name hx
      obj := by
        intro fields j hf hj
        rcases ofTagged_cases hj with ⟨t, rfl⟩ | ⟨rfl, huntagged⟩
        · exact .date t
        · exact .obj fields hf.distinct huntagged hf.all }

end Json
end BuildRepair
