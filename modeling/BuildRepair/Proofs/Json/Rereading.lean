import BuildRepair.Proofs.Assoc
import BuildRepair.Proofs.Json.Reading
import BuildRepair.Proofs.Json.Writing

/-
  What a value is read as where it was written. Only a double may change: it is read as the double
  that its text denotes (`reread`). So a value is read up to its doubles if its integers are not too
  long, no object has two fields of one name and no point in time is among it (`Readable.readAs`).
  Every value that was read is such a value (`readable_of_read`).
-/

namespace BuildRepair

/-- The double that is read where a double was written. -/
def Binary64.reread (x : Binary64) : Binary64 :=
  match Json.readAtom (ε := Unit) (Json.atomText (.real x)) with
  | .ok (.real y, _) => y
  | _ => x

namespace Json

variable {fields : Fields} {items : List Json} {j : Json} {name : String}

theorem readAs_reread {ε : Type} {close : Fields → Except ε Json} (x : Binary64) :
    ReadAs close (.real x) (.real x.reread) := by
  obtain ⟨y, hy⟩ := readAtom_real x
  have hend : NoNumber [] := by simp [NoNumber]
  have hreread : x.reread = y := by
    have hread := hy Unit [] hend
    rw [List.append_nil] at hread
    unfold Binary64.reread
    rw [hread]
  rw [hreread]
  exact readAs_atom (fun _ => rfl) (beginsPlain_real x) (hy ε)

mutual
/-- A value as it is read where it was written. -/
def reread : Json → Json
  | .real x => .real x.reread
  | .arr items => .arr (rereadItems items)
  | .obj fields => .obj (rereadFields fields)
  | j => j
/-- Items as they are read where they were written. -/
def rereadItems : List Json → List Json
  | [] => []
  | x :: xs => reread x :: rereadItems xs
/-- Fields as they are read where they were written. -/
def rereadFields : Fields → Fields
  | [] => []
  | (k, x) :: fs => (k, reread x) :: rereadFields fs
end

theorem keys_rereadFields (fields : Fields) :
    Assoc.keys (rereadFields fields) = Assoc.keys fields := by
  induction fields with
  | nil => rfl
  | cons p fields ih =>
    rw [rereadFields, Assoc.keys, List.map_cons, Assoc.keys, List.map_cons]
    exact congrArg _ ih

theorem find?_rereadFields (name : String) (fields : Fields) :
    Assoc.find? name (rereadFields fields) = (Assoc.find? name fields).map reread := by
  induction fields with
  | nil => rfl
  | cons p fields ih =>
    rw [rereadFields, Assoc.find?, Assoc.find?, ih]
    split <;> rfl

/-- Only a string is read as a string. -/
theorem reread_eq_str {s : String} : j.reread = .str s ↔ j = .str s := by
  cases j <;> simp [reread]

theorem rereadItems_eq_map (items : List Json) : rereadItems items = items.map reread := by
  induction items with
  | nil => rfl
  | cons x items ih => rw [rereadItems, ih, List.map_cons]

theorem rereadFields_eq_map (fields : Fields) :
    rereadFields fields = fields.map fun p => (p.1, p.2.reread) := by
  induction fields with
  | nil => rfl
  | cons p fields ih => rw [rereadFields, ih, List.map_cons]

/-! ## Readable values -/

/-- A value that is read where it was written. -/
inductive Readable : Json → Prop
  | null : Readable .null
  | bool (b : Bool) : Readable (.bool b)
  | int {n : Int} (h : n.natAbs < Binary64.tenPow integerDigitLimit) : Readable (.int n)
  | real (x : Binary64) : Readable (.real x)
  | str (s : String) : Readable (.str s)
  | arr {items : List Json} (h : ∀ x ∈ items, Readable x) : Readable (.arr items)
  | obj {fields : Fields} (h : ∀ p ∈ fields, Readable p.2) (hnames : (Assoc.keys fields).Nodup) :
      Readable (.obj fields)

theorem Readable.field (h : Readable (.obj fields)) : ∀ p ∈ fields, Readable p.2 := by
  cases h with
  | obj h _ => exact h

theorem Readable.names (h : Readable (.obj fields)) : (Assoc.keys fields).Nodup := by
  cases h with
  | obj _ hnames => exact hnames

theorem Readable.find? (h : Readable (.obj fields)) (hf : Assoc.find? name fields = some j) :
    Readable j :=
  h.field _ (Assoc.mem_of_find?_eq_some hf)

theorem Readable.erase (h : Readable (.obj fields)) (name : String) :
    Readable (.obj (Assoc.erase name fields)) := by
  refine .obj (fun p hp => h.field p (List.mem_filter.mp hp).1) ?_
  exact h.names.sublist (List.filter_sublist.map _)

theorem Readable.dateless (h : Readable j) : j.Dateless := by
  induction h with
  | arr _ ih => exact itemsHoldDate_eq_false_iff.mpr ih
  | obj _ _ ih => exact dateless_obj_iff.mpr ih
  | _ => rfl

/-- A readable value is read as itself up to its doubles. -/
theorem Readable.readAs {ε : Type} {close : Fields → Except ε Json}
    (hclose : ∀ fields, close fields = .ok (.obj fields)) (h : Readable j) :
    ReadAs close j j.reread := by
  induction h with
  | null => exact readAs_null
  | bool b => exact readAs_bool b
  | int hn => exact readAs_int hn
  | real x => exact readAs_reread x
  | str s => exact readAs_str s
  | arr _ ih =>
    rw [reread, rereadItems_eq_map]
    exact readAs_arr (List.forall₂_map_right_iff.mpr (List.forall₂_same.mpr ih))
  | @obj fields _ hnames ih =>
    have hfields : List.Forall₂ (FieldReadAs close) fields (rereadFields fields) := by
      rw [rereadFields_eq_map, List.forall₂_map_right_iff]
      exact List.forall₂_same.mpr fun p hp => ⟨rfl, ih p hp⟩
    refine readAs_obj hfields ?_ (hclose _)
    rw [keys_rereadFields]
    exact hnames

/-- What is written of a readable value is read as that value up to its doubles. -/
theorem Readable.read_document (h : Readable j) : read (document j) = .ok j.reread :=
  readWith_document (h.readAs fun _ => rfl) id

theorem IsAtom.readable (h : j.IsAtom) : j.Readable := by
  cases j with
  | null => exact .null
  | bool b => exact .bool b
  | int n => exact .int h
  | real x => exact .real x
  | _ => cases h

/-- Every value that was read is readable. -/
theorem readable_of_read {text : String} (h : read text = .ok j) : j.Readable := by
  refine readWith_built (Q := fun fields => (∀ p ∈ fields, p.2.Readable) ∧
    (Assoc.keys fields).Nodup) ?_ h
  exact
    { atom := fun _ hj => hj.readable
      str := .str
      arr := fun _ => .arr
      noFields := ⟨fun _ hp => absurd hp List.not_mem_nil, List.nodup_nil⟩
      field := by
        intro name x fields hx hfields
        refine ⟨?_, Assoc.nodup_keys_put hfields.2 name x⟩
        intro p hp
        rcases Assoc.mem_put hp with hp | hp
        · exact hfields.1 p hp
        · rw [hp]
          exact hx
      obj := by
        intro fields j hfields hj
        cases hj
        exact .obj hfields.1 hfields.2 }

end Json

end BuildRepair
