import BuildRepair.Proofs.Json.Rereading

/-
  Values that lose nothing when they are written and read again (`Lossless`): their numbers are
  integers that can be read, no object has two fields of one name, and there is no point in time
  among them. Every such value is read as itself (`Lossless.read_document`), and every readable
  value without a double in it is one (`Readable.lossless`).
-/

namespace BuildRepair

namespace Json

variable {j : Json} {items : List Json} {fields : Fields}

/-! ## Doubles -/

mutual
/-- Whether a double stands anywhere in a value. -/
def holdsReal : Json → Bool
  | .real _ => true
  | .arr items => itemsHoldReal items
  | .obj fields => fieldsHoldReal fields
  | _ => false
/-- Whether a double stands anywhere in some items. -/
def itemsHoldReal : List Json → Bool
  | [] => false
  | x :: xs => holdsReal x || itemsHoldReal xs
/-- Whether a double stands anywhere in some fields. -/
def fieldsHoldReal : Fields → Bool
  | [] => false
  | (_, x) :: fs => holdsReal x || fieldsHoldReal fs
end

theorem itemsHoldReal_eq_false_iff :
    itemsHoldReal items = false ↔ ∀ x ∈ items, x.holdsReal = false := by
  induction items with
  | nil => simp [itemsHoldReal]
  | cons x xs ih => simp [itemsHoldReal, ih]

theorem fieldsHoldReal_eq_false_iff :
    fieldsHoldReal fields = false ↔ ∀ p ∈ fields, p.2.holdsReal = false := by
  induction fields with
  | nil => simp [fieldsHoldReal]
  | cons p fs ih =>
    obtain ⟨k, x⟩ := p
    simp [fieldsHoldReal, ih]

/-! ## Nothing is lost -/

/-- A value that is read as itself where it was written. -/
inductive Lossless : Json → Prop
  | null : Lossless .null
  | bool (b : Bool) : Lossless (.bool b)
  | int {n : Int} (h : n.natAbs < Binary64.tenPow integerDigitLimit) : Lossless (.int n)
  | str (s : String) : Lossless (.str s)
  | arr {items : List Json} (h : ∀ x ∈ items, Lossless x) : Lossless (.arr items)
  | obj {fields : Fields} (h : ∀ p ∈ fields, Lossless p.2) (hnames : (Assoc.keys fields).Nodup) :
      Lossless (.obj fields)

theorem Lossless.field (h : Lossless (.obj fields)) : ∀ p ∈ fields, Lossless p.2 := by
  cases h with
  | obj h _ => exact h

theorem Lossless.names (h : Lossless (.obj fields)) : (Assoc.keys fields).Nodup := by
  cases h with
  | obj _ hnames => exact hnames

theorem Lossless.find? {name : String} (h : Lossless (.obj fields))
    (hf : Assoc.find? name fields = some j) : Lossless j := by
  obtain ⟨_, hm⟩ := Assoc.mem_of_find? hf
  exact h.field _ hm

theorem Lossless.put (h : Lossless (.obj fields)) (hj : Lossless j) (name : String) :
    Lossless (.obj (Assoc.put name j fields)) := by
  refine .obj ?_ (Assoc.nodup_keys_put h.names name j)
  intro p hp
  rcases Assoc.mem_put hp with hp | hp
  · exact h.field p hp
  · rw [hp]
    exact hj

theorem Lossless.erase (h : Lossless (.obj fields)) (name : String) :
    Lossless (.obj (Assoc.erase name fields)) := by
  refine .obj (fun p hp => h.field p (List.mem_filter.mp hp).1) ?_
  exact h.names.sublist (List.filter_sublist.map _)

theorem Lossless.readable (h : Lossless j) : Readable j := by
  induction h with
  | null => exact .null
  | bool b => exact .bool b
  | int hn => exact .int hn
  | str s => exact .str s
  | arr _ ih => exact .arr ih
  | obj _ hnames ih => exact .obj ih hnames

theorem Lossless.reread (h : Lossless j) : j.reread = j := by
  induction h with
  | arr _ ih =>
    rw [Json.reread, rereadItems_eq_map, List.map_congr_left ih, List.map_id']
  | obj _ _ ih =>
    have hfields := List.map_congr_left fun p hp => congrArg (Prod.mk p.1) (ih p hp)
    rw [Json.reread, rereadFields_eq_map, hfields, List.map_id']
  | _ => rfl

/-- What is written of a value is read as that value. -/
theorem Lossless.read_document (h : Lossless j) : read (document j) = .ok j := by
  rw [h.readable.read_document, h.reread]

/-- A readable value without doubles loses nothing. -/
theorem Readable.lossless (h : Readable j) (hreal : j.holdsReal = false) : Lossless j := by
  induction h with
  | null => exact .null
  | bool b => exact .bool b
  | int hn => exact .int hn
  | real x => cases hreal
  | str s => exact .str s
  | arr _ ih => exact .arr fun x hx => ih x hx (itemsHoldReal_eq_false_iff.mp hreal x hx)
  | obj _ hnames ih =>
    exact .obj (fun p hp => ih p hp (fieldsHoldReal_eq_false_iff.mp hreal p hp)) hnames

end Json

end BuildRepair
