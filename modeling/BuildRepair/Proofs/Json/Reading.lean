import BuildRepair.Json.Reader
import BuildRepair.Proofs.Decimal.Writing

/-
  What the reader of JSON can build. `Built` collects how it puts a value together: constants and
  numbers, strings, arrays of values, and objects whose fields came one by one. A property that all
  of these keep holds of every value that is read (`readWith_built`). A text is refused only where
  it is no JSON or `close` refuses an object in it (`readWith_eq_error`). Both come from one lemma
  for each reader on what it gives (`Gives`), and one induction over the three mutual ones. What
  holds no point in time is put together in the same way (`itemsHoldDate_eq_false_iff`,
  `fieldsHoldDate_eq_false_iff`).
-/

namespace BuildRepair.Json

variable {ε α β : Type} {P : α → Prop} {R : ε → Prop}

/-! ## What a reader gives -/

/-- A reader gives a value of `P` or stops, and if it stops at an object that is refused, the reason
is one of `R`. -/
def Gives (P : α → Prop) (R : ε → Prop) : Read ε α → Prop
  | .ok (a, _) => P a
  | .error (.refused e) => R e
  | .error _ => True

theorem Gives.value {x : Read ε α} {a : α} {r : List Char} (h : Gives P R x)
    (hx : x = .ok (a, r)) : P a := by
  rw [hx] at h
  exact h

/-- A reader stops where one that it uses has stopped. -/
theorem Gives.stop {x : Read ε α} {e : Stop ε} {P' : β → Prop} (h : Gives P R x)
    (hx : x = .error e) : Gives P' R (.error e : Read ε β) := by
  rw [hx] at h
  cases e with
  | malformed _ _ => trivial
  | integerTooLong _ => trivial
  | refused e => exact h

theorem Gives.mono {x : Read ε α} {P' : α → Prop} (h : Gives P R x) (hP : ∀ a, P a → P' a) :
    Gives P' R x := by
  cases x with
  | error e => exact h.stop rfl
  | ok p => exact hP _ h

/-! ## Strings -/

theorem Gives.prepend {x : Read ε (List Char)} (h : Gives (fun _ => True) R x) (cs : List Char) :
    Gives (fun _ => True) R (prepend cs x) := by
  cases x with
  | error e => exact h
  | ok p => trivial

theorem stringBody_gives (opening s : List Char) (first : Option Nat) :
    Gives (fun _ => True) R (stringBody opening first s) := by
  fun_induction stringBody opening first s with
  | case4 | case5 | case6 | case9 | case12 => exact Gives.prepend ‹_› _
  | case1 | case2 | case3 | case7 | case8 | case10 | case11 => trivial

theorem readString_gives (s : List Char) : Gives (fun _ => True) R (readString s) := by
  unfold readString
  split
  · trivial
  · next he => exact (stringBody_gives _ s none).stop he

/-! ## Constants and numbers -/

/-- Values that `readAtom` gives: constants and numbers, integers with no more digits than can be
read. -/
def IsAtom : Json → Prop
  | .null | .bool _ | .real _ => True
  | .int n => n.natAbs < Binary64.tenPow integerDigitLimit
  | _ => False

theorem readNumberRest_gives {digits : List Char} (hd : Text.Digits digits) (negative : Bool)
    (s : List Char) : Gives IsAtom R (readNumberRest negative digits s) := by
  unfold readNumberRest
  dsimp only
  split
  · split
    · trivial
    · next hlen =>
      have hvalue : Text.decimalValue digits < 10 ^ integerDigitLimit :=
        Nat.lt_of_lt_of_le (Text.decimalValue_lt hd)
          (Nat.pow_le_pow_right (by decide) (Nat.not_lt.mp hlen))
      unfold Gives IsAtom
      rw [Binary64.tenPow_eq]
      cases negative <;> simpa using hvalue
  · trivial

theorem readNumber_gives (s : List Char) : Gives IsAtom R (readNumber s) := by
  unfold readNumber
  dsimp only
  split
  · exact readNumberRest_gives (Text.digits_replicate 1) _ _
  · split
    · next hc =>
      exact readNumberRest_gives (List.forall_mem_cons.mpr ⟨hc, Text.digits_takeWhile _⟩) _ _
    · trivial
  · trivial

theorem readAtom_gives (s : List Char) : Gives IsAtom R (readAtom s) := by
  unfold readAtom
  split
  case h_7 => exact readNumber_gives s
  all_goals trivial

/-! ## Values by how they are put together -/

/-- `P` holds of every value that a reader with `close` puts together, if `Q` holds of the fields
read so far of every object. -/
structure Built (close : Fields → Except ε Json) (P : Json → Prop) (Q : Fields → Prop) : Prop where
  atom : ∀ j, j.IsAtom → P j
  str : ∀ s, P (.str s)
  arr : ∀ items, (∀ x ∈ items, P x) → P (.arr items)
  noFields : Q []
  field : ∀ name x fields, P x → Q fields → Q (Assoc.put name x fields)
  obj : ∀ fields j, Q fields → close fields = .ok j → P j

/-- Fields of `Q` are refused for this reason. -/
def Refused (close : Fields → Except ε Json) (Q : Fields → Prop) (e : ε) : Prop :=
  ∃ fields, Q fields ∧ close fields = .error e

section Readers

variable {close : Fields → Except ε Json} {P : Json → Prop} {Q : Fields → Prop} {fuel : Nat}

theorem closed_gives (hb : Built close P Q) {x : Read ε Fields}
    (hx : Gives Q (Refused close Q) x) : Gives P (Refused close Q) (closed close x) := by
  unfold closed
  split
  · exact hx.stop rfl
  · split
    · next hc => exact hb.obj _ _ hx hc
    · next hc => exact ⟨_, hx, hc⟩

theorem readValue_gives (hb : Built close P Q)
    (hitems : ∀ s, Gives (fun items => ∀ x ∈ items, P x) (Refused close Q)
      (readItems close fuel s))
    (hfields : ∀ s, Gives Q (Refused close Q) (readFields close fuel [] s)) (s : List Char) :
    Gives P (Refused close Q) (readValue close (fuel + 1) s) := by
  unfold readValue
  split
  case h_1 hn => cases hn
  case h_2 =>
    split
    · exact hb.str _
    · next he => exact (readString_gives _).stop he
  case h_3 hn =>
    cases hn
    split
    · exact hb.arr [] (fun _ hx => absurd hx List.not_mem_nil)
    · split
      · next hi => exact hb.arr _ ((hitems _).value hi)
      · next he => exact (hitems _).stop he
  case h_4 hn =>
    cases hn
    split
    · exact closed_gives hb hb.noFields
    · exact closed_gives hb (hfields _)
  case h_5 => exact (readAtom_gives _).mono hb.atom

theorem readItems_gives
    (hvalue : ∀ s, Gives P (Refused close Q) (readValue close fuel s))
    (hitems : ∀ s, Gives (fun items => ∀ x ∈ items, P x) (Refused close Q)
      (readItems close fuel s)) (s : List Char) :
    Gives (fun items => ∀ x ∈ items, P x) (Refused close Q) (readItems close (fuel + 1) s) := by
  unfold readItems
  split
  · next he => exact (hvalue _).stop he
  · next hx =>
    have hP := (hvalue _).value hx
    split
    · exact fun _ hy => List.mem_singleton.mp hy ▸ hP
    · split
      · next hi => exact List.forall_mem_cons.mpr ⟨hP, (hitems _).value hi⟩
      · next he => exact (hitems _).stop he
    · trivial

theorem readFields_gives (hb : Built close P Q)
    (hvalue : ∀ s, Gives P (Refused close Q) (readValue close fuel s))
    (hfields : ∀ done s, Q done → Gives Q (Refused close Q) (readFields close fuel done s))
    {done : Fields} (hdone : Q done) (s : List Char) :
    Gives Q (Refused close Q) (readFields close (fuel + 1) done s) := by
  unfold readFields
  split
  case h_1 hn => cases hn
  case h_2 hn =>
    cases hn
    split
    · next he => exact (readString_gives _).stop he
    · split
      · split
        · next he => exact (hvalue _).stop he
        · next hx =>
          have hput := fun name => hb.field name _ _ ((hvalue _).value hx) hdone
          split
          · exact hput _
          · exact hfields _ _ (hput _)
          · trivial
      · trivial
  case h_3 => trivial

/-- The three mutual readers at once, by induction on the fuel. -/
theorem readers_give (hb : Built close P Q) (fuel : Nat) :
    (∀ s, Gives P (Refused close Q) (readValue close fuel s)) ∧
    (∀ s, Gives (fun items => ∀ x ∈ items, P x) (Refused close Q)
      (readItems close fuel s)) ∧
    (∀ done s, Q done → Gives Q (Refused close Q) (readFields close fuel done s)) := by
  induction fuel with
  | zero =>
    refine ⟨?_, ?_, ?_⟩
    · intro s
      rw [readValue]
      trivial
    · intro s
      rw [readItems]
      trivial
    · intro done s _
      rw [readFields]
      trivial
  | succ fuel ih =>
    obtain ⟨hvalue, hitems, hfields⟩ := ih
    refine ⟨?_, ?_, ?_⟩
    · exact readValue_gives hb hitems fun s => hfields [] s hb.noFields
    · exact readItems_gives hvalue hitems
    · exact fun _ s hdone => readFields_gives hb hvalue hfields hdone s

theorem readText_eq_ok (hb : Built close P Q) {s : List Char} {j : Json}
    (h : readText close s = .ok j) : P j := by
  unfold readText at h
  split at h
  · cases h
  · split at h
    · cases h
    · next hv =>
      split at h
      · cases h
        exact ((readers_give hb _).1 _).value hv
      · cases h

theorem readText_eq_refused (hb : Built close P Q) {s : List Char} {e : ε}
    (h : readText close s = .error (.refused e)) : Refused close Q e := by
  unfold readText at h
  split at h
  · cases h
  · split at h
    · next hv =>
      cases h
      have hgives := (readers_give hb (2 * s.length + 2)).1 (skipSpace s)
      rw [hv] at hgives
      exact hgives
    · split at h <;> cases h

/-- What every step of reading keeps holds of the value read. -/
theorem readWith_built (hb : Built close P Q) {wrap : ReadError → ε} {text : String} {j : Json}
    (h : readWith close wrap text = .ok j) : P j := by
  unfold readWith at h
  dsimp only at h
  split at h
  · next hj =>
    cases h
    exact readText_eq_ok hb hj
  all_goals cases h

/-- A text is no JSON, or an object in it is refused. -/
theorem readWith_eq_error {wrap : ReadError → ε} {text : String} {e : ε}
    (h : readWith close wrap text = .error e) :
    (∃ r, e = wrap r) ∨ ∃ fields, close fields = .error e := by
  have hany : Built close (fun _ => True) (fun _ => True) := by
    constructor <;> (intros; trivial)
  unfold readWith at h
  dsimp only at h
  split at h
  · cases h
  · next hr =>
    cases h
    obtain ⟨fields, -, hfields⟩ := readText_eq_refused hany hr
    exact .inr ⟨fields, hfields⟩
  · cases h
    exact .inl ⟨_, rfl⟩
  · cases h
    exact .inl ⟨_, rfl⟩

end Readers

/-! ## Points in time -/

/-- A value without points in time. -/
def Dateless (j : Json) : Prop := j.holdsDate = false

/-- Fields without points in time. -/
def FieldsDateless (fields : Fields) : Prop := ∀ p ∈ fields, p.2.Dateless

theorem itemsHoldDate_eq_false_iff {items : List Json} :
    itemsHoldDate items = false ↔ ∀ x ∈ items, x.Dateless := by
  induction items with
  | nil => simp [itemsHoldDate]
  | cons x xs ih => simp [itemsHoldDate, ih, Dateless]

theorem fieldsHoldDate_eq_false_iff {fields : Fields} :
    fieldsHoldDate fields = false ↔ FieldsDateless fields := by
  induction fields with
  | nil => simp [fieldsHoldDate, FieldsDateless]
  | cons p fs ih =>
    obtain ⟨k, x⟩ := p
    simp only [FieldsDateless] at ih
    simp [fieldsHoldDate, ih, FieldsDateless, Dateless]

theorem dateless_obj_iff {fields : Fields} : (obj fields).Dateless ↔ FieldsDateless fields := by
  simp [Dateless, holdsDate, fieldsHoldDate_eq_false_iff]

theorem dateless_str (s : String) : (str s).Dateless := rfl

theorem FieldsDateless.put {fields : Fields} {x : Json} (hf : FieldsDateless fields)
    (hx : x.Dateless) (name : String) : FieldsDateless (Assoc.put name x fields) := by
  intro p hp
  rcases Assoc.mem_put hp with h | h
  · exact hf p h
  · rw [h]
    exact hx

end BuildRepair.Json
