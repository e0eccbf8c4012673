import BuildRepair.Proofs.Json.Ascii
import BuildRepair.Proofs.Json.Strings
import Mathlib.Data.List.Forall2

/-
  Values in writing are read back. `ReadAs close w j`: the value `w`, written over several lines, is
  read as `j`. Constants, integers and strings are read as themselves (`readAs_str` and so on), an
  array item by item (`readAs_arr`), and an object field by field, if no two fields have one name,
  as what `close` makes of it (`readAs_obj`). So is a document (`readWith_document`). The length of
  a text is fuel enough to read it.
-/

namespace BuildRepair.Json

open Text (isAsciiDigit)

variable {ε : Type} {close : Fields → Except ε Json} {fuel level : Nat} {rest s : List Char}
  {w j : Json}

/-! ## Tokens -/

/-- What a value begins with: no space, and no end of an array. -/
def Begins (s : List Char) : Prop := ∃ c t, s = c :: t ∧ isSpace c = false ∧ c ≠ ']'

theorem Begins.skipSpace (h : Begins s) : skipSpace (s ++ rest) = s ++ rest := by
  obtain ⟨c, t, rfl, hc, -⟩ := h
  exact List.dropWhile_cons_of_neg (by simp [hc])

theorem skipSpace_newLine (level : Nat) (s : List Char) :
    skipSpace (newLine level ++ s) = skipSpace s := by
  have hall : ∀ c ∈ newLine level, isSpace c = true := by
    intro c hc
    rcases List.mem_cons.mp hc with rfl | hc
    · rfl
    · rw [List.eq_of_mem_replicate hc]
      rfl
  exact List.dropWhile_append_of_pos hall

/-- After a line end, the reader stands at the next token. -/
theorem Begins.skipSpace_newLine (h : Begins s) :
    Json.skipSpace (newLine level ++ (s ++ rest)) = s ++ rest := by
  rw [Json.skipSpace_newLine, h.skipSpace]

theorem begins_cons {c : Char} (hc : isSpace c = false) (he : c ≠ ']') : Begins (c :: s) :=
  ⟨c, s, rfl, hc, he⟩

theorem begins_stringText (t : String) : Begins (stringText t) := begins_cons rfl (by decide)

/-- What no constant and no number begins with. -/
def marks : List Char := [' ', '\t', '\n', '\r', ']', '"', '[', '\x7b']

/-- What a constant or a number begins with. -/
def BeginsPlain (s : List Char) : Prop := ∃ c t, s = c :: t ∧ c ∉ marks

theorem BeginsPlain.begins (h : BeginsPlain s) : Begins s := by
  obtain ⟨c, t, rfl, hc⟩ := h
  simp only [marks, List.mem_cons, not_or] at hc
  refine begins_cons ?_ hc.2.2.2.2.1
  simp [isSpace, hc]

theorem beginsPlain_whole {whole : List Char} (hw : IsWhole whole) (negative : Bool) :
    BeginsPlain (signText negative ++ (whole ++ rest)) := by
  obtain ⟨c, digits, rfl⟩ := List.exists_cons_of_ne_nil hw.ne_nil
  have hc : isAsciiDigit c = true := hw.digits c (List.mem_cons_self ..)
  have hmarks : ∀ d ∈ marks, isAsciiDigit d = false := by
    simp [marks, isAsciiDigit]
  cases negative with
  | true => exact ⟨'-', c :: digits ++ rest, rfl, by decide⟩
  | false =>
    refine ⟨c, digits ++ rest, rfl, ?_⟩
    intro hmem
    rw [hmarks c hmem] at hc
    cases hc

theorem beginsPlain_int (n : Int) : BeginsPlain (Text.intText n) := by
  have h : BeginsPlain (signText (decide (n < 0)) ++ (Text.natText n.natAbs ++ [])) :=
    beginsPlain_whole (isWhole_natText n.natAbs) (decide (n < 0))
  rwa [List.append_nil, ← intText_eq] at h

theorem beginsPlain_real (x : Binary64) : BeginsPlain (x.textWith "Infinity" "NaN").toList := by
  cases x with
  | finite negative m e =>
    obtain ⟨n, hn⟩ := Binary64.textWith_finite "Infinity" "NaN" negative m e
    rw [hn]
    exact beginsPlain_whole n.isWhole negative
  | infinite negative => cases negative <;> exact ⟨_, _, rfl, by decide⟩
  | nan => exact ⟨_, _, rfl, by decide⟩

theorem begins_atomText (w : Json) : Begins (atomText w) := by
  cases w with
  | null => exact begins_cons rfl (by decide)
  | bool b => cases b <;> exact begins_cons rfl (by decide)
  | int n => exact (beginsPlain_int n).begins
  | real x => exact (beginsPlain_real x).begins
  | str t => exact begins_stringText t
  | arr => exact begins_cons rfl (by decide)
  | obj => exact begins_cons rfl (by decide)
  | date t => exact begins_stringText t.text

theorem begins_prettyText (level : Nat) (w : Json) : Begins (prettyText level w) := by
  unfold prettyText
  split
  · exact begins_cons rfl (by decide)
  · exact begins_cons rfl (by decide)
  · exact begins_atomText w

/-- A text in front of which a number ends: a line end or a comma comes next. -/
theorem noNumber_newLine (level : Nat) (s : List Char) : NoNumber (newLine level ++ s) := by
  intro c hc
  cases hc
  decide

theorem noNumber_comma (s : List Char) : NoNumber (',' :: s) := by
  intro c hc
  cases hc
  decide

/-! ## Values -/

/-- The value `w` in writing is read as `j`. -/
def ReadAs (close : Fields → Except ε Json) (w j : Json) : Prop :=
  ∀ level fuel rest, (prettyText level w).length ≤ fuel → NoNumber rest →
    readValue close fuel (prettyText level w ++ rest) = .ok (j, rest)

/-- No text is empty, so there is fuel for the value itself. -/
theorem ReadAs.intro (h : ∀ level fuel rest, (prettyText level w).length ≤ fuel + 1 →
    NoNumber rest → readValue close (fuel + 1) (prettyText level w ++ rest) = .ok (j, rest)) :
    ReadAs close w j := by
  intro level fuel rest hfuel hr
  obtain ⟨c, t, ht, -⟩ := begins_prettyText level w
  cases fuel with
  | zero =>
    rw [ht] at hfuel
    cases hfuel
  | succ fuel => exact h level fuel rest hfuel hr

theorem readValue_stringText (t : String) :
    readValue close (fuel + 1) (stringText t ++ rest) = .ok (.str t, rest) := by
  have htext : stringText t ++ rest = '"' :: (escapeAll false t.toList ++ '"' :: rest) := by
    simp [stringText]
  rw [htext, readValue, readString_escapeAll]

theorem readAs_str (t : String) : ReadAs close (.str t) (.str t) :=
  ReadAs.intro fun _ _ _ _ _ => readValue_stringText t

theorem readValue_readAtom (h : BeginsPlain s) : readValue close (fuel + 1) s = readAtom s := by
  obtain ⟨c, t, rfl, hc⟩ := h
  simp only [marks, List.mem_cons, not_or] at hc
  obtain ⟨-, -, -, -, -, hquote, hbracket, hbrace, -⟩ := hc
  rw [readValue]
  · exact fun _ h => hquote (List.cons.inj h).1
  · exact fun _ h => hbracket (List.cons.inj h).1
  · exact fun _ h => hbrace (List.cons.inj h).1

/-- A constant or a number is read as `readAtom` reads it. -/
theorem readAs_atom (hpretty : ∀ level, prettyText level w = s) (hs : BeginsPlain s)
    (hread : ∀ rest, NoNumber rest → readAtom (ε := ε) (s ++ rest) = .ok (j, rest)) :
    ReadAs close w j := by
  refine ReadAs.intro ?_
  intro level fuel rest hfuel hr
  obtain ⟨c, t, rfl, hc⟩ := hs
  rw [hpretty, ← hread rest hr]
  exact readValue_readAtom ⟨c, t ++ rest, rfl, hc⟩

theorem readAs_null : ReadAs close .null .null :=
  readAs_atom (fun _ => rfl) ⟨_, _, rfl, by decide⟩ fun _ _ => rfl

theorem readAs_bool (b : Bool) : ReadAs close (.bool b) (.bool b) := by
  cases b <;> exact readAs_atom (fun _ => rfl) ⟨_, _, rfl, by decide⟩ fun _ _ => rfl

theorem readAs_int {n : Int} (hn : n.natAbs < Binary64.tenPow integerDigitLimit) :
    ReadAs close (.int n) (.int n) :=
  readAs_atom (fun _ => rfl) (beginsPlain_int n) fun _ => readAtom_intText hn

/-! ## Arrays -/

theorem readItems_last {t r : List Char} (hx : readValue close fuel s = .ok (j, t))
    (ht : skipSpace t = ']' :: r) : readItems close (fuel + 1) s = .ok ([j], r) := by
  rw [readItems, hx]
  dsimp only
  rw [ht]
  rfl

theorem readItems_next {t r q : List Char} {js : List Json}
    (hx : readValue close fuel s = .ok (j, t)) (ht : skipSpace t = ',' :: r)
    (hjs : readItems close fuel (skipSpace r) = .ok (js, q)) :
    readItems close (fuel + 1) s = .ok (j :: js, q) := by
  rw [readItems, hx]
  dsimp only
  rw [ht]
  simp only [hjs]

theorem readValue_items {c : Char} {t r : List Char} {js : List Json}
    (hs : skipSpace s = c :: t) (hc : c ≠ ']')
    (hjs : readItems close fuel (c :: t) = .ok (js, r)) :
    readValue close (fuel + 1) ('[' :: s) = .ok (.arr js, r) := by
  rw [readValue, hs]
  split
  · next heq => exact absurd (List.cons.inj heq).1 hc
  · rw [hjs]

theorem noNumber_prettyItems (level : Nat) (ws : List Json) (rest : List Char) :
    NoNumber (prettyItems level ws ++ rest) := by
  cases ws with
  | nil =>
    rw [prettyItems, List.append_assoc]
    exact noNumber_newLine _ _
  | cons w ws =>
    rw [prettyItems]
    exact noNumber_comma _

/-- The items of an array from its first one on, by induction on the others. -/
theorem readItems_prettyItems {ws js : List Json} (hw : ReadAs close w j)
    (hws : List.Forall₂ (ReadAs close) ws js)
    (hfuel : (prettyText (level + 1) w ++ prettyItems level ws).length < fuel) :
    readItems close fuel (prettyText (level + 1) w ++ (prettyItems level ws ++ rest)) =
      .ok (j :: js, rest) := by
  induction hws generalizing w j fuel with
  | nil =>
    obtain ⟨fuel, rfl⟩ := Nat.exists_eq_add_one_of_ne_zero (Nat.ne_zero_of_lt hfuel)
    rw [List.length_append] at hfuel
    refine readItems_last (hw _ _ _ (by omega) (noNumber_prettyItems level [] rest)) ?_
    rw [prettyItems, List.append_assoc, skipSpace_newLine]
    rfl
  | @cons x y ws js hx hws ih =>
    obtain ⟨fuel, rfl⟩ := Nat.exists_eq_add_one_of_ne_zero (Nat.ne_zero_of_lt hfuel)
    have htail : (prettyText (level + 1) x ++ prettyItems level ws).length < fuel := by
      simp only [prettyItems, List.length_append, List.length_cons] at hfuel ⊢
      omega
    have hcomma : skipSpace (prettyItems level (x :: ws) ++ rest) =
        ',' :: (newLine (level + 1) ++ (prettyText (level + 1) x ++
          (prettyItems level ws ++ rest))) := by
      simp only [prettyItems, List.cons_append, List.append_assoc]
      rfl
    rw [List.length_append] at hfuel
    refine readItems_next (hw _ _ _ (by omega) (noNumber_prettyItems level _ rest)) hcomma ?_
    rw [(begins_prettyText _ _).skipSpace_newLine]
    exact ih hx htail

theorem readAs_arr {ws js : List Json} (h : List.Forall₂ (ReadAs close) ws js) :
    ReadAs close (.arr ws) (.arr js) := by
  refine ReadAs.intro ?_
  intro level fuel rest hfuel hr
  cases h with
  | nil => rfl
  | @cons x y ws js hx hws =>
    have hitems : (prettyText (level + 1) x ++ prettyItems level ws).length < fuel := by
      simp only [prettyText, newLine, List.length_append, List.length_cons] at hfuel ⊢
      omega
    have hread : readItems close fuel (prettyText (level + 1) x ++ (prettyItems level ws ++ rest)) =
        .ok (y :: js, rest) := readItems_prettyItems hx hws hitems
    obtain ⟨c, t, ht, -, hc⟩ := begins_prettyText (level + 1) x
    rw [prettyText]
    simp only [List.cons_append, List.append_assoc]
    refine readValue_items (c := c) (t := t ++ (prettyItems level ws ++ rest)) ?_ hc ?_
    · rw [(begins_prettyText _ _).skipSpace_newLine, ht]
      rfl
    · rw [ht] at hread
      exact hread

/-! ## Objects -/

/-- A field of a new name is read and put behind the fields read so far. -/
theorem readFields_field {name : String} {done : Fields} (hw : ReadAs close w j)
    (hnew : name ∉ Assoc.keys done) (hfuel : (prettyText level w).length ≤ fuel)
    (hr : NoNumber rest) :
    readFields close (fuel + 1) done
        (stringText name ++ ':' :: ' ' :: (prettyText level w ++ rest)) =
      match skipSpace rest with
      | '\x7d' :: r => .ok (done ++ [(name, j)], r)
      | ',' :: r => readFields close fuel (done ++ [(name, j)]) (skipSpace r)
      | r => failAt .commaExpected r := by
  have htext : stringText name ++ ':' :: ' ' :: (prettyText level w ++ rest) =
      '"' :: (escapeAll false name.toList ++ '"' :: ':' :: ' ' :: (prettyText level w ++ rest)) := by
    simp [stringText]
  have hcolon (s : List Char) : skipSpace (':' :: s) = ':' :: s := rfl
  have hskip : skipSpace (' ' :: (prettyText level w ++ rest)) = prettyText level w ++ rest :=
    (begins_prettyText level w).skipSpace
  rw [htext, readFields, readString_escapeAll]
  simp only [hcolon, hskip, hw _ _ _ hfuel hr]
  rewrite [Assoc.put_of_not_mem hnew]
  rfl

theorem readFields_last {name : String} {done : Fields} {r : List Char} (hw : ReadAs close w j)
    (hnew : name ∉ Assoc.keys done) (hfuel : (prettyText level w).length ≤ fuel)
    (hr : NoNumber rest) (hend : skipSpace rest = '\x7d' :: r) :
    readFields close (fuel + 1) done
        (stringText name ++ ':' :: ' ' :: (prettyText level w ++ rest)) =
      .ok (done ++ [(name, j)], r) := by
  rw [readFields_field hw hnew hfuel hr, hend]
  rfl

theorem readFields_next {name : String} {done fields : Fields} {r q : List Char}
    (hw : ReadAs close w j) (hnew : name ∉ Assoc.keys done)
    (hfuel : (prettyText level w).length ≤ fuel) (hr : NoNumber rest)
    (hcomma : skipSpace rest = ',' :: r)
    (hfields : readFields close fuel (done ++ [(name, j)]) (skipSpace r) = .ok (fields, q)) :
    readFields close (fuel + 1) done
        (stringText name ++ ':' :: ' ' :: (prettyText level w ++ rest)) = .ok (fields, q) := by
  rw [readFields_field hw hnew hfuel hr, hcomma]
  exact hfields

theorem noNumber_prettyFields (level : Nat) (fs : Fields) (rest : List Char) :
    NoNumber (prettyFields level fs ++ rest) := by
  cases fs with
  | nil =>
    rw [prettyFields, List.append_assoc]
    exact noNumber_newLine _ _
  | cons f fs =>
    rw [prettyFields]
    exact noNumber_comma _

/-- A field in writing is read as one of the same name. -/
def FieldReadAs (close : Fields → Except ε Json) (f g : String × Json) : Prop :=
  f.1 = g.1 ∧ ReadAs close f.2 g.2

theorem readValue_fields {fields : Fields} {r t : List Char} (hs : skipSpace s = '"' :: t)
    (hfields : readFields close fuel [] ('"' :: t) = .ok (fields, r))
    (hclose : close fields = .ok j) : readValue close (fuel + 1) ('\x7b' :: s) = .ok (j, r) := by
  rw [readValue, hs]
  show closed close (readFields close fuel [] ('"' :: t)) = .ok (j, r)
  rw [hfields]
  simp only [closed, hclose]

theorem not_mem_keys {fields gs : Fields} {name : String}
    (h : (Assoc.keys (fields ++ (name, j) :: gs)).Nodup) : name ∉ Assoc.keys fields := by
  unfold Assoc.keys at h ⊢
  rw [List.map_append, List.nodup_append] at h
  intro hmem
  exact h.2.2 name hmem name (List.mem_cons_self ..) rfl

/-- The fields of an object from its first one on, by induction on the others; `done` are those
read before. -/
theorem readFields_prettyFields {fs gs done : Fields} {name : String} (hw : ReadAs close w j)
    (hfs : List.Forall₂ (FieldReadAs close) fs gs)
    (hnames : (Assoc.keys (done ++ (name, j) :: gs)).Nodup)
    (hfuel : (prettyText (level + 1) w ++ prettyFields level fs).length < fuel) :
    readFields close fuel done (stringText name ++ ':' :: ' ' :: (prettyText (level + 1) w ++
      (prettyFields level fs ++ rest))) = .ok (done ++ (name, j) :: gs, rest) := by
  induction hfs generalizing w j fuel done name with
  | nil =>
    obtain ⟨fuel, rfl⟩ := Nat.exists_eq_add_one_of_ne_zero (Nat.ne_zero_of_lt hfuel)
    rw [List.length_append] at hfuel
    have hend : skipSpace (prettyFields level [] ++ rest) = '\x7d' :: rest := by
      rw [prettyFields, List.append_assoc, skipSpace_newLine]
      rfl
    exact readFields_last hw (not_mem_keys hnames) (by omega)
      (noNumber_prettyFields level [] rest) hend
  | @cons f g fs gs hf hfs ih =>
    obtain ⟨fuel, rfl⟩ := Nat.exists_eq_add_one_of_ne_zero (Nat.ne_zero_of_lt hfuel)
    obtain ⟨k, x⟩ := f
    obtain ⟨k', y⟩ := g
    obtain ⟨rfl, hx⟩ : k = k' ∧ ReadAs close x y := hf
    have htail : (prettyText (level + 1) x ++ prettyFields level fs).length < fuel := by
      simp only [prettyFields, List.length_append, List.length_cons] at hfuel ⊢
      omega
    have hcomma : skipSpace (prettyFields level ((k, x) :: fs) ++ rest) =
        ',' :: (newLine (level + 1) ++ (stringText k ++ ':' :: ' ' :: (prettyText (level + 1) x ++
          (prettyFields level fs ++ rest)))) := by
      simp only [prettyFields, List.cons_append, List.append_assoc]
      rfl
    have hdone : done ++ (name, j) :: (k, y) :: gs = done ++ [(name, j)] ++ (k, y) :: gs := by simp
    rw [List.length_append] at hfuel
    refine readFields_next hw (not_mem_keys hnames) (by omega)
      (noNumber_prettyFields level _ rest) hcomma ?_
    rw [(begins_stringText k).skipSpace_newLine, hdone]
    exact ih hx (hdone ▸ hnames) htail

/-- An object in writing is read as what `close` makes of the fields. -/
theorem readAs_obj {fs gs : Fields} (h : List.Forall₂ (FieldReadAs close) fs gs)
    (hnames : (Assoc.keys gs).Nodup) (hclose : close gs = .ok j) : ReadAs close (.obj fs) j := by
  refine ReadAs.intro ?_
  intro level fuel rest hfuel hr
  cases h with
  | nil =>
    show closed close (.ok ([], rest)) = .ok (j, rest)
    simp only [closed, hclose]
  | @cons f g fs gs hf hfs =>
    obtain ⟨k, x⟩ := f
    obtain ⟨k', y⟩ := g
    obtain ⟨rfl, hx⟩ : k = k' ∧ ReadAs close x y := hf
    have hfields : (prettyText (level + 1) x ++ prettyFields level fs).length < fuel := by
      simp only [prettyText, newLine, List.length_append, List.length_cons] at hfuel ⊢
      omega
    have hread : readFields close fuel [] (stringText k ++ ':' :: ' ' :: (prettyText (level + 1) x ++
        (prettyFields level fs ++ rest))) = .ok ((k, y) :: gs, rest) :=
      readFields_prettyFields hx hfs hnames hfields
    rw [prettyText]
    simp only [List.cons_append, List.append_assoc]
    refine readValue_fields (t := escapeAll false k.toList ++ ['"'] ++ ':' :: ' ' ::
      (prettyText (level + 1) x ++ (prettyFields level fs ++ rest))) ?_ hread hclose
    rw [(begins_stringText k).skipSpace_newLine]
    rfl

/-! ## Documents -/

theorem readText_prettyText (h : ReadAs close w j) :
    readText close (prettyText 0 w ++ ['\n']) = .ok j := by
  have hmark : (prettyText 0 w ++ ['\n']).head? ≠ some (Char.ofNat 0xFEFF) := by
    intro hhead
    obtain ⟨c, t, ht, -⟩ := begins_prettyText 0 w
    rw [ht] at hhead
    have hc := printed_prettyText 0 w c (ht ▸ List.mem_cons_self ..)
    obtain rfl : c = Char.ofNat 0xFEFF := Option.some.inj hhead
    exact absurd hc (by decide)
  have hend : NoNumber ['\n'] := noNumber_newLine 0 []
  have hlen : (prettyText 0 w).length ≤ 2 * (prettyText 0 w ++ ['\n']).length + 2 := by
    rw [List.length_append]
    omega
  unfold readText
  rw [if_neg hmark, (begins_prettyText 0 w).skipSpace, h 0 _ _ hlen hend]
  rfl

/-- A document is read as its value is. -/
theorem readWith_document (h : ReadAs close w j) (wrap : ReadError → ε) :
    readWith close wrap (document w) = .ok j := by
  unfold readWith document
  rw [String.toList_ofList]
  dsimp only
  rw [readText_prettyText h]

end BuildRepair.Json
