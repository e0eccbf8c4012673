import BuildRepair.Json.Printer
import BuildRepair.Json.Reader
import BuildRepair.Proofs.Text.Digits
import Mathlib.Tactic.SplitIfs

/-
  Strings in writing are read back (`readString_escapeAll`), with every character and every half of
  one in its place. Each way of writing a character is read as that character (`stringBody_escape`,
  `stringBody_pairEscape`). A high half waits for the character behind it: the reader holds it back
  exactly when the writer knows that it has just been written (`stringBody_escapeAll`).
-/

namespace BuildRepair.Json

open Text (half? halfDistance hexDigit isHighHalf isHighUnit isLowUnit joinHalves unitChar)

variable {ε : Type} {opening rest s : List Char} {first : Option Nat} {c d : Char} {n : Nat}

theorem prepend_prepend (cs ds : List Char) (x : Read ε (List Char)) :
    prepend cs (prepend ds x) = prepend (cs ++ ds) x := by
  cases x with
  | error e => rfl
  | ok p =>
    obtain ⟨s, r⟩ := p
    simp [prepend]

/-! ## Units -/

theorem unit?_hexDigits (hn : n < 0x10000) :
    unit? (hexDigit (n / 4096 % 16)) (hexDigit (n / 256 % 16)) (hexDigit (n / 16 % 16))
      (hexDigit (n % 16)) = some n := by
  have hvalue (k : Nat) : Text.hexValue? (hexDigit (k % 16)) = some (k % 16) :=
    Text.hexValue?_hexDigit (Nat.mod_lt _ (by decide))
  unfold unit?
  simp only [hvalue, Option.bind_eq_bind, Option.bind_some, Option.pure_def, Option.some.injEq]
  omega

theorem isHighUnit_iff : isHighUnit n = true ↔ 0xD800 ≤ n ∧ n < 0xDC00 := by
  simp [isHighUnit]

theorem isLowUnit_iff : isLowUnit n = true ↔ 0xDC00 ≤ n ∧ n < 0xE000 := by
  simp [isLowUnit]

/-- How the reader goes on after a unit. -/
theorem stringBody_unitEscape (hn : n < 0x10000) (hr : rest ≠ []) :
    stringBody (ε := ε) opening first (unitEscape n ++ rest) =
      match first, isLowUnit n with
      | some m, true => prepend [joinHalves m n] (stringBody opening none rest)
      | _, _ =>
        if isHighUnit n then prepend (alone first) (stringBody opening (some n) rest)
        else prepend (alone first ++ [unitChar n]) (stringBody opening none rest) := by
  have hne : rest.isEmpty = false := by simpa using hr
  unfold unitEscape
  rw [Text.hexText_four]
  simp only [List.cons_append, List.nil_append]
  rewrite [stringBody, hne, unit?_hexDigits hn]
  rfl

/-- A low unit joins the high one before it. -/
theorem stringBody_joined {m : Nat} (hn : isLowUnit n = true) (hr : rest ≠ []) :
    stringBody (ε := ε) opening (some m) (unitEscape n ++ rest) =
      prepend [joinHalves m n] (stringBody opening none rest) := by
  have hlow := isLowUnit_iff.mp hn
  rw [stringBody_unitEscape (by omega) hr, hn]

/-- A high unit waits. -/
theorem stringBody_waiting (hn : isHighUnit n = true) (hr : rest ≠ []) :
    stringBody (ε := ε) opening first (unitEscape n ++ rest) =
      prepend (alone first) (stringBody opening (some n) rest) := by
  have hhigh := isHighUnit_iff.mp hn
  have hlow : isLowUnit n = false := by
    rw [Bool.eq_false_iff, ne_eq, isLowUnit_iff]
    omega
  rw [stringBody_unitEscape (by omega) hr, hlow, hn]
  cases first <;> rfl

/-- Any other unit stands for its character. -/
theorem stringBody_single (hn : n < 0x10000) (hh : isHighUnit n = false)
    (hl : isLowUnit n = true → first = none) (hr : rest ≠ []) :
    stringBody (ε := ε) opening first (unitEscape n ++ rest) =
      prepend (alone first ++ [unitChar n]) (stringBody opening none rest) := by
  rw [stringBody_unitEscape hn hr, hh]
  cases hlow : isLowUnit n with
  | true =>
    rw [hl hlow]
    rfl
  | false => cases first <;> rfl

/-! ## Characters -/

theorem toNat_lt (c : Char) : c.toNat < 0x110000 := by
  rcases c.valid with h | h
  · exact Nat.lt_trans h (by decide)
  · exact h.2

/-- No character is a unit that is a half. -/
theorem not_half (c : Char) : isHighUnit c.toNat = false ∧ isLowUnit c.toNat = false := by
  have hv : c.toNat < 0xD800 ∨ 0xDFFF < c.toNat ∧ c.toNat < 0x110000 := c.valid
  simp only [Bool.eq_false_iff, ne_eq, isHighUnit_iff, isLowUnit_iff]
  omega

theorem unitChar_toNat (c : Char) : unitChar c.toNat = c := by
  obtain ⟨hh, hl⟩ := not_half c
  unfold unitChar
  rw [hh, hl]
  exact Char.ofNat_toNat c

/-- A character above U+FFFF is read back from its two halves. -/
theorem stringBody_pairEscape (hc : 0x10000 ≤ c.toNat) (hr : rest ≠ []) :
    stringBody (ε := ε) opening first (pairEscape c ++ rest) =
      prepend (alone first ++ [c]) (stringBody opening none rest) := by
  have hlt := toNat_lt c
  generalize hn : c.toNat - 0x10000 = n at *
  have hhigh : isHighUnit (0xD800 + n / 0x400) = true := isHighUnit_iff.mpr (by omega)
  have hlow : isLowUnit (0xDC00 + n % 0x400) = true := isLowUnit_iff.mpr (by omega)
  have hjoin : joinHalves (0xD800 + n / 0x400) (0xDC00 + n % 0x400) = c := by
    have hvalue : 0x10000 + (0xD800 + n / 0x400 - 0xD800) * 0x400 +
        (0xDC00 + n % 0x400 - 0xDC00) = c.toNat := by omega
    unfold joinHalves
    rw [hvalue]
    exact Char.ofNat_toNat c
  unfold pairEscape
  dsimp only
  rw [hn, List.append_assoc, stringBody_waiting hhigh (by simp [unitEscape]),
    stringBody_joined hlow hr, prepend_prepend, hjoin]

/-- A backslash and a letter are read as the character that the letter stands for. -/
theorem stringBody_letter (hd : simpleEscape? c = some d) :
    stringBody (ε := ε) opening first ('\\' :: c :: rest) =
      prepend (alone first ++ [d]) (stringBody opening none rest) := by
  have hu : c ≠ 'u' := by
    rintro rfl
    exact absurd hd (by simp [simpleEscape?])
  rw [stringBody.eq_6 opening first c rest (fun _ _ _ _ _ h _ => hu h) hu, hd]

/-- A printable character is read as itself. -/
theorem stringBody_printable (hq : c ≠ '"') (hb : c ≠ '\\') (hc : 0x20 ≤ c.toNat) :
    stringBody (ε := ε) opening first (c :: rest) =
      prepend (alone first ++ [c]) (stringBody opening none rest) := by
  rw [stringBody.eq_7 opening first c rest hq (fun h _ => hb h) (fun _ _ _ _ _ h _ => hb h)
    (fun _ h _ => hb h) (fun _ _ h _ => hb h), if_neg (by omega)]

/-- A character is read back from the way it is written. -/
theorem stringBody_escape (hr : rest ≠ []) :
    stringBody (ε := ε) opening first (escape c ++ rest) =
      prepend (alone first ++ [c]) (stringBody opening none rest) := by
  have hchar (k : Nat) (h : c.toNat = k) : Char.ofNat k = c := h ▸ Char.ofNat_toNat c
  unfold escape
  split_ifs with hmark hn hr' ht hb hf hprintable hunit
  · exact stringBody_letter (by rcases hmark with rfl | rfl <;> rfl)
  · exact stringBody_letter (hn ▸ rfl)
  · exact stringBody_letter (hr' ▸ rfl)
  · exact stringBody_letter (ht ▸ rfl)
  · exact stringBody_letter (congrArg some (hchar _ hb))
  · exact stringBody_letter (congrArg some (hchar _ hf))
  · rw [not_or] at hmark
    exact stringBody_printable hmark.1 hmark.2 hprintable.1
  · obtain ⟨hh, hl⟩ := not_half c
    rw [stringBody_single hunit hh (by simp [hl]) hr, unitChar_toNat]
  · exact stringBody_pairEscape (by omega) hr

/-! ## Texts -/

/-- What a character that stands for a half is. -/
theorem half?_eq_some (h : half? c = some n) :
    c = unitChar n ∧ (isHighUnit n || isLowUnit n) = true ∧ c.toNat = n + 0xD0000 := by
  unfold half? halfDistance at h
  dsimp only at h
  split at h
  · next hunit =>
    have hn := Option.some.inj h
    have hbounds : 0xD800 ≤ n ∧ n < 0xE000 := by
      rw [hn, Bool.or_eq_true, isHighUnit_iff, isLowUnit_iff] at hunit
      omega
    have hc : c.toNat = n + 0xD0000 := by omega
    rw [hn] at hunit
    refine ⟨?_, hunit, hc⟩
    unfold unitChar
    rw [if_pos hunit, halfDistance, ← hc]
    exact (Char.ofNat_toNat c).symm
  · cases h

/-- A half is written so that it does not join the high half before it. -/
theorem stringBody_half (hn : half? c = some n) (hr : rest ≠ []) :
    stringBody (ε := ε) opening first
        ((if first.isSome && isLowUnit n then pairEscape c else unitEscape n) ++ rest) =
      if isHighUnit n then prepend (alone first) (stringBody opening (some n) rest)
      else prepend (alone first ++ [c]) (stringBody opening none rest) := by
  obtain ⟨hc, hunit, hvalue⟩ := half?_eq_some hn
  rw [Bool.or_eq_true, isHighUnit_iff, isLowUnit_iff] at hunit
  cases hh : isHighUnit n with
  | true =>
    have hlow : isLowUnit n = false := by
      rw [isHighUnit_iff] at hh
      rw [Bool.eq_false_iff, ne_eq, isLowUnit_iff]
      omega
    rw [hlow, Bool.and_false, if_neg Bool.false_ne_true, if_pos rfl]
    exact stringBody_waiting hh hr
  | false =>
    rw [if_neg Bool.false_ne_true]
    split
    · exact stringBody_pairEscape (by omega) hr
    · next hlone =>
      have hfirst : isLowUnit n = true → first = none := by
        intro hl
        rw [hl, Bool.and_true, Bool.not_eq_true, Option.isSome_eq_false_iff,
          Option.isNone_iff_eq_none] at hlone
        exact hlone
      rw [hc]
      exact stringBody_single (by omega) hh hfirst hr

/-- By induction on the text; `first` is the high half that was written last, which the reader
still holds. -/
theorem stringBody_escapeAll (first : Option Nat) (s : List Char) :
    stringBody (ε := ε) opening first (escapeAll first.isSome s ++ '"' :: rest) =
      .ok (alone first ++ s, rest) := by
  induction s generalizing first with
  | nil => rw [escapeAll, List.nil_append, stringBody, List.append_nil]
  | cons c s ih =>
    have hne (b : Bool) : escapeAll b s ++ '"' :: rest ≠ [] := by simp
    have hnone : stringBody (ε := ε) opening none (escapeAll false s ++ '"' :: rest) =
        .ok (s, rest) := ih none
    have hsome (m : Nat) : stringBody (ε := ε) opening (some m)
        (escapeAll true s ++ '"' :: rest) = .ok (unitChar m :: s, rest) := ih (some m)
    unfold escapeAll
    dsimp only
    rw [List.append_assoc]
    split
    · next n hn =>
      have hhigh : isHighHalf c = isHighUnit n := by rw [isHighHalf, hn, Option.any_some]
      rw [hhigh, stringBody_half hn (hne _)]
      cases hh : isHighUnit n with
      | true =>
        rw [if_pos rfl, hsome, ← (half?_eq_some hn).1]
        rfl
      | false =>
        rw [if_neg Bool.false_ne_true, hnone]
        simp [prepend]
    · next hn =>
      have hhigh : isHighHalf c = false := by rw [isHighHalf, hn, Option.any_none]
      rw [hhigh, stringBody_escape (hne _), hnone]
      simp [prepend]

/-- A string is read back from its writing, from after the opening quote on. -/
theorem readString_escapeAll (s : String) :
    readString (ε := ε) (escapeAll false s.toList ++ '"' :: rest) = .ok (s, rest) := by
  have h : stringBody (ε := ε) ('"' :: (escapeAll false s.toList ++ '"' :: rest)) none
      (escapeAll false s.toList ++ '"' :: rest) = .ok (alone none ++ s.toList, rest) :=
    stringBody_escapeAll none s.toList
  unfold readString
  rw [h, alone, List.nil_append]
  dsimp only
  rw [String.ofList_toList]

end BuildRepair.Json
