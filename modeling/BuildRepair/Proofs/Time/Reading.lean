import BuildRepair.Proofs.Text.Digits
import BuildRepair.Time.Iso
import Mathlib.Data.List.TakeWhile

/-
  Points in time in writing are read back (`read_text`): the year, the month and the day by their
  digits, then the hour, the minute, the second, and the microseconds by up to six decimals
  (`Decimals`). What is behind the time of day is read on its own (`readLocal_of_readTime`).
-/

namespace BuildRepair.Timestamp

open Text (Digits digits_paddedText isAsciiDigit paddedText)

variable {n width : Nat} {rest s : List Char} {d : Date} {t : Timestamp}

/-! ## The parts of a written point -/

/-- A date in writing. -/
def dateText (d : Date) : List Char :=
  paddedText 4 d.year ++ '-' :: (paddedText 2 d.month ++ '-' :: paddedText 2 d.day)

/-- Digits that stand for some microseconds: at most six, which with zeros behind them denote the
number. -/
structure Decimals (n : Nat) (ds : List Char) : Prop where
  digits : Digits ds
  length : ds.length ≤ 6
  value : Text.decimalValue (ds ++ List.replicate (6 - ds.length) '0') = n

/-- The decimals that a point is written with: all six, or none if they are zeros. -/
def decimals (n : Nat) : List Char := if n = 0 then [] else paddedText 6 n

/-- Decimals behind a point; nothing if there are none. -/
def fractionText (ds : List Char) : List Char := if ds = [] then [] else '.' :: ds

/-- A time of day in writing, with some decimals. -/
def clockText (t : Timestamp) (ds : List Char) : List Char :=
  paddedText 2 t.hour ++ ':' :: (paddedText 2 t.minute ++ ':' :: (paddedText 2 t.second ++
    fractionText ds))

theorem paddedText_ne_nil (width n : Nat) : paddedText width n ≠ [] := by
  unfold Text.paddedText
  simp [Text.natText_ne_nil]

theorem decimals_decimals (hn : n < 10 ^ 6) : Decimals n (decimals n) := by
  unfold decimals
  split
  · next h0 =>
    rw [h0]
    exact ⟨fun _ hc => absurd hc List.not_mem_nil, by decide, by decide⟩
  · have hlen := Text.length_paddedText (by decide) hn
    refine ⟨digits_paddedText 6 n, hlen.le, ?_⟩
    rw [hlen, Nat.sub_self, List.replicate_zero, List.append_nil, Text.decimalValue_paddedText]

theorem toList_text (t : Timestamp) :
    t.text.toList = dateText t.date ++ 'T' :: clockText t (decimals t.micro) := by
  have hfraction : fractionText (decimals t.micro) =
      if t.micro = 0 then [] else '.' :: paddedText 6 t.micro := by
    unfold fractionText decimals
    by_cases h0 : t.micro = 0
    · rw [if_pos h0, if_pos h0, if_pos rfl]
    · rw [if_neg h0, if_neg h0, if_neg (paddedText_ne_nil _ _)]
  simp [text, textWith, dateText, clockText, hfraction, List.append_assoc]

/-- The bounds of the parts of a point. -/
theorem bounds (t : Timestamp) : t.date.year < 10 ^ 4 ∧ t.date.month < 10 ^ 2 ∧
    t.date.day < 10 ^ 2 ∧ t.hour < 10 ^ 2 ∧ t.minute < 10 ^ 2 ∧ t.second < 10 ^ 2 ∧
    t.micro < 10 ^ 6 := by
  have hv := t.valid
  have hdays : daysInMonth t.date.year t.date.month ≤ 31 := by
    unfold daysInMonth
    split
    · split <;> decide
    · split <;> decide
  simp only [Date.exists?, Bool.and_eq_true, decide_eq_true_eq] at hv
  omega

/-! ## The characters of a written point -/

theorem mem_paddedText {c : Char} (h : c ∈ paddedText width n) : isAsciiDigit c = true :=
  digits_paddedText width n c h

theorem mem_dateText {c : Char} (h : c ∈ dateText d) : isAsciiDigit c = true ∨ c = '-' := by
  simp only [dateText, List.mem_append, List.mem_cons] at h
  rcases h with h | h | h | h | h
  · exact .inl (mem_paddedText h)
  · exact .inr h
  · exact .inl (mem_paddedText h)
  · exact .inr h
  · exact .inl (mem_paddedText h)

theorem mem_clockText {c : Char} {ds : List Char} (hds : Digits ds) (h : c ∈ clockText t ds) :
    isAsciiDigit c = true ∨ c = ':' ∨ c = '.' := by
  simp only [clockText, List.mem_append, List.mem_cons] at h
  rcases h with h | h | h | h | h | h
  · exact .inl (mem_paddedText h)
  · exact .inr (.inl h)
  · exact .inl (mem_paddedText h)
  · exact .inr (.inl h)
  · exact .inl (mem_paddedText h)
  · unfold fractionText at h
    split at h
    · cases h
    · rcases List.mem_cons.mp h with h | h
      · exact .inr (.inr h)
      · exact .inl (hds c h)

/-- A written point consists of digits and the marks between them. -/
theorem mem_written {c : Char} {ds : List Char} (hds : Digits ds)
    (h : c ∈ dateText t.date ++ 'T' :: clockText t ds) :
    isAsciiDigit c = true ∨ c ∈ ['-', 'T', ':', '.'] := by
  rw [List.mem_append, List.mem_cons] at h
  rcases h with h | rfl | h
  · exact (mem_dateText h).imp_right (by rintro rfl; simp)
  · exact .inr (by simp)
  · exact (mem_clockText hds h).imp_right (by rintro (rfl | rfl) <;> simp)

/-- A digit is none of the marks of a written point. -/
theorem digit_ne {c : Char} (h : isAsciiDigit c = true) :
    c ≠ 'W' ∧ c ≠ 'Z' ∧ c ≠ '+' ∧ c ≠ '-' ∧ c ≠ ':' ∧ c ≠ '.' ∧ c ≠ ',' := by
  refine ⟨?_, ?_, ?_, ?_, ?_, ?_, ?_⟩ <;> (rintro rfl; cases h)

theorem digits?_paddedText (hw : 0 < width) (hn : n < 10 ^ width) (rest : List Char) :
    digits? width (paddedText width n ++ rest) = some (n, rest) := by
  have hlen := Text.length_paddedText hw hn
  have hall : (paddedText width n).all isAsciiDigit = true :=
    List.all_eq_true.mpr (digits_paddedText width n)
  unfold digits?
  dsimp only
  rw [List.take_left' hlen, List.drop_left' hlen, if_pos ⟨hlen, hall⟩,
    Text.decimalValue_paddedText]

theorem two_digits (hn : n < 10 ^ 2) :
    ∃ a b, paddedText 2 n = [a, b] ∧ isAsciiDigit a = true ∧ isAsciiDigit b = true := by
  have hlen := Text.length_paddedText (by decide) hn
  have hd := digits_paddedText 2 n
  match paddedText 2 n, hlen, hd with
  | [a, b], _, hd => exact ⟨a, b, rfl, hd a (by simp), hd b (by simp)⟩

/-! ## Reading -/

theorem separatorPlace_dateText (hy : d.year < 10 ^ 4) (hm : d.month < 10 ^ 2)
    (rest : List Char) : separatorPlace (dateText d ++ rest) = 10 := by
  obtain ⟨a, b, hab, ha, -⟩ := two_digits hm
  have hdrop : (dateText d ++ rest).drop 4 =
      '-' :: a :: b :: ('-' :: paddedText 2 d.day ++ rest) := by
    unfold dateText
    rw [List.append_assoc, List.drop_left' (Text.length_paddedText (by decide) hy), hab]
    rfl
  have hW := (digit_ne ha).1
  unfold separatorPlace
  rw [hdrop]
  split
  · next h => exact absurd (List.cons.inj (List.cons.inj h).2).1 hW
  · next h => exact absurd (List.cons.inj (List.cons.inj h).2).1 hW
  · rfl
  · next h => cases h
  · next h _ => exact absurd rfl (h _)

theorem readDate_dateText (hy : d.year < 10 ^ 4) (hm : d.month < 10 ^ 2) (hd : d.day < 10 ^ 2) :
    readDate (dateText d) = some d := by
  obtain ⟨a, b, hab, ha, -⟩ := two_digits hm
  have hyear := digits?_paddedText (by decide) hy ('-' :: (paddedText 2 d.month ++ '-' ::
    paddedText 2 d.day))
  have hmonth := digits?_paddedText (by decide) hm ('-' :: paddedText 2 d.day)
  have hday := digits?_paddedText (by decide) hd []
  rw [List.append_nil] at hday
  unfold readDate dateText
  rw [hyear]
  simp only [Option.bind_eq_bind, Option.bind_some, List.head?_cons, beq_self_eq_true, if_true,
    List.drop_succ_cons, List.drop_zero]
  split
  · next h =>
    rw [hab] at h
    exact absurd (List.cons.inj h).1 (digit_ne ha).1
  · rw [hmonth]
    simp only [Option.bind_some, hday]
    rfl

theorem readFraction_decimals {ds : List Char} (h : Decimals n ds) (follows : Bool)
    (hour minute second : Nat) :
    readFraction follows hour minute second ds = some ⟨hour, minute, second, n, follows⟩ := by
  have hall : ds.all isAsciiDigit = true := List.all_eq_true.mpr h.digits
  have htake : ds.take 6 = ds := List.take_of_length_le h.length
  have hdrop : ds.drop 6 = [] := List.drop_of_length_le h.length
  unfold readFraction
  simp [htake, hdrop, hall, h.value]

theorem afterDigits_point (follows coloned : Bool) {rest : List Char} (h : rest ≠ []) :
    afterDigits follows coloned ('.' :: rest) = .fraction rest := by
  cases rest with
  | nil => exact absurd rfl h
  | cons c rest => cases coloned <;> rfl

theorem afterDigits_colon (follows : Bool) {rest : List Char} (h : rest ≠ []) :
    afterDigits follows true (':' :: rest) = .part rest := by
  cases rest with
  | nil => exact absurd rfl h
  | cons c rest => rfl

theorem readClock_clockText (t : Timestamp) {ds : List Char} (hds : Decimals t.micro ds)
    (follows : Bool) : readClock follows (clockText t ds) =
      some ⟨t.hour, t.minute, t.second, t.micro, follows⟩ := by
  obtain ⟨-, -, -, hh, hm, hs, -⟩ := t.bounds
  have hne (width n : Nat) (rest : List Char) : paddedText width n ++ rest ≠ [] := by
    simp [paddedText_ne_nil]
  have hsecond := digits?_paddedText (by decide) hs (fractionText ds)
  have hminute := digits?_paddedText (by decide) hm (':' :: (paddedText 2 t.second ++
    fractionText ds))
  have hhour := digits?_paddedText (by decide) hh (':' :: (paddedText 2 t.minute ++ ':' ::
    (paddedText 2 t.second ++ fractionText ds)))
  unfold readClock clockText
  rw [hhour]
  simp only [Option.bind_eq_bind, Option.bind_some, List.head?_cons, beq_self_eq_true]
  rw [afterDigits_colon follows (hne _ _ _)]
  simp only [hminute, Option.bind_some]
  rw [afterDigits_colon follows (hne _ _ _)]
  simp only [hsecond, Option.bind_some]
  by_cases hnone : ds = []
  · have hzero : t.micro = 0 := by
      rw [← hds.value, hnone]
      rfl
    rw [hnone, hzero]
    rfl
  · rw [fractionText, if_neg hnone, afterDigits_point follows true hnone]
    exact readFraction_decimals hds _ _ _ _

/-- No character of a time of day begins an offset. -/
theorem not_beginsOffset {ds : List Char} (hds : Digits ds) :
    ∀ c ∈ clockText t ds, (!beginsOffset c) = true := by
  intro c hc
  rcases mem_clockText hds hc with hd | rfl | rfl
  · obtain ⟨-, hZ, hplus, hminus, -⟩ := digit_ne hd
    simp [beginsOffset, hZ, hplus, hminus]
  · rfl
  · rfl

theorem readTime_clockText (t : Timestamp) {ds : List Char} (hds : Decimals t.micro ds) :
    readTime (clockText t ds) =
      some (⟨t.hour, t.minute, t.second, t.micro, false⟩, none) := by
  have hplain := not_beginsOffset (t := t) hds.digits
  unfold readTime
  dsimp only
  rw [List.takeWhile_eq_self_iff.mpr hplain, List.dropWhile_eq_nil_iff.mpr hplain,
    readClock_clockText t hds]
  rfl

/-- A point is read by its date, and by its time of day with whatever is behind it. -/
theorem readLocal_of_readTime {time : List Char} {leftover : Bool} {offset : Option Int}
    (h : readTime time = some (⟨t.hour, t.minute, t.second, t.micro, leftover⟩, offset)) :
    readLocal (dateText t.date ++ 'T' :: time) = some (t, offset) := by
  obtain ⟨hy, hm, hd, -⟩ := t.bounds
  have hlen : (dateText t.date).length = 10 := by
    unfold dateText
    simp [Text.length_paddedText (by decide) hy, Text.length_paddedText (by decide) hm,
      Text.length_paddedText (by decide) hd]
  have hof : of? t.date t.hour t.minute t.second t.micro = some t := by
    unfold of?
    rw [dif_pos t.valid]
  unfold readLocal
  rw [separatorPlace_dateText hy hm]
  dsimp only
  rw [List.take_left' hlen, List.drop_left' hlen, readDate_dateText hy hm hd]
  simp only [Option.bind_eq_bind, Option.bind_some, h, hof, Option.pure_def]

theorem spellOutZulu_eq_self {s : List Char} (h : ∀ c ∈ s, c ≠ 'Z') : spellOutZulu s = s := by
  induction s with
  | nil => rfl
  | cons c s ih =>
    rw [List.forall_mem_cons] at h
    have hs := ih h.2
    unfold spellOutZulu at hs ⊢
    rw [List.flatMap_cons, if_neg h.1, hs, List.singleton_append]

theorem spellOutZulu_written {ds : List Char} (hds : Digits ds) :
    spellOutZulu (dateText t.date ++ 'T' :: clockText t ds) =
      dateText t.date ++ 'T' :: clockText t ds := by
  refine spellOutZulu_eq_self ?_
  rintro c hc rfl
  rcases mem_written hds hc with hd | hm
  · exact (digit_ne hd).2.1 rfl
  · simp at hm

/-- A point in time is read back where it is written with decimals that stand for its
microseconds. -/
theorem read_written {ds : List Char} {s : String} (hds : Decimals t.micro ds)
    (hs : s.toList = dateText t.date ++ 'T' :: clockText t ds) : Timestamp.read s = .ok t := by
  unfold Timestamp.read
  rw [hs, spellOutZulu_written hds.digits, readLocal_of_readTime (readTime_clockText t hds)]

/-- A point in time is read back from its text. -/
theorem read_text (t : Timestamp) : Timestamp.read t.text = .ok t := by
  obtain ⟨-, -, -, -, -, -, hmicro⟩ := t.bounds
  exact read_written (decimals_decimals hmicro) t.toList_text

end BuildRepair.Timestamp
