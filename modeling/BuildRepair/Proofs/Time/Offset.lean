import BuildRepair.Proofs.Time.Calendar
import BuildRepair.Proofs.Time.Reading

/-
  Texts with an offset denote instants. `Denotes d s`: the text `s` is that of the point `d`, with
  or without the mark of universal time, or that of the point which is later by an offset of whole
  minutes, with this offset behind it. Whatever carry lies between the two, the text is read as `d`
  (`Denotes.read`).
-/

namespace BuildRepair.Timestamp

open Text (paddedText)

/-- An offset from universal time of whole minutes, less than a day. -/
structure Offset where
  /-- Whether the time with the offset is behind universal time. -/
  behind : Bool
  hour : Nat
  minute : Nat
  hour_lt : hour < 24
  minute_lt : minute < 60

namespace Offset

/-- The microseconds that a time with the offset is ahead. -/
def micros (o : Offset) : Int :=
  (if o.behind then -1 else 1) * ((o.hour * 60 + o.minute) * 60000000 : Nat)

/-- An offset in writing: `+05:30`. -/
def text (o : Offset) : String :=
  String.ofList ((if o.behind then '-' else '+') ::
    (paddedText 2 o.hour ++ ':' :: paddedText 2 o.minute))

end Offset

variable {d e t : Timestamp} {o : Offset} {s : String} {ds : List Char}

/-- A text of a point, with up to six decimals that stand for its microseconds. -/
def Written (t : Timestamp) (s : String) : Prop :=
  ∃ ds, Decimals t.micro ds ∧ s.toList = dateText t.date ++ 'T' :: clockText t ds

/-- A text that denotes a point in universal time. -/
inductive Denotes (d : Timestamp) : String → Prop
  /-- Without an offset it denotes the point that is written. -/
  | plain {s : String} (h : Written d s) : Denotes d s
  | universal {s : String} (h : Written d s) : Denotes d (s ++ "Z")
  /-- With an offset, the point that is written is as much later. -/
  | offset {s : String} {e : Timestamp} (o : Offset) (h : Written e s)
      (he : e.instant = d.instant + o.micros) : Denotes d (s ++ o.text)

theorem written_text (t : Timestamp) : Written t t.text := by
  obtain ⟨-, -, -, -, -, -, hmicro⟩ := t.bounds
  exact ⟨_, decimals_decimals hmicro, t.toList_text⟩

/-! ## Offsets -/

theorem Offset.micros_lt (o : Offset) : o.micros.natAbs < dayLength := by
  have hh := o.hour_lt
  have hm := o.minute_lt
  unfold micros dayLength
  split <;> omega

/-- Hours and minutes without seconds. -/
theorem readClock_offset (o : Offset) :
    readClock false (paddedText 2 o.hour ++ ':' :: paddedText 2 o.minute) =
      some ⟨o.hour, o.minute, 0, 0, false⟩ := by
  have hh := o.hour_lt
  have hm := o.minute_lt
  have hhour := digits?_paddedText (by decide) (show o.hour < 10 ^ 2 by omega)
    (':' :: paddedText 2 o.minute)
  have hminute := digits?_paddedText (by decide) (show o.minute < 10 ^ 2 by omega) []
  rw [List.append_nil] at hminute
  unfold readClock
  rw [hhour]
  simp only [Option.bind_eq_bind, Option.bind_some, List.head?_cons, beq_self_eq_true]
  rw [afterDigits_colon false (paddedText_ne_nil _ _)]
  simp only [hminute, Option.bind_some]
  rfl

theorem readOffset_text (o : Offset) : readOffset o.text.toList = some o.micros := by
  have hh := o.hour_lt
  have hm := o.minute_lt
  have hclock := readClock_offset o
  have hsign (sign : Char) (hs : sign ≠ 'Z') :
      readOffset (sign :: (paddedText 2 o.hour ++ ':' :: paddedText 2 o.minute)) =
        some (if sign = '-' then -(((o.hour * 60 + o.minute) * 60000000 : Nat) : Int)
          else ((o.hour * 60 + o.minute) * 60000000 : Nat)) := by
    have hsize : (if (o.hour * 60 + o.minute) * 60 + 0 = 0 then 0
        else ((o.hour * 60 + o.minute) * 60 + 0) * 1000000 + 0) =
        (o.hour * 60 + o.minute) * 60000000 := by
      split <;> omega
    have hday : ¬ dayLength ≤ (o.hour * 60 + o.minute) * 60000000 := by
      unfold dayLength
      omega
    unfold readOffset
    split
    · next h => exact absurd (List.cons.inj h).1 hs
    · next h => exact absurd (List.cons.inj h).1 hs
    · next h =>
      cases h
      simp only [hclock, Option.bind_eq_bind, Option.bind_some, hsize, hday, Bool.false_eq_true,
        or_self, if_false]
    · next h => cases h
  unfold Offset.text Offset.micros
  rw [String.toList_ofList, hsign _ (by split <;> decide)]
  cases o.behind <;> simp

/-! ## Reading -/

theorem readTime_offset {after : List Char} {offset : Int} {c : Char} (hds : Decimals t.micro ds)
    (hc : beginsOffset c = true) (h : readOffset (c :: after) = some offset) :
    readTime (clockText t ds ++ c :: after) =
      some (⟨t.hour, t.minute, t.second, t.micro, true⟩, some offset) := by
  have hplain := not_beginsOffset (t := t) hds.digits
  have htake : (clockText t ds ++ c :: after).takeWhile (!beginsOffset ·) = clockText t ds := by
    rw [List.takeWhile_append_of_pos hplain, List.takeWhile_cons_of_neg (by simp [hc]),
      List.append_nil]
  have hdrop : (clockText t ds ++ c :: after).dropWhile (!beginsOffset ·) = c :: after := by
    rw [List.dropWhile_append_of_pos hplain, List.dropWhile_cons_of_neg (by simp [hc])]
  unfold readTime
  dsimp only
  rw [htake, hdrop]
  simp only [readClock_clockText t hds, Option.bind_eq_bind, Option.bind_some, h]

theorem spellOutZulu_append (s r : List Char) :
    spellOutZulu (s ++ r) = spellOutZulu s ++ spellOutZulu r := List.flatMap_append

theorem beginsOffset_text (o : Offset) :
    ∃ c after, o.text.toList = c :: after ∧ beginsOffset c = true := by
  unfold Offset.text
  rw [String.toList_ofList]
  exact ⟨_, _, rfl, by split <;> rfl⟩

theorem spellOutZulu_text (o : Offset) : spellOutZulu o.text.toList = o.text.toList := by
  refine spellOutZulu_eq_self ?_
  unfold Offset.text
  rw [String.toList_ofList]
  rintro c hc rfl
  simp only [List.mem_cons, List.mem_append] at hc
  rcases hc with hc | hc | hc | hc
  · split at hc <;> cases hc
  · exact (digit_ne (mem_paddedText hc)).2.1 rfl
  · cases hc
  · exact (digit_ne (mem_paddedText hc)).2.1 rfl

/-- A point with an offset behind it is read as the point whose instant lies so much earlier. -/
theorem read_offset (h : Written e s) (he : e.instant = d.instant + o.micros) :
    Timestamp.read (s ++ o.text) = .ok d := by
  obtain ⟨ds, hds, hs⟩ := h
  obtain ⟨c, after, hafter, hc⟩ := beginsOffset_text o
  have htime := readTime_offset (t := e) hds hc (hafter ▸ readOffset_text o)
  have hminus : e.minus? o.micros = some d :=
    (minus?_eq_some_iff o.micros_lt).mpr (by omega)
  unfold Timestamp.read
  rw [String.toList_append, spellOutZulu_append, spellOutZulu_text, hs,
    spellOutZulu_written hds.digits, hafter, List.append_assoc, List.cons_append,
    readLocal_of_readTime htime]
  dsimp only
  rw [hminus]

/-- No offset at all, as which the mark of universal time is read. -/
def Offset.none : Offset := ⟨false, 0, 0, by decide, by decide⟩

/-- Every text that denotes a point is read as this point. -/
theorem Denotes.read (h : Denotes d s) : Timestamp.read s = .ok d := by
  cases h with
  | plain h =>
    obtain ⟨ds, hds, hs⟩ := h
    exact read_written hds hs
  | @universal s h =>
    have hzero : d.instant = d.instant + Offset.none.micros := by
      unfold Offset.none Offset.micros
      simp
    have hsame : Timestamp.read (s ++ "Z") = Timestamp.read (s ++ Offset.none.text) := by
      unfold Timestamp.read
      rw [String.toList_append, String.toList_append, spellOutZulu_append, spellOutZulu_append]
      rfl
    rw [hsame]
    exact read_offset h hzero
  | offset o h he => exact read_offset h he

end BuildRepair.Timestamp
