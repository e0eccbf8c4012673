import BuildRepair.Proofs.Json.Numbers
import BuildRepair.Text.Line
import Mathlib.Tactic.SplitIfs

/-
  Values in writing consist of printable ASCII characters and line feeds (`printed_prettyText`):
  whatever else a string holds is escaped. So a document that was written stays as it is when a
  file of it is read as text (`unifyLineEnds_document`).
-/

namespace BuildRepair.Json

variable {s t : List Char} {c : Char}

/-- A text of printable ASCII characters and line feeds. -/
def Printed (s : List Char) : Prop := ∀ c ∈ s, c = '\n' ∨ 0x20 ≤ c.toNat ∧ c.toNat < 0x7F

theorem Printed.append (hs : Printed s) (ht : Printed t) : Printed (s ++ t) :=
  List.forall_mem_append.mpr ⟨hs, ht⟩

theorem Printed.cons (hc : 0x20 ≤ c.toNat ∧ c.toNat < 0x7F) (hs : Printed s) : Printed (c :: s) :=
  List.forall_mem_cons.mpr ⟨.inr hc, hs⟩

theorem printed_nil : Printed [] := by simp [Printed]

/-- Fixed marks are checked one by one. -/
theorem printed_of_all (h : s.all fun c => 0x20 ≤ c.toNat && c.toNat < 0x7F) : Printed s := by
  intro c hc
  have := List.all_eq_true.mp h c hc
  rw [Bool.and_eq_true, decide_eq_true_eq, decide_eq_true_eq] at this
  exact .inr this

theorem printed_digits (h : Text.Digits s) : Printed s := by
  intro c hc
  have := Text.isAsciiDigit_iff.mp (h c hc)
  omega

/-! ## Strings -/

theorem printed_unitEscape (n : Nat) : Printed (unitEscape n) := by
  have hdigit : ∀ k < 16, 0x20 ≤ (Text.hexDigit k).toNat ∧ (Text.hexDigit k).toNat < 0x7F := by
    decide
  have hmod (k : Nat) := hdigit (k % 16) (Nat.mod_lt k (by decide))
  unfold unitEscape
  rw [Text.hexText_four]
  exact (((((printed_nil.cons (hmod _)).cons (hmod _)).cons (hmod _)).cons (hmod _)).cons
    (by decide)).cons (by decide)

theorem printed_pairEscape (c : Char) : Printed (pairEscape c) :=
  (printed_unitEscape _).append (printed_unitEscape _)

theorem printed_escape (c : Char) : Printed (escape c) := by
  unfold escape
  split_ifs with hmark hn hr ht hb hf hprintable hunit
  · rcases hmark with rfl | rfl <;> exact printed_of_all (by decide)
  · exact printed_of_all (by decide)
  · exact printed_of_all (by decide)
  · exact printed_of_all (by decide)
  · exact printed_of_all (by decide)
  · exact printed_of_all (by decide)
  · exact printed_nil.cons hprintable
  · exact printed_unitEscape _
  · exact printed_pairEscape c

theorem printed_escapeAll (afterHigh : Bool) (s : List Char) : Printed (escapeAll afterHigh s) := by
  induction s generalizing afterHigh with
  | nil => exact printed_nil
  | cons c s ih =>
    unfold escapeAll
    refine Printed.append ?_ (ih _)
    split
    · split
      · exact printed_pairEscape c
      · exact printed_unitEscape _
    · exact printed_escape c

theorem printed_stringText (s : String) : Printed (stringText s) :=
  ((printed_escapeAll false s.toList).append (printed_of_all (by decide))).cons (by decide)

/-! ## Values -/

theorem printed_numeral (negative : Bool) (n : Numeral) :
    Printed (signText negative ++ n.text) := by
  refine Printed.append ?_ ?_
  · cases negative <;> exact printed_of_all (by decide)
  · intro c hc
    rcases n.mem_text hc with h | h
    · have := Text.isAsciiDigit_iff.mp h
      omega
    · have hall : ∀ d ∈ ['.', 'e', '-', '+'], 0x20 ≤ d.toNat ∧ d.toNat < 0x7F := by
        simp
      exact .inr (hall c h)

theorem printed_atomText (w : Json) : Printed (atomText w) := by
  cases w with
  | null => exact printed_of_all (by decide)
  | bool b => cases b <;> exact printed_of_all (by decide)
  | int n =>
    rw [atomText, intText_eq]
    refine Printed.append ?_ (printed_digits (Text.digits_natText _))
    cases decide (n < 0) <;> exact printed_of_all (by decide)
  | real x =>
    cases x with
    | finite negative m e =>
      obtain ⟨n, hn⟩ := Binary64.textWith_finite "Infinity" "NaN" negative m e
      rw [atomText, hn]
      exact printed_numeral negative n
    | infinite negative => cases negative <;> exact printed_of_all (by decide)
    | nan => exact printed_of_all (by decide)
  | str s => exact printed_stringText s
  | arr =>
    show Printed ['[', ']']
    exact printed_of_all (by decide)
  | obj =>
    show Printed ['\x7b', '\x7d']
    exact printed_of_all (by decide)
  | date t => exact printed_stringText t.text

theorem printed_newLine (level : Nat) : Printed (newLine level) := by
  intro c hc
  rcases List.mem_cons.mp hc with rfl | hc
  · exact .inl rfl
  · rw [List.eq_of_mem_replicate hc]
    exact .inr (by decide)

mutual
theorem printed_prettyText (level : Nat) : ∀ w : Json, Printed (prettyText level w)
  | .arr (x :: xs) => by
    rw [prettyText]
    exact (((printed_newLine _).cons (by decide)).append (printed_prettyText _ x)).append
      (printed_prettyItems level xs)
  | .obj ((k, x) :: fs) => by
    rw [prettyText]
    exact ((((printed_newLine _).cons (by decide)).append (printed_stringText k)).append
      (((printed_prettyText _ x).cons (by decide)).cons (by decide))).append
      (printed_prettyFields level fs)
  | .arr [] | .obj [] | .null | .bool _ | .int _ | .real _ | .str _ | .date _ =>
    printed_atomText _
theorem printed_prettyItems (level : Nat) : ∀ ws : List Json, Printed (prettyItems level ws)
  | [] => (printed_newLine _).append (printed_of_all (by decide))
  | x :: xs =>
    (((printed_newLine _).cons (by decide)).append (printed_prettyText _ x)).append
      (printed_prettyItems level xs)
theorem printed_prettyFields (level : Nat) : ∀ fs : Fields, Printed (prettyFields level fs)
  | [] => (printed_newLine _).append (printed_of_all (by decide))
  | (k, x) :: fs =>
    ((((printed_newLine _).cons (by decide)).append (printed_stringText k)).append
      (((printed_prettyText _ x).cons (by decide)).cons (by decide))).append
      (printed_prettyFields level fs)
end

/-! ## Documents -/

theorem printed_document (w : Json) : Printed (document w).toList := by
  unfold document
  rw [String.toList_ofList]
  refine (printed_prettyText 0 w).append ?_
  intro c hc
  exact .inl (List.mem_singleton.mp hc)

theorem unifyLineEnds_eq_self (h : '\r' ∉ s) : Text.unifyLineEnds s = s := by
  induction s with
  | nil => rfl
  | cons c s ih =>
    rw [List.mem_cons, not_or] at h
    have hc : c ≠ '\r' := Ne.symm h.1
    rw [Text.unifyLineEnds, if_neg hc, ih h.2]
    exact fun _ heq _ => hc heq

/-- A document that was written is the same text when it is read from a file. -/
theorem unifyLineEnds_document (w : Json) :
    Text.unifyLineEnds (document w).toList = (document w).toList := by
  refine unifyLineEnds_eq_self ?_
  intro hc
  rcases printed_document w '\r' hc with h | h
  · exact absurd h (by decide)
  · exact absurd h (by decide)

end BuildRepair.Json
