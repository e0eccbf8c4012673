import BuildRepair.Proofs.Decimal.Writing
import BuildRepair.Proofs.File.Plain
import BuildRepair.Text.Quoted
import Mathlib.Tactic.SplitIfs

/-
  Texts all of whose characters show. Numbers are such texts, and so is any text in quotes
  (`visible_quotedString`), for a character that does not show is written there by its number. No
  line ends in such a text (`Visible.unbroken`).
-/

namespace BuildRepair.Text

variable {c quote : Char} {s t : List Char}

/-- A text of characters that show. -/
def Visible (s : List Char) : Prop := ∀ c ∈ s, isShown c = true

instance (s : List Char) : Decidable (Visible s) := List.decidableBAll (isShown · = true) s

theorem Visible.append (hs : Visible s) (ht : Visible t) : Visible (s ++ t) :=
  List.forall_mem_append.mpr ⟨hs, ht⟩

theorem Visible.cons (hc : isShown c = true) (hs : Visible s) : Visible (c :: s) :=
  List.forall_mem_cons.mpr ⟨hc, hs⟩

theorem isShown_of_isLineEnd (h : isLineEnd c = true) : isShown c = false := by
  have hall : ∀ n ∈ [0xA, 0xB, 0xC, 0xD, 0x1C, 0x1D, 0x1E, 0x85, 0x2028, 0x2029],
      ((0x20 ≤ n && n < 0x7F) || (0x80 ≤ n && !inRanges n hiddenRanges)) = false := by
    decide +kernel
  refine hall c.toNat ?_
  simp only [isLineEnd, Bool.or_eq_true, Bool.and_eq_true, decide_eq_true_eq, beq_iff_eq] at h
  simp only [List.mem_cons, List.not_mem_nil, or_false]
  omega

/-- No line ends in a text that shows. -/
theorem Visible.unbroken (h : Visible s) : ∀ c ∈ s, isLineEnd c = false := by
  intro c hc
  cases hend : isLineEnd c with
  | false => rfl
  | true =>
    have hshown := h c hc
    rw [isShown_of_isLineEnd hend] at hshown
    cases hshown

/-! ## Numbers -/

theorem isShown_of_ascii (h : 0x20 ≤ c.toNat ∧ c.toNat < 0x7F) : isShown c = true := by
  simp [isShown, h]

theorem visible_digits (h : Digits s) : Visible s := by
  intro c hc
  have hdigit := isAsciiDigit_iff.mp (h c hc)
  exact isShown_of_ascii (by omega)

theorem visible_intText (n : Int) : Visible (intText n) := by
  unfold intText
  split
  · exact (visible_digits (digits_natText _)).cons (by decide)
  · exact visible_digits (digits_natText _)

theorem visible_hexText (width n : Nat) : Visible (hexText width n) := by
  have hdigit : ∀ k < 16, isShown (hexDigit k) = true := by decide
  intro c hc
  obtain ⟨k, hk, rfl⟩ := mem_hexText hc
  exact hdigit k hk

theorem visible_numeral (n : Numeral) : Visible n.text := by
  have hmark : Visible ['.', 'e', '-', '+'] := by decide
  intro c hc
  rcases n.mem_text hc with h | h
  · exact visible_digits (s := [c]) (by simpa [Digits] using h) c (by simp)
  · exact hmark c h

/-! ## Quotes -/

theorem isShown_quoteFor (s : List Char) : isShown (quoteFor s) = true := by
  unfold quoteFor
  split <;> decide

theorem visible_quoteChar (hquote : isShown quote = true) (c : Char) :
    Visible (quoteChar quote c) := by
  unfold quoteChar
  split_ifs with hmark hn hr ht hshown
  · rcases hmark with rfl | rfl
    · exact Visible.cons (by decide) (List.forall_mem_singleton.mpr hquote)
    · decide
  · decide
  · decide
  · decide
  · exact List.forall_mem_singleton.mpr hshown
  · dsimp only
    split_ifs
    · exact ((visible_hexText _ _).cons (by decide)).cons (by decide)
    · exact ((visible_hexText _ _).cons (by decide)).cons (by decide)
    · exact ((visible_hexText _ _).cons (by decide)).cons (by decide)

/-- All of a text in quotes shows. -/
theorem visible_quotedString (s : String) : Visible (quotedString s).toList := by
  have hquote := isShown_quoteFor s.toList
  unfold quotedString quoted
  rw [String.toList_ofList]
  refine .append (.cons hquote ?_) (List.forall_mem_singleton.mpr hquote)
  intro c hc
  obtain ⟨d, -, hd⟩ := List.mem_flatMap.mp hc
  exact visible_quoteChar hquote d c hd

end BuildRepair.Text
