import BuildRepair.Proofs.Text.Lines
import Mathlib.Data.List.Induction

/-
  How a text is broken into lines. A carriage return with a line feed ends one line, so texts are
  taken apart with these two as one (`lines_induction`). A text is broken at a line feed whatever
  stands on its two sides (`lines_append_newline`), and one at the end of the text adds no line
  (`lines_concat_newline`). Every line end is a blank, and trimming a text keeps each line that has
  no blank at either end (`mem_lines_trim`).
-/

namespace BuildRepair.Text

variable {c : Char} {s line : List Char}

/-! ## Breaking -/

theorem isBlank_of_isLineEnd (h : isLineEnd c = true) : isBlank c = true := by
  simp only [isLineEnd, isBlank, Bool.or_eq_true, Bool.and_eq_true, decide_eq_true_eq,
    beq_iff_eq] at h ⊢
  omega

/-- The end of a line, but for a carriage return in front of a line feed. -/
theorem lines_end (hc : isLineEnd c = true) (h : c = '\r' → s.head? ≠ some '\n') :
    lines (c :: s) = [] :: lines s := by
  rw [lines]
  · rw [if_pos hc]
  · rintro t hr rfl
    exact h hr rfl

/-- A character of a line goes in front of the line that follows. -/
theorem lines_cons (hc : isLineEnd c = false) (s : List Char) :
    lines (c :: s) = (c :: (lines s).headD []) :: (lines s).tail := by
  rw [lines]
  · rw [if_neg (by simp [hc])]
    cases lines s <;> rfl
  · rintro t rfl
    cases hc

/-- What holds of the empty text, and of a text behind any character if it holds of that text, holds
of every text. The two characters that end one line count as one. -/
theorem lines_induction {motive : List Char → Prop} (nil : motive [])
    (both : ∀ s, motive s → motive ('\r' :: '\n' :: s))
    (ending : ∀ c s, isLineEnd c = true → (c = '\r' → s.head? ≠ some '\n') → motive s →
      motive (c :: s))
    (char : ∀ c s, isLineEnd c = false → motive s → motive (c :: s)) (s : List Char) :
    motive s := by
  have hhead {c : Char} {s : List Char} (h : ∀ t, c = '\r' → s = '\n' :: t → False) :
      c = '\r' → s.head? ≠ some '\n' := by
    intro hr hn
    obtain ⟨t, rfl⟩ := List.head?_eq_some_iff.mp hn
    exact h t hr rfl
  induction s using lines.induct with
  | case1 => exact nil
  | case2 s ih => exact both s ih
  | case3 c s h hc ih => exact ending c s hc (hhead h) ih
  | case4 c s _ hc _ ih => exact char c s (by simpa using hc) ih
  | case5 c s _ hc _ _ _ ih => exact char c s (by simpa using hc) ih

theorem lines_eq_nil_iff : lines s = [] ↔ s = [] := by
  induction s using lines_induction with
  | nil => simp [lines]
  | both s _ => simp [lines]
  | ending c s hc h _ => simp [lines_end hc h]
  | char c s hc _ => simp [lines_cons hc]

/-- A text is broken at a line feed. -/
theorem lines_append_newline (s t : List Char) :
    lines (s ++ '\n' :: t) = lines (s ++ ['\n']) ++ lines t := by
  induction s using lines_induction with
  | nil => rfl
  | both s ih => simpa [lines] using ih
  | ending c s hc h ih =>
    by_cases hr : c = '\r' ∧ s = []
    · obtain ⟨rfl, rfl⟩ := hr
      rfl
    · have hhead (r : List Char) : c = '\r' → (s ++ r).head? ≠ some '\n' := by
        intro hc
        rw [List.head?_append_of_ne_nil _ fun hs => hr ⟨hc, hs⟩]
        exact h hc
      rw [List.cons_append, List.cons_append, lines_end hc (hhead _), lines_end hc (hhead _), ih]
      rfl
  | char c s hc ih =>
    have hne : lines (s ++ ['\n']) ≠ [] := by simp [lines_eq_nil_iff]
    obtain ⟨first, rest, hlines⟩ := List.exists_cons_of_ne_nil hne
    rw [List.cons_append, List.cons_append, lines_cons hc, lines_cons hc, ih, hlines]
    rfl

/-- A line feed at its end changes nothing of a text whose last line goes on. -/
theorem lines_concat_newline (hlast : ∃ c ∈ s.getLast?, isLineEnd c = false) :
    lines (s ++ ['\n']) = lines s := by
  have hbehind {c : Char} {s : List Char} (hc : isLineEnd c = true)
      (h : ∃ d ∈ (c :: s).getLast?, isLineEnd d = false) :
      s ≠ [] ∧ ∃ d ∈ s.getLast?, isLineEnd d = false := by
    cases s with
    | nil => simp [hc] at h
    | cons d s => exact ⟨by simp, by simpa using h⟩
  induction s using lines_induction with
  | nil => simp at hlast
  | both s ih =>
    have hs := hbehind (by decide) (hbehind (by decide) hlast).2
    rw [List.cons_append, List.cons_append, lines, lines, ih hs.2]
  | ending c s hc h ih =>
    obtain ⟨hne, hs⟩ := hbehind hc hlast
    have hhead : c = '\r' → (s ++ ['\n']).head? ≠ some '\n' := by
      rwa [List.head?_append_of_ne_nil _ hne]
    rw [List.cons_append, lines_end hc hhead, lines_end hc h, ih hs]
  | char c s hc ih =>
    rw [List.cons_append, lines_cons hc, lines_cons hc]
    by_cases hs : s = []
    · rw [hs]
      rfl
    · rw [ih (by rwa [List.getLast?_cons_of_ne_nil hs] at hlast)]

/-- A text without line ends is one line. -/
theorem lines_of_line (hne : s ≠ []) (h : ∀ c ∈ s, isLineEnd c = false) : lines s = [s] := by
  induction s with
  | nil => exact absurd rfl hne
  | cons c s ih =>
    obtain ⟨hc, hs⟩ := List.forall_mem_cons.mp h
    rw [lines_cons hc]
    cases s with
    | nil => rfl
    | cons d s =>
      rw [ih (by simp) hs]
      rfl

/-! ## Lines of a trimmed text -/

theorem lines_trimmed_newline (h : Trimmed s) : lines (s ++ ['\n']) = lines s := by
  refine lines_concat_newline ⟨s.getLast h.ne_nil, List.getLast?_eq_some_getLast h.ne_nil, ?_⟩
  have hlast := h.last _ (List.getLast?_eq_some_getLast h.ne_nil)
  exact Bool.eq_false_iff.mpr fun hend => by simp [isBlank_of_isLineEnd hend] at hlast

/-- A line that shows at both ends stays one when a blank in front of the text goes. -/
theorem mem_lines_of_cons (hl : Trimmed line) (hc : isBlank c = true) (h : line ∈ lines (c :: s)) :
    line ∈ lines s := by
  cases hend : isLineEnd c with
  | true =>
    by_cases hr : c = '\r' → s.head? ≠ some '\n'
    · rw [lines_end hend hr] at h
      exact (List.mem_cons.mp h).resolve_left hl.ne_nil
    · push Not at hr
      obtain ⟨rfl, hn⟩ := hr
      obtain ⟨t, rfl⟩ := List.head?_eq_some_iff.mp hn
      exact h
  | false =>
    rw [lines_cons hend] at h
    rcases List.mem_cons.mp h with rfl | h
    · have hhead := hl.head c rfl
      rw [hc] at hhead
      cases hhead
    · exact List.mem_of_mem_tail h

/-- What becomes of the lines of a text when a character follows: nothing, or a line begins, or the
last one goes on. -/
inductive GoOn (c : Char) : List (List Char) → List (List Char) → Prop
  | same (ls : List (List Char)) : GoOn c ls ls
  | begins (ls : List (List Char)) (line : List Char) (h : line = [] ∨ line = [c]) :
      GoOn c ls (ls ++ [line])
  | longer (ls : List (List Char)) (line : List Char) :
      GoOn c (ls ++ [line]) (ls ++ [line ++ [c]])

theorem GoOn.cons {ls ms : List (List Char)} (h : GoOn c ls ms) (line : List Char) :
    GoOn c (line :: ls) (line :: ms) := by
  cases h with
  | same => exact .same _
  | begins _ tail h => exact .begins (line :: ls) tail h
  | longer before tail => exact .longer (line :: before) tail

theorem lines_concat (s : List Char) (c : Char) : GoOn c (lines s) (lines (s ++ [c])) := by
  induction s using lines_induction with
  | nil =>
    cases hc : isLineEnd c with
    | true =>
      rw [List.nil_append, lines_end hc (by simp)]
      exact .begins [] [] (.inl rfl)
    | false =>
      rw [List.nil_append, lines_cons hc]
      exact .begins [] [c] (.inr rfl)
  | both s ih => exact ih.cons []
  | ending d s hd h ih =>
    by_cases hr : d = '\r' → (s ++ [c]).head? ≠ some '\n'
    · rw [List.cons_append, lines_end hd h, lines_end hd hr]
      exact ih.cons []
    · -- the line feed behind a carriage return at the end of the text
      push Not at hr
      obtain ⟨rfl, hn⟩ := hr
      cases s with
      | nil =>
        cases hn
        exact .same [[]]
      | cons e s => exact absurd hn (h rfl)
  | char d s hd ih =>
    rw [List.cons_append, lines_cons hd, lines_cons hd]
    generalize lines s = ls at ih
    generalize lines (s ++ [c]) = ms at ih
    cases ih with
    | same => exact .same _
    | begins _ tail h =>
      cases ls with
      | nil =>
        rcases h with rfl | rfl
        · exact .same [[d]]
        · exact .longer [] [d]
      | cons first rest => exact .begins ((d :: first) :: rest) tail h
    | longer before tail =>
      cases before with
      | nil => exact .longer [] (d :: tail)
      | cons first rest => exact .longer ((d :: first) :: rest) tail

/-- A line that shows at both ends stays one when a blank behind the text goes. -/
theorem mem_lines_of_concat (hl : Trimmed line) (hc : isBlank c = true)
    (h : line ∈ lines (s ++ [c])) : line ∈ lines s := by
  have hlast {u : List Char} : line ≠ u ++ [c] := by
    rintro rfl
    have hlast := hl.last c (by simp)
    rw [hc] at hlast
    cases hlast
  have hgoes := lines_concat s c
  generalize lines s = ls at hgoes
  generalize lines (s ++ [c]) = ms at h hgoes
  cases hgoes with
  | same => exact h
  | begins _ tail htail =>
    rw [List.mem_append, List.mem_singleton] at h
    rcases h with h | rfl
    · exact h
    · rcases htail with htail | htail
      · exact absurd htail hl.ne_nil
      · exact absurd htail (hlast (u := []))
  | longer before tail =>
    rw [List.mem_append, List.mem_singleton] at h
    exact List.mem_append_left _ (h.resolve_right hlast)

/-- A line that shows at both ends stays one when the text is trimmed. -/
theorem mem_lines_trim (hl : Trimmed line) (h : line ∈ lines s) : line ∈ lines (trim s) := by
  have hleft : ∀ s, line ∈ lines s → line ∈ lines (trimLeft s) := by
    intro s h
    induction s with
    | nil => exact h
    | cons c s ih =>
      unfold trimLeft
      rw [List.dropWhile_cons]
      split
      · next hc => exact ih (mem_lines_of_cons hl hc h)
      · exact h
  have hright : ∀ s, line ∈ lines s → line ∈ lines (trimRight s) := by
    intro s h
    induction s using List.reverseRecOn with
    | nil => exact h
    | append_singleton s c ih =>
      rw [trimRight_eq, List.rdropWhile_concat]
      split
      · next hc => exact ih (mem_lines_of_concat hl hc h)
      · exact h
  exact hright _ (hleft s h)

/-! ## Text files -/

/-- A text as read has no carriage return. -/
theorem cr_not_mem_unifyLineEnds (s : List Char) : '\r' ∉ unifyLineEnds s := by
  induction s using unifyLineEnds.induct with
  | case1 => simp [unifyLineEnds]
  | case2 s ih => simpa [unifyLineEnds] using ih
  | case3 c s h ih =>
    rw [unifyLineEnds]
    · rw [List.mem_cons, not_or]
      refine ⟨?_, ih⟩
      split
      · decide
      · next hc => exact Ne.symm hc
    · exact h

end BuildRepair.Text
