import BuildRepair.Build.Words
import BuildRepair.Proofs.Except

/-
  When a command line has words. A grammar apart from the reader's modes tells three kinds of lines:
  all quotes are closed and all escapes have a character to keep (`Closed`), the line ends within a
  quote (`LeftOpen`), or in an escape (`EndsInEscape`). Every line is of one of these kinds
  (`line_cases`). The reader comes through a closed beginning in the mode in which it began
  (`wordsFrom_closed`), so what it makes of a line is decided by what is left behind that, and each
  kind has its own result (`words_isOk_iff`, `words_unclosedQuote_iff`, `words_danglingEscape_iff`).
-/

namespace BuildRepair.Build

/-! ## Lines -/

/-- What may stand between two quotes: any character but the quote, and between double quotes a
backslash only with the character that it keeps. -/
inductive Body (quote : Char) : List Char → Prop
  | nil : Body quote []
  | char {c : Char} {body : List Char} (hquote : c ≠ quote) (hescape : quote = '"' → c ≠ '\\')
      (h : Body quote body) : Body quote (c :: body)
  | escaped {body : List Char} (hquote : quote = '"') (c : Char) (h : Body quote body) :
      Body quote ('\\' :: c :: body)

/-- The two kinds of quotes. -/
abbrev IsQuote (c : Char) : Prop := c = '\'' ∨ c = '"'

/-- Command lines in which every quote is closed and every escape has a character to keep. -/
inductive Closed : List Char → Prop
  | nil : Closed []
  | char {c : Char} {rest : List Char} (hescape : c ≠ '\\') (hquote : ¬ IsQuote c)
      (h : Closed rest) : Closed (c :: rest)
  | escaped {rest : List Char} (c : Char) (h : Closed rest) : Closed ('\\' :: c :: rest)
  | quoted {quote : Char} {body rest : List Char} (hquote : IsQuote quote)
      (hbody : Body quote body) (h : Closed rest) : Closed (quote :: (body ++ quote :: rest))

/-- Command lines that end within a quote. -/
inductive LeftOpen : List Char → Prop
  | mk {front body : List Char} {quote : Char} (hfront : Closed front) (hquote : IsQuote quote)
      (hbody : Body quote body) : LeftOpen (front ++ quote :: body)

/-- Command lines that end in an escape, outside of quotes or in double ones. -/
inductive EndsInEscape : List Char → Prop
  | plain {front : List Char} (hfront : Closed front) : EndsInEscape (front ++ ['\\'])
  | quoted {front body : List Char} (hfront : Closed front) (hbody : Body '"' body) :
      EndsInEscape (front ++ '"' :: (body ++ ['\\']))

variable {c quote : Char} {s front body : List Char}

theorem Closed.append (hfront : Closed front) (h : Closed s) : Closed (front ++ s) := by
  induction hfront with
  | nil => exact h
  | char hescape hquote _ ih => exact .char hescape hquote ih
  | escaped c _ ih => exact .escaped c ih
  | quoted hquote hbody _ ih =>
    rw [List.cons_append, List.append_assoc]
    exact .quoted hquote hbody ih

/-- What is behind a closed beginning says of which kind a line is. -/
theorem Closed.cases_append (hfront : Closed front) (h : Closed s ∨ LeftOpen s ∨ EndsInEscape s) :
    Closed (front ++ s) ∨ LeftOpen (front ++ s) ∨ EndsInEscape (front ++ s) := by
  rcases h with h | ⟨hf, hquote, hbody⟩ | ⟨hf⟩ | ⟨hf, hbody⟩
  · exact .inl (hfront.append h)
  · rw [← List.append_assoc]
    exact .inr (.inl (.mk (hfront.append hf) hquote hbody))
  · rw [← List.append_assoc]
    exact .inr (.inr (.plain (hfront.append hf)))
  · rw [← List.append_assoc]
    exact .inr (.inr (.quoted (hfront.append hf) hbody))

/-- A quote is left open, closed, or broken off in an escape. -/
theorem body_cases (quote : Char) (s : List Char) : Body quote s ∨
    (∃ body rest, s = body ++ quote :: rest ∧ Body quote body) ∨
    quote = '"' ∧ ∃ body, s = body ++ ['\\'] ∧ Body quote body := by
  induction hn : s.length using Nat.strongRecOn generalizing s with
  | ind n ih =>
    subst hn
    match s with
    | [] => exact .inl .nil
    | c :: s =>
      by_cases hquote : c = quote
      · exact .inr (.inl ⟨[], s, by rw [hquote]; rfl, .nil⟩)
      by_cases hescape : quote = '"' ∧ c = '\\'
      · obtain ⟨hdouble, rfl⟩ := hescape
        match s with
        | [] => exact .inr (.inr ⟨hdouble, [], rfl, .nil⟩)
        | d :: s =>
          rcases ih s.length (by simp only [List.length_cons]; omega) s rfl with
            h | ⟨body, rest, rfl, h⟩ | ⟨-, body, rfl, h⟩
          · exact .inl (.escaped hdouble d h)
          · exact .inr (.inl ⟨'\\' :: d :: body, rest, rfl, .escaped hdouble d h⟩)
          · exact .inr (.inr ⟨hdouble, '\\' :: d :: body, rfl, .escaped hdouble d h⟩)
      · have hne : quote = '"' → c ≠ '\\' := fun hdouble hc => hescape ⟨hdouble, hc⟩
        rcases ih s.length (by simp) s rfl with h | ⟨body, rest, rfl, h⟩ | ⟨hdouble, body, rfl, h⟩
        · exact .inl (.char hquote hne h)
        · exact .inr (.inl ⟨c :: body, rest, rfl, .char hquote hne h⟩)
        · exact .inr (.inr ⟨hdouble, c :: body, rfl, .char hquote hne h⟩)

theorem line_cases (s : List Char) : Closed s ∨ LeftOpen s ∨ EndsInEscape s := by
  induction hn : s.length using Nat.strongRecOn generalizing s with
  | ind n ih =>
    subst hn
    match s with
    | [] => exact .inl .nil
    | c :: s =>
      by_cases hescape : c = '\\'
      · subst hescape
        match s with
        | [] => exact .inr (.inr (.plain .nil))
        | d :: s =>
          have hkept : Closed ['\\', d] := .escaped d .nil
          exact hkept.cases_append (ih s.length (by simp only [List.length_cons]; omega) s rfl)
      by_cases hquote : IsQuote c
      · rcases body_cases c s with h | ⟨body, rest, rfl, h⟩ | ⟨rfl, body, rfl, h⟩
        · exact .inr (.inl (.mk .nil hquote h))
        · have hquoted : Closed (c :: (body ++ [c])) := .quoted hquote h .nil
          have hshorter : rest.length < (c :: (body ++ c :: rest)).length := by
            simp only [List.length_cons, List.length_append]
            omega
          have hrest := hquoted.cases_append (ih rest.length hshorter rest rfl)
          rwa [List.cons_append, List.append_assoc] at hrest
        · exact .inr (.inr (.quoted .nil h))
      · have hplain : Closed [c] := .char hescape hquote .nil
        exact hplain.cases_append (ih s.length (by simp) s rfl)

/-! ## Reading -/

theorem wordsFrom_quote (hquote : IsQuote quote) (word : Option (List Char)) (s : List Char) :
    wordsFrom .plain word (quote :: s) = wordsFrom (.quoted quote) (some (word.getD [])) s := by
  have hplain : isWordBreak quote = false ∧ quote ≠ '\\' := by
    rcases hquote with rfl | rfl <;> decide
  rw [wordsFrom, if_neg (by simp [hplain.1]), if_neg hplain.2, if_pos hquote]

/-- The reader stays in a quote until it is closed. -/
theorem wordsFrom_body (h : Body quote body) (word : Option (List Char)) : ∃ longer, ∀ rest,
    wordsFrom (.quoted quote) word (body ++ rest) = wordsFrom (.quoted quote) longer rest := by
  induction h generalizing word with
  | nil => exact ⟨word, fun _ => rfl⟩
  | @char c body hquote hescape _ ih =>
    obtain ⟨longer, hlonger⟩ := ih (addChar word c)
    refine ⟨longer, fun rest => ?_⟩
    rw [List.cons_append, wordsFrom, if_neg hquote, if_neg fun h => hescape h.2 h.1, hlonger]
  | @escaped body hquote c _ ih =>
    subst hquote
    obtain ⟨longer, hlonger⟩ :=
      ih (addChar (if c = '\\' ∨ c = '"' then word else addChar word '\\') c)
    refine ⟨longer, fun rest => ?_⟩
    rw [List.cons_append, List.cons_append, wordsFrom, if_neg (by decide), if_pos ⟨rfl, rfl⟩,
      wordsFrom, hlonger]

/-- Behind a closed beginning the reader goes on as it began, with the words that it has found. -/
theorem wordsFrom_closed (h : Closed front) (word : Option (List Char)) : ∃ found last, ∀ rest,
    wordsFrom .plain word (front ++ rest) = (wordsFrom .plain last rest).map (found ++ ·) := by
  induction h generalizing word with
  | nil =>
    refine ⟨[], word, fun rest => ?_⟩
    cases hrest : wordsFrom .plain word rest <;> simp [hrest, Except.map]
  | @char c front hescape hquote _ ih =>
    cases hbreak : isWordBreak c with
    | true =>
      obtain ⟨found, last, hlast⟩ := ih none
      refine ⟨word.toList ++ found, last, fun rest => ?_⟩
      rw [List.cons_append, wordsFrom, if_pos hbreak, hlast]
      cases wordsFrom .plain last rest <;> simp [Except.map]
    | false =>
      obtain ⟨found, last, hlast⟩ := ih (addChar word c)
      refine ⟨found, last, fun rest => ?_⟩
      rw [List.cons_append, wordsFrom, if_neg (by simp [hbreak]), if_neg hescape, if_neg hquote,
        hlast]
  | escaped c _ ih =>
    obtain ⟨found, last, hlast⟩ := ih (addChar word c)
    exact ⟨found, last, hlast⟩
  | @quoted quote body front hquote hbody _ ih =>
    obtain ⟨longer, hlonger⟩ := wordsFrom_body hbody (some (word.getD []))
    obtain ⟨found, last, hlast⟩ := ih longer
    refine ⟨found, last, fun rest => ?_⟩
    rw [List.cons_append, List.append_assoc, wordsFrom_quote hquote, hlonger, List.cons_append,
      wordsFrom, if_pos rfl, hlast]

/-- What makes the reader fail behind a closed beginning does so with the beginning. -/
theorem wordsFrom_closed_error (h : Closed front) {e : Failure}
    (hs : ∀ word, wordsFrom .plain word s = .error e) (word : Option (List Char)) :
    wordsFrom .plain word (front ++ s) = .error e := by
  obtain ⟨found, last, hlast⟩ := wordsFrom_closed h word
  rw [hlast, hs]
  rfl

theorem wordsFrom_of_closed (h : Closed s) (word : Option (List Char)) :
    ∃ ws, wordsFrom .plain word s = .ok ws := by
  obtain ⟨found, last, hlast⟩ := wordsFrom_closed h word
  have hend := hlast []
  rw [List.append_nil] at hend
  exact ⟨_, hend⟩

theorem wordsFrom_of_leftOpen (h : LeftOpen s) (word : Option (List Char)) :
    wordsFrom .plain word s = .error .unclosedQuote := by
  obtain @⟨front, body, quote, hfront, hquote, hbody⟩ := h
  refine wordsFrom_closed_error hfront (fun word => ?_) word
  obtain ⟨longer, hlonger⟩ := wordsFrom_body hbody (some (word.getD []))
  rw [wordsFrom_quote hquote, ← List.append_nil body, hlonger]
  rfl

theorem wordsFrom_of_endsInEscape (h : EndsInEscape s) (word : Option (List Char)) :
    wordsFrom .plain word s = .error .danglingEscape := by
  rcases h with @⟨front, hfront⟩ | @⟨front, body, hfront, hbody⟩
  · exact wordsFrom_closed_error hfront (fun _ => rfl) word
  · refine wordsFrom_closed_error hfront (fun word => ?_) word
    obtain ⟨longer, hlonger⟩ := wordsFrom_body hbody (some (word.getD []))
    rw [wordsFrom_quote (.inr rfl), hlonger]
    rfl

/-! ## Words -/

variable {command : String}

theorem words_of_closed (h : Closed command.toList) : ∃ ws, words command = .ok ws := by
  obtain ⟨ws, hws⟩ := wordsFrom_of_closed h none
  unfold words
  rw [hws]
  exact ⟨_, rfl⟩

theorem words_of_leftOpen (h : LeftOpen command.toList) :
    words command = .error .unclosedQuote :=
  map_eq_error.mpr (wordsFrom_of_leftOpen h none)

theorem words_of_endsInEscape (h : EndsInEscape command.toList) :
    words command = .error .danglingEscape :=
  map_eq_error.mpr (wordsFrom_of_endsInEscape h none)

theorem words_isOk_iff : (∃ ws, words command = .ok ws) ↔ Closed command.toList := by
  refine ⟨?_, words_of_closed⟩
  rintro ⟨ws, hws⟩
  rcases line_cases command.toList with h | h | h
  · exact h
  · cases (words_of_leftOpen h).symm.trans hws
  · cases (words_of_endsInEscape h).symm.trans hws

theorem words_unclosedQuote_iff :
    words command = .error .unclosedQuote ↔ LeftOpen command.toList := by
  refine ⟨fun hw => ?_, words_of_leftOpen⟩
  rcases line_cases command.toList with h | h | h
  · obtain ⟨ws, hws⟩ := words_of_closed h
    cases hws.symm.trans hw
  · exact h
  · cases (words_of_endsInEscape h).symm.trans hw

theorem words_danglingEscape_iff :
    words command = .error .danglingEscape ↔ EndsInEscape command.toList := by
  refine ⟨fun hw => ?_, words_of_endsInEscape⟩
  rcases line_cases command.toList with h | h | h
  · obtain ⟨ws, hws⟩ := words_of_closed h
    cases hws.symm.trans hw
  · cases (words_of_leftOpen h).symm.trans hw
  · exact h

end BuildRepair.Build
