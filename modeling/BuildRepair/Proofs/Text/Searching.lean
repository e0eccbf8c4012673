import BuildRepair.Text.Scan
import Mathlib.Data.List.Forall2
import Mathlib.Data.List.Infix
import Mathlib.Data.List.TakeWhile

/-
  Searching a text. What a search finds was read at a position of the text (`isSome_search_iff`,
  `exists_of_find`), and the leftmost one counts: a part in front of it where nothing is read may be
  left out (`find_append`), in particular a known one where none of the words looked for begins
  (`find_of_noneBegins`). What has no separator in it and stands in a text stands on one side of a
  separator (`infix_append_cons_iff`).
-/

namespace BuildRepair.Text

variable {α : Type} {a : α} {c : Char} {p s t u v r : List Char} {before : Option Char}

/-! ## Positions -/

theorem isSome_search_iff {scan : Option Char → List Char → Option α} :
    (search scan before s).isSome = true ↔
      ∃ p t, s = p ++ t ∧ (scan (p.getLast?.or before) t).isSome = true := by
  induction s generalizing before with
  | nil =>
    unfold search
    constructor
    · exact fun h => ⟨[], [], rfl, h⟩
    · rintro ⟨p, t, hs, h⟩
      obtain ⟨rfl, rfl⟩ := List.append_eq_nil_iff.mp hs.symm
      exact h
  | cons c s ih =>
    have hlast : ∀ p : List Char, (c :: p).getLast?.or before = p.getLast?.or (some c) := by
      intro p
      rw [List.getLast?_cons]
      cases p.getLast? <;> rfl
    rw [search]
    cases hhere : scan before (c :: s) with
    | some a => exact iff_of_true rfl ⟨[], c :: s, rfl, by simp [hhere]⟩
    | none =>
      dsimp only
      rw [ih]
      constructor
      · rintro ⟨p, t, rfl, h⟩
        exact ⟨c :: p, t, rfl, by rw [hlast]; exact h⟩
      · rintro ⟨p, t, hs, h⟩
        cases p with
        | nil =>
          obtain rfl : c :: s = t := hs
          rw [List.getLast?_nil, Option.none_or, hhere] at h
          cases h
        | cons b p =>
          rw [List.cons_append, List.cons.injEq] at hs
          obtain ⟨rfl, rfl⟩ := hs
          exact ⟨p, t, rfl, by rw [← hlast]; exact h⟩

section Find

variable {scan : List Char → Option α}

/-- A scanner that looks at no character before the position reads the same after any of them. -/
theorem search_eq_find (before : Option Char) (s : List Char) :
    search (fun _ => scan) before s = find scan s := by
  unfold find
  cases s with
  | nil => rfl
  | cons c s => rfl

theorem find_cons (c : Char) (s : List Char) :
    find scan (c :: s) = (scan (c :: s)).or (find scan s) := by
  rw [← search_eq_find (some c) s]
  unfold find
  rw [search]
  cases scan (c :: s) <;> rfl

theorem find_of_here (h : scan s = some a) : find scan s = some a := by
  cases s with
  | nil => exact h
  | cons c s => rw [find_cons, h, Option.some_or]

/-- What is found was read at some position. -/
theorem exists_of_find (h : find scan s = some a) : ∃ t, t <:+ s ∧ scan t = some a := by
  induction s with
  | nil => exact ⟨[], List.suffix_refl _, h⟩
  | cons c s ih =>
    rw [find_cons] at h
    rcases Option.or_eq_some_iff.mp h with h | ⟨-, h⟩
    · exact ⟨c :: s, List.suffix_refl _, h⟩
    · obtain ⟨t, ht, hscan⟩ := ih h
      exact ⟨t, ht.trans (List.suffix_cons c s), hscan⟩

theorem find_eq_none (h : ∀ t, t <:+ s → scan t = none) : find scan s = none := by
  cases hfind : find scan s with
  | none => rfl
  | some a =>
    obtain ⟨t, ht, hread⟩ := exists_of_find hfind
    rw [h t ht] at hread
    cases hread

/-- The search goes past positions where nothing is read. -/
theorem find_append (h : ∀ t, t ≠ [] → t <:+ p → scan (t ++ s) = none) :
    find scan (p ++ s) = find scan s := by
  induction p with
  | nil => rfl
  | cons c p ih =>
    have hhere : scan (c :: (p ++ s)) = none := h (c :: p) (by simp) (List.suffix_refl _)
    rw [List.cons_append, find_cons, hhere, Option.none_or]
    exact ih fun t hne ht => h t hne (ht.trans (List.suffix_cons c p))

end Find

/-! ## Runs -/

theorem mem_of_head_append (hne : s ≠ []) (hc : c ∈ (s ++ r).head?) : c ∈ s := by
  rw [List.head?_append_of_ne_nil s hne] at hc
  exact List.mem_of_mem_head? hc

theorem run_eq_some_iff {q : Char → Bool} {taken : List Char} : run q s = some (taken, r) ↔
    s = taken ++ r ∧ taken ≠ [] ∧ (∀ c ∈ taken, q c = true) ∧ ∀ c ∈ r.head?, q c = false := by
  constructor
  · intro h
    obtain ⟨hs, hne⟩ := run_eq_some h
    unfold run at h
    split at h
    · cases h
    · cases h
      refine ⟨hs, hne, fun c hc => List.mem_takeWhile_imp hc, fun c hc => ?_⟩
      have hnot := List.head?_dropWhile_not q s
      rw [Option.mem_def.mp hc] at hnot
      simpa using hnot
  · rintro ⟨rfl, hne, hall, hend⟩
    have htake : (taken ++ r).takeWhile q = taken := by
      rw [List.takeWhile_append_of_pos hall]
      cases r with
      | nil => simp
      | cons c r => simp [hend c rfl]
    have hdrop : (taken ++ r).dropWhile q = r := by
      rw [List.dropWhile_append_of_pos hall]
      cases r with
      | nil => rfl
      | cons c r => simp [hend c rfl]
    unfold run
    rw [htake, hdrop]
    split
    · exact absurd rfl hne
    · rfl

theorem skip_eq_some_iff {q : Char → Bool} : skip q s = some r ↔ ∃ taken, s = taken ++ r ∧
    taken ≠ [] ∧ (∀ c ∈ taken, q c = true) ∧ ∀ c ∈ r.head?, q c = false := by
  unfold skip
  rw [Option.map_eq_some_iff]
  constructor
  · rintro ⟨⟨taken, rest⟩, h, rfl⟩
    exact ⟨taken, run_eq_some_iff.mp h⟩
  · rintro ⟨taken, h⟩
    exact ⟨(taken, r), run_eq_some_iff.mpr h, rfl⟩

theorem run_takeWhile {q : Char → Bool} (h : s.takeWhile q ≠ []) :
    run q s = some (s.takeWhile q, s.dropWhile q) := by
  unfold run
  split
  · next hnil => exact absurd hnil h
  · rfl

/-- A run ends before a character outside its class. -/
theorem run_append_cons {q : Char → Bool} {taken : List Char} (hne : taken ≠ [])
    (hall : ∀ c ∈ taken, q c = true) (hc : q c = false) (r : List Char) :
    run q (taken ++ c :: r) = some (taken, c :: r) :=
  run_eq_some_iff.mpr ⟨rfl, hne, hall, fun b hb => by rwa [← Option.some.inj hb]⟩

theorem run_eq_none {q : Char → Bool} (h : ∀ c ∈ s.head?, q c = false) : run q s = none := by
  cases s with
  | nil => rfl
  | cons c s =>
    unfold run
    rw [List.takeWhile_cons_of_neg (by simpa using h c rfl)]

theorem run_self {q : Char → Bool} (hne : s ≠ []) (hall : ∀ c ∈ s, q c = true) :
    run q s = some (s, []) :=
  run_eq_some_iff.mpr ⟨(List.append_nil s).symm, hne, hall, by simp⟩

/-- A single character of a class is passed over. -/
theorem skip_cons {q : Char → Bool} (hc : q c = true) (hs : ∀ b ∈ s.head?, q b = false) :
    skip q (c :: s) = some s :=
  skip_eq_some_iff.mpr ⟨[c], rfl, by simp, by simpa using hc, hs⟩

theorem skip_eq_none {q : Char → Bool} (h : ∀ c ∈ s.head?, q c = false) : skip q s = none := by
  unfold skip
  rw [run_eq_none h]
  rfl

theorem skip_append_cons_eq_none {q : Char → Bool} (hs : ∀ b ∈ s, q b = false) (hc : q c = false)
    (r : List Char) : skip q (s ++ c :: r) = none := by
  refine skip_eq_none fun b hb => ?_
  cases s with
  | nil => rwa [← Option.some.inj hb]
  | cons a s =>
    obtain rfl : a = b := Option.some.inj hb
    exact hs a (List.mem_cons_self ..)

theorem one_eq_some_iff {q : Char → Bool} :
    one q s = some r ↔ ∃ c, s = c :: r ∧ q c = true := by
  cases s with
  | nil => simp [one]
  | cons b s =>
    unfold one
    split
    · next hb => simp [hb]
    · next hb => grind

theorem optional_eq_self {q : Char → Bool} (h : ∀ c ∈ s.head?, q c = false) :
    Text.optional q s = s := by
  cases s with
  | nil => rfl
  | cons c s =>
    have hone : one q (c :: s) = none := if_neg (by simpa using h c rfl)
    unfold Text.optional
    rw [hone]
    rfl

/-! ## Literals -/

theorem eq_false_of_all {q : Char → Bool} (h : s.all (!q ·) = true) : ∀ c ∈ s, q c = false :=
  fun c hc => by simpa using List.all_eq_true.mp h c hc

theorem startsWith_iff {p : String} : startsWith p s = true ↔ p.toList <+: s := by
  unfold startsWith
  rw [Option.isSome_iff_exists]
  simp only [literal_eq_some_iff]
  exact exists_congr fun r => eq_comm

/-- A text that reads as a literal when case does not count. -/
abbrev ReadsAs (p u : List Char) : Prop := List.Forall₂ (fun a c => sameLetter a c = true) p u

theorem ReadsAs.refl (p : List Char) : ReadsAs p p :=
  List.forall₂_same.mpr fun a _ => by simp [sameLetter]

theorem anyCase_eq_some_iff : anyCase p s = some r ↔ ∃ u, s = u ++ r ∧ ReadsAs p u := by
  induction p generalizing s with
  | nil => simp [anyCase]
  | cons a p ih =>
    cases s with
    | nil => simp [anyCase]
    | cons c s =>
      unfold anyCase
      split
      · next hsame =>
        rw [ih]
        constructor
        · rintro ⟨u, rfl, hu⟩
          exact ⟨c :: u, rfl, .cons hsame hu⟩
        · rintro ⟨_, hs, hu⟩
          cases hu with
          | cons hsame hu =>
            rw [List.cons_append, List.cons.injEq] at hs
            obtain ⟨-, rfl⟩ := hs
            exact ⟨_, rfl, hu⟩
      · next hother =>
        constructor
        · intro h
          cases h
        · rintro ⟨_, hs, hu⟩
          cases hu with
          | cons hsame hu =>
            rw [List.cons_append, List.cons.injEq] at hs
            obtain ⟨rfl, -⟩ := hs
            exact absurd hsame hother

theorem startsAnyCase_iff {p : String} :
    startsAnyCase p s = true ↔ ∃ u, u <+: s ∧ ReadsAs p.toList u := by
  unfold startsAnyCase
  rw [Option.isSome_iff_exists]
  simp only [anyCase_eq_some_iff]
  constructor
  · rintro ⟨r, u, rfl, hu⟩
    exact ⟨u, List.prefix_append u r, hu⟩
  · rintro ⟨u, ⟨r, rfl⟩, hu⟩
    exact ⟨r, u, rfl, hu⟩

theorem holdsAnyCase_iff {p : String} :
    holdsAnyCase p s = true ↔ ∃ u, u <:+: s ∧ ReadsAs p.toList u := by
  have hhere (t : List Char) := startsAnyCase_iff (p := p) (s := t)
  unfold startsAnyCase at hhere
  unfold holdsAnyCase
  rw [isSome_find_iff]
  simp only [hhere, List.infix_iff_prefix_suffix]
  grind

/-- What a text that reads as a literal has in it reads as a character of the literal. -/
theorem ReadsAs.not_mem (h : ReadsAs p u) (hc : p.all (!sameLetter · c) = true) : c ∉ u := by
  induction h with
  | nil => exact List.not_mem_nil
  | cons hsame _ ih =>
    rw [List.all_cons, Bool.and_eq_true, Bool.not_eq_true'] at hc
    rw [List.mem_cons, not_or]
    refine ⟨?_, ih hc.2⟩
    rintro rfl
    rw [hc.1] at hsame
    cases hsame

/-- Every character of a literal is read. -/
theorem ReadsAs.exists_mem (h : ReadsAs p u) {a : Char} (ha : a ∈ p) :
    ∃ c ∈ u, sameLetter a c = true := by
  induction h with
  | nil => cases ha
  | cons hsame _ ih =>
    rcases List.mem_cons.mp ha with rfl | ha
    · exact ⟨_, List.mem_cons_self .., hsame⟩
    · obtain ⟨c, hc, hca⟩ := ih ha
      exact ⟨c, List.mem_cons_of_mem _ hc, hca⟩

theorem asciiLower_idem (c : Char) : asciiLower (asciiLower c) = asciiLower c := by
  by_cases hcapital : 'A' ≤ c ∧ c ≤ 'Z'
  · have hlow : 65 ≤ c.toNat := hcapital.1
    have hhigh : c.toNat ≤ 90 := hcapital.2
    have hall : ∀ n, n < 26 → asciiLower (asciiLower (Char.ofNat (65 + n))) =
        asciiLower (Char.ofNat (65 + n)) := by
      decide
    have h := hall (c.toNat - 65) (by omega)
    rwa [Nat.add_sub_cancel' hlow, Char.ofNat_toNat] at h
  · have hself : asciiLower c = c := if_neg hcapital
    rw [hself, hself]

/-- A literal reads as its small form. -/
theorem ReadsAs.small (p : List Char) : ReadsAs p (p.map asciiLower) := by
  rw [ReadsAs, List.forall₂_map_right_iff, List.forall₂_same]
  intro a _
  simp [sameLetter, asciiLower_idem]

/-- Among ASCII characters without capitals only its small form reads as a literal. -/
theorem ReadsAs.eq_small (h : ReadsAs p u) (hu : ∀ c ∈ u, c.toNat < 0x80 ∧ asciiLower c = c) :
    u = p.map asciiLower := by
  induction h with
  | nil => rfl
  | @cons a c p u hsame _ ih =>
    rw [List.forall_mem_cons] at hu
    have hsmall : asciiLower a = c := by
      unfold sameLetter at hsame
      rw [hu.1.2] at hsame
      simp only [Bool.or_eq_true, Bool.and_eq_true, beq_iff_eq] at hsame
      rcases hsame with ((h | ⟨-, h | h⟩) | ⟨-, h⟩) | ⟨-, h⟩
      · exact h
      all_goals exact absurd hu.1.1 (by omega)
    rw [List.map_cons, hsmall, ih hu.2]

theorem anyCase_of_literal (h : literal p s = some r) : anyCase p s = some r :=
  anyCase_eq_some_iff.mpr ⟨p, literal_eq_some_iff.mp h, .refl p⟩

/-! ## Beginnings -/

/-- Whether words may begin, whatever their case, a text of which only the beginning is known. -/
def mayBegin (w s : List Char) : Bool := (w.zip s).all fun a => sameLetter a.1 a.2

theorem mayBegin_of_anyCase (h : anyCase p (s ++ t) = some r) : mayBegin p s = true := by
  induction p generalizing s with
  | nil => rfl
  | cons a p ih =>
    cases s with
    | nil => rfl
    | cons c s =>
      rw [List.cons_append, anyCase] at h
      split at h
      · next hsame =>
        have hrest : mayBegin p s = true := ih h
        unfold mayBegin at hrest ⊢
        rw [List.zip_cons_cons, List.all_cons, hsame, hrest]
        rfl
      · cases h

/-- Whether several words begin nowhere in `p` if `u` follows it. -/
def noneBegins (words : List (List Char)) (p u : List Char) : Bool :=
  p.tails.all fun t => t.isEmpty || words.all fun w => !mayBegin w (t ++ u)

theorem anyCase_of_noneBegins {words : List (List Char)} {w : List Char}
    (h : noneBegins words p u = true) (hw : w ∈ words) (hne : t ≠ []) (ht : t <:+ p)
    (s : List Char) : anyCase w (t ++ (u ++ s)) = none := by
  unfold noneBegins at h
  have hhere := List.all_eq_true.mp h t ((List.mem_tails t p).mpr ht)
  rw [List.isEmpty_eq_false_iff.mpr hne, Bool.false_or, List.all_eq_true] at hhere
  cases hread : anyCase w (t ++ (u ++ s)) with
  | none => rfl
  | some r =>
    rw [← List.append_assoc] at hread
    have hnot := hhere w hw
    rw [mayBegin_of_anyCase hread] at hnot
    cases hnot

/-- A search for what several words begin goes past a part where none of them does. -/
theorem find_of_noneBegins {scan : List Char → Option α} {words : List (List Char)}
    (hscan : ∀ t a, scan t = some a → ∃ w ∈ words, ∃ r, anyCase w t = some r)
    (h : noneBegins words p u = true) (s : List Char) :
    find scan (p ++ (u ++ s)) = find scan (u ++ s) := by
  refine find_append fun t hne ht => ?_
  cases hread : scan (t ++ (u ++ s)) with
  | none => rfl
  | some a =>
    obtain ⟨w, hw, r, hword⟩ := hscan _ a hread
    rw [anyCase_of_noneBegins h hw hne ht s] at hword
    cases hword

/-! ## Separators -/

/-- What has no separator in it ends before one. -/
theorem prefix_append_cons_iff (h : c ∉ u) : u <+: s ++ c :: t ↔ u <+: s := by
  constructor
  · intro hu
    rcases List.prefix_or_prefix_of_prefix hu (List.prefix_append s (c :: t)) with hus | ⟨v, rfl⟩
    · exact hus
    · rw [List.prefix_append_right_inj] at hu
      cases v with
      | nil => simp
      | cons b v =>
        obtain ⟨rfl, -⟩ := List.cons_prefix_cons.mp hu
        simp at h
  · exact fun hu => hu.trans (List.prefix_append s _)

/-- What has no separator in it stands on one side of a separator. -/
theorem infix_append_cons_iff (h : c ∉ u) : u <:+: s ++ c :: t ↔ u <:+: s ∨ u <:+: t := by
  induction s with
  | nil =>
    rw [List.nil_append, List.infix_cons_iff, List.infix_nil, ← List.prefix_nil]
    exact or_congr_left (prefix_append_cons_iff (s := []) h)
  | cons b s ih =>
    have hhere : u <+: b :: (s ++ c :: t) ↔ u <+: b :: s := prefix_append_cons_iff (s := b :: s) h
    rw [List.cons_append, List.infix_cons_iff, List.infix_cons_iff, ih, hhere, or_assoc]

/-- What has no separator in it and is cut out of a text lies on one side of a separator. -/
theorem append_eq_append_cons (h : c ∉ u) (hne : u ≠ []) (heq : p ++ u ++ r = s ++ c :: t) :
    (∃ v, s = p ++ u ++ v ∧ r = v ++ c :: t) ∨ ∃ v, p = s ++ c :: v ∧ t = v ++ u ++ r := by
  rcases List.append_eq_append_iff.mp heq with ⟨v, hs, hr⟩ | ⟨v, hpu, ht⟩
  · exact .inl ⟨v, hs, hr⟩
  · cases v with
    | nil => exact .inl ⟨[], by simpa using hpu.symm, ht.symm⟩
    | cons b v =>
      obtain ⟨rfl, rfl⟩ := List.cons.inj ht
      -- the separator stands in front of what is cut out
      rcases List.append_eq_append_iff.mp hpu with ⟨w, -, rfl⟩ | ⟨w, rfl, hw⟩
      · simp at h
      · cases w with
        | nil =>
          rw [List.nil_append] at hw
          exact absurd (hw ▸ List.mem_cons_self ..) h
        | cons b w =>
          obtain ⟨rfl, rfl⟩ := List.cons.inj hw
          exact .inr ⟨w, rfl, rfl⟩

/-- Words whose first character does not come again begin nowhere in a part without them that such a
character follows. -/
theorem not_prefix_of_not_infix {a : Char} {w : List Char} (ha : a ∉ w) (h : ¬ a :: w <:+: p)
    (hs : s.head? = some a) (hne : t ≠ []) (ht : t <:+ p) : ¬ a :: w <+: t ++ s := by
  intro hw
  rcases List.prefix_or_prefix_of_prefix hw (List.prefix_append t s) with hin | ⟨x, hx⟩
  · exact h (List.infix_iff_prefix_suffix.mpr ⟨t, hin, ht⟩)
  · rw [← hx, List.prefix_append_right_inj] at hw
    obtain ⟨b, t, rfl⟩ := List.exists_cons_of_ne_nil hne
    rw [List.cons_append, List.cons.injEq] at hx
    cases x with
    | nil =>
      rw [List.append_nil] at hx
      refine h ?_
      rw [← hx.1, ← hx.2]
      exact ht.isInfix
    | cons c x =>
      obtain ⟨s', rfl⟩ : ∃ s', s = a :: s' := ⟨_, (List.cons_head?_tail hs).symm⟩
      obtain ⟨rfl, -⟩ := List.cons_prefix_cons.mp hw
      exact ha (by simp [← hx.2])

end BuildRepair.Text
