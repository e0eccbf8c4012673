import BuildRepair.Glob

/-
  What a glob finds. `Generates p u`: the pattern `p`, read from the left, stands for the text `u`.
  At one position a wildcard takes the longest run that lets the rest match, so something matches
  there exactly if the pattern generates a beginning of what follows (`generates_of_matchLength`,
  `isSome_matchLength`). The search goes through the positions from the left. So it finds something
  exactly if the pattern generates a part of the text, and what it finds is such a part that begins
  where the first one does (`firstMatch_leftmost`).
-/

namespace BuildRepair.Glob

variable {p s t u : List Char} {ps : List Piece} {k n start stop : Nat} {covers : Char → Bool}
  {rest : List Char → Option Nat}

/-! ## What a pattern stands for -/

/-- The texts that a pattern stands for. It is read from the left: two asterisks stand for any run
on one line, an asterisk that is left for any run within a segment, and every other character for
itself. -/
inductive Generates : List Char → List Char → Prop
  | nil : Generates [] []
  | any (run : List Char) (hrun : ∀ c ∈ run, c ≠ '\n') {p u : List Char} (h : Generates p u) :
      Generates ('*' :: '*' :: p) (run ++ u)
  | segment (run : List Char) (hrun : ∀ c ∈ run, c ≠ '/') {p u : List Char}
      (hleft : p.head? ≠ some '*') (h : Generates p u) : Generates ('*' :: p) (run ++ u)
  | char (c : Char) (hc : c ≠ '*') {p u : List Char} (h : Generates p u) :
      Generates (c :: p) (c :: u)

/-- Whether a text stands in another one from a position on. -/
def StandsAt (u s : List Char) (start : Nat) : Prop :=
  ∃ before after, s = before ++ (u ++ after) ∧ before.length = start

/-! ## Pieces -/

theorem pieces_segment (hleft : p.head? ≠ some '*') : pieces ('*' :: p) = .segment :: pieces p := by
  rw [pieces]
  rintro q rfl
  exact hleft rfl

theorem pieces_char {c : Char} (hc : c ≠ '*') : pieces (c :: p) = .char c :: pieces p := by
  rw [pieces]
  · intro q h
    exact absurd h hc
  · exact hc

/-! ## At one position -/

/-- A wildcard takes a run of what it covers, and the rest matches behind it. -/
theorem wildLength_eq_some (h : wildLength covers rest s = some n) :
    ∃ run t m, s = run ++ t ∧ (∀ c ∈ run, covers c = true) ∧ rest t = some m ∧
      run.length + m = n := by
  have hhere {s : List Char} {n : Nat} (h : rest s = some n) :
      ∃ run t m, s = run ++ t ∧ (∀ c ∈ run, covers c = true) ∧ rest t = some m ∧
        run.length + m = n :=
    ⟨[], s, n, rfl, by simp, h, Nat.zero_add n⟩
  induction s generalizing n with
  | nil => exact hhere h
  | cons c s ih =>
    rw [wildLength] at h
    split at h
    · next hc =>
      split at h
      · next m hm =>
        cases h
        obtain ⟨run, t, k, hs, hrun, hk, hlength⟩ := ih hm
        refine ⟨c :: run, t, k, congrArg (c :: ·) hs, List.forall_mem_cons.mpr ⟨hc, hrun⟩, hk, ?_⟩
        rw [List.length_cons]
        omega
      · exact hhere h
    · exact hhere h

/-- Whatever run a wildcard may take: if the rest matches behind it, something is found. -/
theorem isSome_wildLength {run : List Char} (hrun : ∀ c ∈ run, covers c = true)
    (h : (rest t).isSome = true) : (wildLength covers rest (run ++ t)).isSome = true := by
  induction run with
  | nil =>
    cases t with
    | nil => exact h
    | cons c t =>
      rw [List.nil_append, wildLength]
      split
      · split
        · rfl
        · exact h
      · exact h
  | cons c run ih =>
    obtain ⟨hc, hrun⟩ := List.forall_mem_cons.mp hrun
    obtain ⟨n, hn⟩ := Option.isSome_iff_exists.mp (ih hrun)
    rw [List.cons_append, wildLength, if_pos hc, hn]
    rfl

/-- What matches is generated. -/
theorem generates_of_matchLength (h : matchLength (pieces p) s = some n) :
    ∃ u t, s = u ++ t ∧ Generates p u ∧ u.length = n := by
  induction p using pieces.induct generalizing s n with
  | case1 p ih =>
    rw [pieces, matchLength] at h
    obtain ⟨run, r, m, rfl, hrun, hm, rfl⟩ := wildLength_eq_some h
    obtain ⟨u, t, rfl, hu, rfl⟩ := ih hm
    refine ⟨run ++ u, t, (List.append_assoc ..).symm, .any run ?_ hu, List.length_append⟩
    simpa [Piece.covers] using hrun
  | case2 p hleft ih =>
    have hone : p.head? ≠ some '*' := by
      intro hhead
      obtain ⟨q, rfl⟩ := List.head?_eq_some_iff.mp hhead
      exact hleft q rfl
    rw [pieces_segment hone, matchLength] at h
    obtain ⟨run, r, m, rfl, hrun, hm, rfl⟩ := wildLength_eq_some h
    obtain ⟨u, t, rfl, hu, rfl⟩ := ih hm
    refine ⟨run ++ u, t, (List.append_assoc ..).symm, .segment run ?_ hone hu, List.length_append⟩
    simpa [Piece.covers] using hrun
  | case3 c p _ hc ih =>
    rw [pieces_char hc] at h
    cases s with
    | nil => cases h
    | cons d s =>
      rw [matchLength] at h
      split at h
      · next hcd =>
        obtain ⟨m, hm, rfl⟩ := Option.map_eq_some_iff.mp h
        obtain ⟨u, t, rfl, hu, rfl⟩ := ih hm
        exact ⟨c :: u, t, by rw [hcd]; rfl, .char c hc hu, rfl⟩
      · cases h
  | case4 =>
    cases h
    exact ⟨[], s, rfl, .nil, rfl⟩

/-- Where what is generated stands, something matches. -/
theorem isSome_matchLength (h : Generates p u) (t : List Char) :
    (matchLength (pieces p) (u ++ t)).isSome = true := by
  induction h with
  | nil => rfl
  | any run hrun _ ih =>
    rw [pieces, matchLength, List.append_assoc]
    exact isSome_wildLength (by simpa [Piece.covers] using hrun) ih
  | segment run hrun hleft _ ih =>
    rw [pieces_segment hleft, matchLength, List.append_assoc]
    exact isSome_wildLength (by simpa [Piece.covers] using hrun) ih
  | char c hc _ ih =>
    rw [pieces_char hc, List.cons_append, matchLength, if_pos rfl, Option.isSome_map]
    exact ih

/-! ## Through the positions -/

theorem matchFrom_nil (ps : List Piece) (k : Nat) :
    matchFrom ps k [] = (matchLength ps []).map fun n => (k, k + n) := by
  unfold matchFrom
  cases matchLength ps [] <;> rfl

theorem matchFrom_cons (ps : List Piece) (k : Nat) (c : Char) (s : List Char) :
    matchFrom ps k (c :: s) =
      match matchLength ps (c :: s) with
      | some n => some (k, k + n)
      | none => matchFrom ps (k + 1) s := by
  conv => lhs; unfold matchFrom
  cases matchLength ps (c :: s) <;> rfl

/-- Something is found if there is a match at some position. -/
theorem isSome_matchFrom (before : List Char) (h : (matchLength ps t).isSome = true) :
    (matchFrom ps k (before ++ t)).isSome = true := by
  induction before generalizing k with
  | nil =>
    obtain ⟨n, hn⟩ := Option.isSome_iff_exists.mp h
    cases t with
    | nil =>
      rw [List.nil_append, matchFrom_nil, hn]
      rfl
    | cons c t =>
      rw [List.nil_append, matchFrom_cons, hn]
      rfl
  | cons c before ih =>
    rw [List.cons_append, matchFrom_cons]
    split
    · rfl
    · exact ih

/-- What is found matches at its position, and nothing matches further left. -/
theorem matchFrom_eq_some (h : matchFrom ps k s = some (start, stop)) :
    ∃ before t n, s = before ++ t ∧ k + before.length = start ∧ matchLength ps t = some n ∧
      start + n = stop ∧
      ∀ left r, s = left ++ r → left.length < before.length → matchLength ps r = none := by
  induction s generalizing k with
  | nil =>
    rw [matchFrom_nil] at h
    obtain ⟨n, hn, hspan⟩ := Option.map_eq_some_iff.mp h
    cases hspan
    exact ⟨[], [], n, rfl, rfl, hn, rfl, fun _ _ _ h => absurd h (Nat.not_lt_zero _)⟩
  | cons c s ih =>
    rw [matchFrom_cons] at h
    split at h
    · next n hn =>
      cases h
      exact ⟨[], c :: s, n, rfl, rfl, hn, rfl, fun _ _ _ h => absurd h (Nat.not_lt_zero _)⟩
    · next hnone =>
      obtain ⟨before, t, n, rfl, hstart, hn, hstop, hleft⟩ := ih h
      refine ⟨c :: before, t, n, rfl, ?_, hn, hstop, ?_⟩
      · rw [List.length_cons]
        omega
      · intro left r hsplit hlength
        cases left with
        | nil =>
          rw [List.nil_append] at hsplit
          rw [← hsplit]
          exact hnone
        | cons d left =>
          rw [List.cons_append, List.cons.injEq] at hsplit
          exact hleft left r hsplit.2 (Nat.lt_of_succ_lt_succ hlength)

/-- What is found is a part of the text that the pattern generates, and no other one begins further
left. -/
theorem generates_of_firstMatch {pattern text : String}
    (h : firstMatch pattern text = some (start, stop)) :
    (∃ u, Generates pattern.toList u ∧ StandsAt u text.toList start ∧ start + u.length = stop) ∧
      ∀ other u, Generates pattern.toList u → StandsAt u text.toList other → start ≤ other := by
  obtain ⟨before, r, n, hsplit, hstart, hn, hstop, hleft⟩ := matchFrom_eq_some h
  rw [Nat.zero_add] at hstart
  constructor
  · obtain ⟨u, t, rfl, hu, rfl⟩ := generates_of_matchLength hn
    exact ⟨u, hu, ⟨before, t, hsplit, hstart⟩, hstop⟩
  · rintro other u hu ⟨left, t, hother, rfl⟩
    refine Nat.le_of_not_lt fun hlt => ?_
    have hsome := isSome_matchLength hu t
    rw [hleft left (u ++ t) hother (hstart ▸ hlt)] at hsome
    cases hsome

/-- A pattern is found in a text exactly if it generates a part of it. What is found is such a
part, and no other one begins further left. -/
theorem firstMatch_leftmost (pattern text : String) :
    ((firstMatch pattern text).isSome = true ↔
      ∃ u, Generates pattern.toList u ∧ u <:+: text.toList) ∧
    ∀ start stop, firstMatch pattern text = some (start, stop) →
      (∃ u, Generates pattern.toList u ∧ StandsAt u text.toList start ∧
        start + u.length = stop) ∧
      ∀ other u, Generates pattern.toList u → StandsAt u text.toList other → start ≤ other := by
  refine ⟨⟨?_, ?_⟩, fun start stop => generates_of_firstMatch⟩
  · intro h
    obtain ⟨⟨start, stop⟩, h⟩ := Option.isSome_iff_exists.mp h
    obtain ⟨⟨u, hu, ⟨before, after, hsplit, -⟩, -⟩, -⟩ := generates_of_firstMatch h
    refine ⟨u, hu, before, after, ?_⟩
    rw [hsplit, List.append_assoc]
  · rintro ⟨u, hu, before, after, hsplit⟩
    unfold firstMatch
    rw [← hsplit, List.append_assoc]
    exact isSome_matchFrom before (isSome_matchLength hu after)

example : firstMatch "x.**/*" "ax.b/c" = some (1, 6) := by decide

end BuildRepair.Glob
