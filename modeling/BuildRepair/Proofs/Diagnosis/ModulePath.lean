import BuildRepair.Diagnosis.Extract
import BuildRepair.Proofs.Text.Searching
import BuildRepair.Proofs.Text.Lines

/-
  The package of a module that cannot be found (`mention_modulePath`). The first report of a missing
  module in a message counts, whatever stands around it, and the path that it quotes is read up to
  the next quote (`find_quotedPath`). A path that is neither relative nor absolute begins with the
  name of its package: two segments if it has a scope, else one (`FirstSegments`).
-/

namespace BuildRepair

open Text

variable {n : Nat} {q q' c : Char} {path name other before after : List Char}

/-! ## Segments of a path -/

/-- The first `n` segments of a path, or the whole path if it has no more. -/
structure FirstSegments (n : Nat) (path name : List Char) : Prop where
  fewer : name.count '/' < n
  rest : path = name ∨ ∃ rest, path = name ++ '/' :: rest ∧ name.count '/' + 1 = n

namespace FirstSegments

theorem isPrefix (h : FirstSegments n path name) : name <+: path := by
  rcases h.rest with rfl | ⟨rest, rfl, -⟩
  · exact List.prefix_refl _
  · exact List.prefix_append ..

theorem ne_nil (h : FirstSegments n path name) (hpath : path ≠ [])
    (hhead : path.head? ≠ some '/') : name ≠ [] := by
  rintro rfl
  rcases h.rest with rfl | ⟨rest, rfl, -⟩
  · exact hpath rfl
  · exact hhead rfl

theorem unique (h : FirstSegments n path name) (h' : FirstSegments n path other) :
    name = other := by
  -- the segments of a longer one would be more
  have hcount : ∀ {a b : List Char}, FirstSegments n path a → FirstSegments n path b →
      a <+: b → a = b := by
    rintro a b ha hb ⟨x, rfl⟩
    cases x with
    | nil => exact (List.append_nil a).symm
    | cons d x =>
      have hb' := hb.fewer
      have hbegins := hb.isPrefix
      rcases ha.rest with rfl | ⟨rest, rfl, hn⟩
      · exact absurd hbegins.length_le (by simp)
      · rw [List.prefix_append_right_inj] at hbegins
        obtain ⟨rfl, -⟩ := List.cons_prefix_cons.mp hbegins
        rw [List.count_append, List.count_cons_self] at hb'
        omega
  rcases List.prefix_or_prefix_of_prefix h.isPrefix h'.isPrefix with hab | hba
  · exact hcount h h' hab
  · exact (hcount h' h hba).symm

end FirstSegments

/-- The first pieces between slashes, put together again. -/
theorem firstSegments_take (n : Nat) (path : List Char) :
    FirstSegments (n + 1) path (joinWith ['/'] ((splitOn '/' path).take (n + 1))) := by
  induction path generalizing n with
  | nil => exact ⟨by simp [splitOn, joinWith], .inl (by simp [splitOn, joinWith])⟩
  | cons c path ih =>
    obtain ⟨first, pieces, hsplit⟩ := List.exists_cons_of_ne_nil (splitOn_ne_nil '/' path)
    unfold splitOn
    split
    · next hc =>
      subst hc
      cases n with
      | zero => exact ⟨by simp [joinWith], .inr ⟨path, by simp [joinWith], by simp [joinWith]⟩⟩
      | succ n =>
        have ih := ih n
        have hjoin : joinWith ['/'] (([] :: splitOn '/' path).take (n + 1 + 1)) =
            '/' :: joinWith ['/'] ((splitOn '/' path).take (n + 1)) := by
          rw [hsplit]
          rfl
        rw [hjoin]
        refine ⟨by rw [List.count_cons_self]; exact Nat.add_lt_add_right ih.fewer 1, ?_⟩
        rcases ih.rest with hrest | ⟨rest, hrest, hn⟩
        · exact .inl (congrArg _ hrest)
        · exact .inr ⟨rest, congrArg _ hrest, by rw [List.count_cons_self, hn]⟩
    · next hc =>
      have ih := ih n
      rw [hsplit] at ih ⊢
      have hjoin : joinWith ['/'] (((c :: first) :: pieces).take (n + 1)) =
          c :: joinWith ['/'] ((first :: pieces).take (n + 1)) := by
        rw [List.take_succ_cons, List.take_succ_cons]
        cases pieces.take n <;> rfl
      dsimp only
      rw [hjoin]
      have hcount : ∀ l : List Char, (c :: l).count '/' = l.count '/' :=
        fun l => List.count_cons_of_ne hc
      refine ⟨by rw [hcount]; exact ih.fewer, ?_⟩
      rcases ih.rest with hrest | ⟨rest, hrest, hn⟩
      · exact .inl (congrArg _ hrest)
      · exact .inr ⟨rest, congrArg _ hrest, by rw [hcount, hn]⟩

/-! ## The path of a message -/

/-- What reports a missing module. -/
def missingAt (q : Char) (path : List Char) (q' : Char) (after : List Char) : List Char :=
  "Cannot find module ".toList ++ q :: path ++ q' :: after

theorem quotedPath_missingAt (hq : isQuote q = true) (hq' : isQuote q' = true) (hne : path ≠ [])
    (hpath : ∀ c ∈ path, isQuote c = false) (after : List Char) :
    quotedPath "Cannot find module " (missingAt q path q' after) = some path := by
  have hwords : literal "Cannot find module ".toList (missingAt q path q' after) =
      some (q :: path ++ q' :: after) := by
    rw [literal_eq_some_iff]
    unfold missingAt
    rw [List.append_assoc]
  have hfirst : one isQuote (q :: path ++ q' :: after) = some (path ++ q' :: after) :=
    one_eq_some_iff.mpr ⟨q, rfl, hq⟩
  have hrun : run (fun c => !isQuote c) (path ++ q' :: after) = some (path, q' :: after) := by
    refine run_eq_some_iff.mpr ⟨rfl, hne, fun c hc => by rw [hpath c hc]; rfl, fun c hc => ?_⟩
    obtain rfl : q' = c := Option.some.inj hc
    rw [hq']
    rfl
  have hlast : one isQuote (q' :: after) = some after := one_eq_some_iff.mpr ⟨q', rfl, hq'⟩
  unfold quotedPath
  rw [hwords, Option.bind_eq_bind, Option.bind_some, hfirst, Option.bind_eq_bind, Option.bind_some,
    hrun, Option.bind_some]
  dsimp only
  rw [hlast]
  rfl

theorem quotedPath_eq_none {words : String} {s : List Char} (h : ¬ words.toList <+: s) :
    quotedPath words s = none := by
  unfold quotedPath
  cases hwords : literal words.toList s with
  | none => rfl
  | some r => exact absurd ⟨r, (literal_eq_some_iff.mp hwords).symm⟩ h

/-- The first report of a missing module is the one that is found. -/
theorem find_quotedPath (hbefore : ¬ "Cannot find module".toList <:+: before)
    (hq : isQuote q = true) (hq' : isQuote q' = true) (hne : path ≠ [])
    (hpath : ∀ c ∈ path, isQuote c = false) (after : List Char) :
    find (quotedPath "Cannot find module ") (before ++ missingAt q path q' after) = some path := by
  rw [find_append]
  · exact find_of_here (quotedPath_missingAt hq hq' hne hpath after)
  · intro t ht hsuffix
    have hwords : ¬ "Cannot find module".toList <+: t ++ missingAt q path q' after :=
      not_prefix_of_not_infix (w := "annot find module".toList) (by decide) hbefore rfl ht hsuffix
    refine quotedPath_eq_none fun h => hwords (List.IsPrefix.trans ?_ h)
    exact ⟨[' '], rfl⟩

/-! ## The package of a path -/

theorem packageOfPath_eq_none (h : path.head? = some '.' ∨ path.head? = some '/') :
    packageOfPath path = none := by
  cases path with
  | nil => simp at h
  | cons c path =>
    rcases h with h | h
    all_goals
      obtain rfl := Option.some.inj h
      rfl

/-- How many segments of a path name its package. -/
def packageSegments (path : List Char) : Nat := if path.head? = some '@' then 2 else 1

theorem packageOfPath_eq_some (hdot : path.head? ≠ some '.') (hslash : path.head? ≠ some '/') :
    ∃ name, packageOfPath path = some name ∧ FirstSegments (packageSegments path) path name := by
  by_cases hscope : path.head? = some '@'
  · obtain ⟨r, rfl⟩ : ∃ r, path = '@' :: r := ⟨_, (List.cons_head?_tail hscope).symm⟩
    exact ⟨_, rfl, firstSegments_take 1 _⟩
  · obtain ⟨first, pieces, hsplit⟩ := List.exists_cons_of_ne_nil (splitOn_ne_nil '/' path)
    refine ⟨first, ?_, ?_⟩
    · unfold packageOfPath
      split
      · exact absurd rfl hdot
      · exact absurd rfl hslash
      · exact absurd rfl hscope
      · rw [hsplit]
        rfl
    · have h := firstSegments_take 0 path
      rw [hsplit] at h
      unfold packageSegments
      rw [if_neg hscope]
      exact h

/-- What is told of the first path that is reported missing is its package. -/
theorem mention_missingAt (hbefore : ¬ "Cannot find module".toList <:+: before)
    (hq : isQuote q = true) (hq' : isQuote q' = true) (hne : path ≠ [])
    (hpath : ∀ c ∈ path, isQuote c = false) (after : List Char) :
    mention .notFound (before ++ missingAt q path q' after) =
      (packageOfPath path).map fun name => { name := String.ofList name } := by
  have hfind := find_quotedPath hbefore hq hq' hne hpath after
  have hmention : mention .notFound (before ++ missingAt q path q' after) = do
      let name ← packageOfPath path
      guard (!name.isEmpty)
      return { name := String.ofList name } := by
    show moduleMention _ = _
    unfold moduleMention
    rw [hfind]
    rfl
  rw [hmention]
  by_cases hhead : path.head? = some '.' ∨ path.head? = some '/'
  · rw [packageOfPath_eq_none hhead]
    rfl
  · rw [not_or] at hhead
    obtain ⟨name, hname, hsegments⟩ := packageOfPath_eq_some hhead.1 hhead.2
    obtain ⟨c, name, rfl⟩ := List.exists_cons_of_ne_nil (hsegments.ne_nil hne hhead.2)
    rw [hname]
    rfl

/-- A message about a missing module tells the package of the first path that it reports missing:
none for a relative or absolute path, else the first segment of the path, or the first two if it has
a scope. The name is never empty and holds no quote. -/
theorem mention_modulePath (hbefore : ¬ "Cannot find module".toList <:+: before)
    (hq : isQuote q = true) (hq' : isQuote q' = true) (hne : path ≠ [])
    (hpath : ∀ c ∈ path, isQuote c = false) (after : List Char) :
    (path.head? = some '.' ∨ path.head? = some '/' →
      mention .notFound (before ++ missingAt q path q' after) = none) ∧
    (path.head? ≠ some '.' → path.head? ≠ some '/' →
      ∃ name, mention .notFound (before ++ missingAt q path q' after) =
          some { name := String.ofList name } ∧
        (∀ other, FirstSegments (packageSegments path) path other ↔ other = name) ∧
        name ≠ [] ∧ ∀ c ∈ name, isQuote c = false) := by
  rw [mention_missingAt hbefore hq hq' hne hpath after]
  constructor
  · intro h
    rw [packageOfPath_eq_none h]
    rfl
  · intro hdot hslash
    obtain ⟨name, hname, hsegments⟩ := packageOfPath_eq_some hdot hslash
    refine ⟨name, by rw [hname]; rfl, fun other => ?_, hsegments.ne_nil hne hslash,
      fun c hc => hpath c (hsegments.isPrefix.subset hc)⟩
    exact ⟨fun h => h.unique hsegments, fun h => h ▸ hsegments⟩

/-- A path within a scope among other reports, and a relative one. -/
theorem mention_scopedPath :
    (∃ name, mention .notFound ("Can't resolve 'x' in './y'; ".toList ++
        missingAt '"' "@babel/core/lib/index".toList '"' "\nCannot find module 'z'".toList) =
          some { name := String.ofList name } ∧ name = "@babel/core".toList) ∧
    mention .notFound ("Cannot find package 'x'".toList ++
      missingAt '"' "../y".toList '"' "\nCannot find module 'z'".toList) = none := by
  have hquote : isQuote '"' = true := by decide
  have hresolve : ¬ "Cannot find module".toList <:+: "Can't resolve 'x' in './y'; ".toList := by
    decide
  have hpackage : ¬ "Cannot find module".toList <:+: "Cannot find package 'x'".toList := by decide
  have hfirst := mention_modulePath hresolve hquote hquote (by decide)
    (eq_false_of_all (s := "@babel/core/lib/index".toList) (by decide)) "\nCannot find module 'z'".toList
  have hsecond := mention_modulePath hpackage hquote hquote (by decide)
    (eq_false_of_all (s := "../y".toList) (by decide)) "\nCannot find module 'z'".toList
  refine ⟨?_, hsecond.1 (by decide)⟩
  obtain ⟨name, hname, hsegments, -, -⟩ := hfirst.2 (by decide) (by decide)
  refine ⟨name, hname, ((hsegments _).mp ?_).symm⟩
  exact ⟨by decide, .inr ⟨"lib/index".toList, by decide, by decide⟩⟩

end BuildRepair
