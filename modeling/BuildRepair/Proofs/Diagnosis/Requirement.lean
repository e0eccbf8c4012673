import BuildRepair.Diagnosis.Extract
import BuildRepair.Proofs.Text.Searching

/-
  Who requires which version of a peer (`mention_requiredPeer`). A name is read up to the at sign
  before its version (`nameAt_append`), and the words that introduce names are told from names that
  read the same by the blank behind them: a name has none. So the word `peer` is never taken off a
  name (`afterPeer_name`), and none of the words is found within a name or a version
  (`conflictAt_requirement`).
-/

namespace BuildRepair

open Text

variable {α : Type} {c : Char} {name other range version s r : List Char}

/-! ## Names of packages -/

/-- Characters of one part of a package name: no blank, at sign, slash, quote or comma. -/
def isPlainChar (c : Char) : Bool := isNameChar c && c != '/'

/-- A name of a package: a plain one, or one in a scope. -/
inductive PackageName : List Char → Prop
  | plain (s : List Char) : s ≠ [] → s.all isPlainChar = true → PackageName s
  | inScope (s n : List Char) : s ≠ [] → n ≠ [] → s.all isPlainChar = true →
      n.all isPlainChar = true → PackageName ('@' :: s ++ '/' :: n)

theorem isPlainChar_iff : isPlainChar c = true ↔
    isBlank c = false ∧ c ≠ '@' ∧ isQuote c = false ∧ c ≠ ',' ∧ c ≠ '/' := by
  simp [isPlainChar, isNameChar, and_assoc]

theorem isVersionChar_iff : isVersionChar c = true ↔
    isBlank c = false ∧ c ≠ '"' ∧ c ≠ ',' := by
  simp [isVersionChar, and_assoc]

theorem isPlainChar_name (h : isPlainChar c = true) : isNameChar c = true :=
  (Bool.and_eq_true_iff.mp h).1

theorem isPlainChar_scope (h : isPlainChar c = true) : isScopeChar c = true := by
  obtain ⟨hblank, hat, hquote, -, hslash⟩ := isPlainChar_iff.mp h
  simp [isScopeChar, hblank, hat, hquote, hslash]

namespace PackageName

/-- Neither blanks nor quotes nor commas stand in a name. -/
theorem mem (h : PackageName name) (hc : c ∈ name) :
    isBlank c = false ∧ isQuote c = false ∧ c ≠ ',' := by
  have hplain : ∀ s : List Char, s.all isPlainChar = true → c ∈ s →
      isBlank c = false ∧ isQuote c = false ∧ c ≠ ',' := by
    intro s hs hc
    obtain ⟨hblank, -, hquote, hcomma, -⟩ := isPlainChar_iff.mp (List.all_eq_true.mp hs c hc)
    exact ⟨hblank, hquote, hcomma⟩
  cases h with
  | plain _ _ hs => exact hplain _ hs hc
  | inScope s n _ _ hs hn =>
    rw [List.cons_append, List.mem_cons, List.mem_append, List.mem_cons] at hc
    rcases hc with rfl | hc | rfl | hc
    · decide
    · exact hplain s hs hc
    · decide
    · exact hplain n hn hc

theorem ne_nil (h : PackageName name) : name ≠ [] := by
  cases h with
  | plain _ hne _ => exact hne
  | inScope s n _ _ _ _ => simp

/-- A name does not begin with a blank. -/
theorem head_append (h : PackageName name) (r : List Char) :
    ∀ c ∈ (name ++ r).head?, isBlank c = false :=
  fun _ hc => (h.mem (mem_of_head_append h.ne_nil hc)).1

/-- The blank in front of a name is no part of it. -/
theorem dropWhile_blank (h : PackageName name) (r : List Char) :
    (' ' :: (name ++ r)).dropWhile isBlank = name ++ r := by
  obtain ⟨b, s, rfl⟩ := List.exists_cons_of_ne_nil h.ne_nil
  have hb : isBlank b = false := (h.mem (List.mem_cons_self ..)).1
  rw [List.dropWhile_cons_of_pos (by decide), List.cons_append,
    List.dropWhile_cons_of_neg (by simp [hb])]

end PackageName

/-- What is read as a name stands at the start of the text. -/
theorem nameAt_eq_some (h : nameAt s = some (name, r)) : s = name ++ r := by
  unfold nameAt at h
  split at h
  · simp only [bind, Option.bind_eq_some_iff] at h
    obtain ⟨⟨scope, t⟩, hscope, t', hslash, ⟨n, t''⟩, hname, heq⟩ := h
    cases heq
    dsimp only at hslash
    rw [(run_eq_some hscope).1, literal_eq_some_iff.mp hslash, (run_eq_some hname).1]
    simp
  · exact (run_eq_some h).1

/-- A name is read up to the at sign before its version. -/
theorem nameAt_append (h : PackageName name) (r : List Char) :
    nameAt (name ++ '@' :: r) = some (name, '@' :: r) := by
  cases h with
  | plain _ hne hs =>
    have hrun : run isNameChar (name ++ '@' :: r) = some (name, '@' :: r) :=
      run_append_cons hne (fun c hc => isPlainChar_name (List.all_eq_true.mp hs c hc)) rfl r
    obtain ⟨c, s, rfl⟩ := List.exists_cons_of_ne_nil hne
    have hc : c ≠ '@' := (isPlainChar_iff.mp (List.all_eq_true.mp hs c (List.mem_cons_self ..))).2.1
    rw [List.cons_append] at hrun ⊢
    unfold nameAt
    split
    · next heq => exact absurd (List.cons.inj heq).1 hc
    · exact hrun
  | inScope s n hs hn hscope hname =>
    have hfirst : run isScopeChar (s ++ '/' :: (n ++ '@' :: r)) =
        some (s, '/' :: (n ++ '@' :: r)) :=
      run_append_cons hs (fun c hc => isPlainChar_scope (List.all_eq_true.mp hscope c hc)) rfl _
    have hslash : literal ['/'] ('/' :: (n ++ '@' :: r)) = some (n ++ '@' :: r) := rfl
    have hlast : run isNameChar (n ++ '@' :: r) = some (n, '@' :: r) :=
      run_append_cons hn (fun c hc => isPlainChar_name (List.all_eq_true.mp hname c hc)) rfl r
    rw [List.cons_append, List.cons_append, List.append_assoc, List.cons_append]
    unfold nameAt
    simp only [hfirst, hslash, hlast, Option.bind_eq_bind, Option.bind_some]
    rfl

/-- The version behind a name, which a double quote may precede, is read up to the first character
that no version has. -/
theorem versionedName_append (h : PackageName name) (r : List Char) :
    versionedName (name ++ '@' :: r) =
      (run isVersionChar (Text.optional (· == '"') r)).map fun v =>
        ⟨String.ofList name, some (String.ofList v.1), none⟩ := by
  have hat : literal ['@'] ('@' :: r) = some r := rfl
  unfold versionedName
  simp only [nameAt_append h r, hat, Option.bind_eq_bind, Option.bind_some]
  cases run isVersionChar (Text.optional (· == '"') r) <;> rfl

theorem versionedName_version (h : PackageName name) (hne : version ≠ [])
    (hall : ∀ c ∈ version, isVersionChar c = true) (hc : isVersionChar c = false) (r : List Char) :
    versionedName (name ++ '@' :: (version ++ c :: r)) =
      some ⟨String.ofList name, some (String.ofList version), none⟩ := by
  have hquote : Text.optional (· == '"') (version ++ c :: r) = version ++ c :: r := by
    refine optional_eq_self fun b hb => ?_
    obtain ⟨-, hb, -⟩ := isVersionChar_iff.mp (hall b (mem_of_head_append hne hb))
    rwa [beq_eq_false_iff_ne]
  rw [versionedName_append h, hquote, run_append_cons hne hall hc r]
  rfl

theorem conflictName_append (h : PackageName name) (hne : version ≠ [])
    (hall : ∀ c ∈ version, isVersionChar c = true) :
    conflictName (name ++ '@' :: version) = some (String.ofList (name ++ '@' :: version), []) := by
  have hat : literal ['@'] ('@' :: version) = some version := rfl
  unfold conflictName
  simp only [nameAt_append h version, hat, run_self hne hall, Option.bind_eq_bind,
    Option.bind_some]
  rfl

/-! ## The word in front of a peer -/

/-- The word is looked for first, and what follows it is read without it. -/
theorem afterPeer_peer {scan : List Char → Option α} (hs : ∀ c ∈ s.head?, isBlank c = false) :
    afterPeer scan ("peer ".toList ++ s) = (scan s).or (scan ("peer ".toList ++ s)) := by
  have hword : literal "peer".toList ("peer ".toList ++ s) = some (' ' :: s) :=
    literal_eq_some_iff.mpr rfl
  have hblank : skip isBlank (' ' :: s) = some s := skip_cons (by decide) hs
  unfold afterPeer
  simp only [hword, hblank, Option.bind_eq_bind, Option.bind_some]
  cases scan s <;> rfl

/-- A name that begins with the word, or is the word, is still the name. -/
theorem afterPeer_name {scan : List Char → Option α} (h : PackageName name) (r : List Char) :
    afterPeer scan (name ++ '@' :: r) = scan (name ++ '@' :: r) := by
  have hnone : ((literal "peer".toList (name ++ '@' :: r)).bind fun s =>
      (skip isBlank s).bind scan) = none := by
    cases hword : literal "peer".toList (name ++ '@' :: r) with
    | none => rfl
    | some t =>
      have heq : name ++ '@' :: r = "peer".toList ++ t := literal_eq_some_iff.mp hword
      obtain ⟨x, rfl⟩ : "peer".toList <+: name :=
        (prefix_append_cons_iff (c := '@') (by decide)).mp ⟨t, heq.symm⟩
      rw [List.append_assoc, List.append_cancel_left_eq] at heq
      -- behind the word the name goes on, or its at sign stands there
      have hskip : skip isBlank (x ++ '@' :: r) = none :=
        skip_append_cons_eq_none (fun c hc => (h.mem (List.mem_append_right _ hc)).1) (by decide) r
      rw [Option.bind_some, ← heq, hskip]
      rfl
  unfold afterPeer
  simp only [Option.bind_eq_bind, hnone]
  rfl

/-! ## A range in quotes -/

/-- The line about a peer and the package that wants it in a range. -/
def peerRange (name range other version : List Char) : List Char :=
  "npm ERR! peer ".toList ++ name ++ '@' :: '"' :: range ++ "\" from ".toList ++ other ++
    '@' :: version

theorem peerLine_append (hname : PackageName name) (hother : PackageName other)
    (hrange : range ≠ []) (hquote : '"' ∉ range) (hne : version ≠ [])
    (hversion : ∀ c ∈ version, isBlank c = false) :
    peerLine ("peer ".toList ++ (name ++ '@' :: '"' :: (range ++ '"' ::
        (" from ".toList ++ (other ++ '@' :: version))))) =
      some ⟨String.ofList name, some (String.ofList range),
        some [String.ofList (other ++ '@' :: version)]⟩ := by
  have hpeer : ∀ s, literal "peer".toList ("peer ".toList ++ s) = some (' ' :: s) :=
    fun s => literal_eq_some_iff.mpr rfl
  have hblank : ∀ {s : List Char} (_ : PackageName s) (r : List Char),
      skip isBlank (' ' :: (s ++ r)) = some (s ++ r) :=
    fun h r => skip_cons (by decide) (h.head_append r)
  have hopen : ∀ s, literal ['@', '"'] ('@' :: '"' :: s) = some s := fun s => rfl
  have hrun : ∀ s, run (· != '"') (range ++ '"' :: s) = some (range, '"' :: s) := by
    refine run_append_cons hrange (fun c hc => ?_) rfl
    rw [bne_iff_ne]
    rintro rfl
    exact hquote hc
  have hclose : ∀ s, literal ['"'] ('"' :: s) = some s := fun s => rfl
  have hbefore : ∀ s, skip isBlank (" from ".toList ++ s) = some ("from ".toList ++ s) :=
    fun s => skip_cons (by decide) (fun c hc => by obtain rfl := Option.some.inj hc; decide)
  have hfrom : ∀ s, literal "from".toList ("from ".toList ++ s) = some (' ' :: s) :=
    fun s => literal_eq_some_iff.mpr rfl
  have hat : ∀ s, literal ['@'] ('@' :: s) = some s := fun s => rfl
  have hlast : run (fun c => !isBlank c) version = some (version, []) :=
    run_self hne fun c hc => by rw [hversion c hc]; rfl
  unfold peerLine
  simp only [hpeer, hblank hname, nameAt_append hname, hopen, hrun, hclose, hbefore, hfrom,
    hblank hother, nameAt_append hother, hat, hlast, Option.bind_eq_bind, Option.bind_some]
  rfl

theorem find_peerLine (hname : PackageName name) (hother : PackageName other)
    (hrange : range ≠ []) (hquote : '"' ∉ range) (hne : version ≠ [])
    (hversion : ∀ c ∈ version, isBlank c = false) :
    find peerLine (peerRange name range other version) =
      some ⟨String.ofList name, some (String.ofList range),
        some [String.ofList (other ++ '@' :: version)]⟩ := by
  have hline : peerRange name range other version = "npm ERR! ".toList ++ ("peer ".toList ++
      (name ++ '@' :: '"' :: (range ++ '"' ::
        (" from ".toList ++ (other ++ '@' :: version))))) := by
    unfold peerRange
    simp only [List.append_assoc, List.cons_append]
    rfl
  have hscan : ∀ t m, peerLine t = some m → ∃ w ∈ ["peer".toList], ∃ r, anyCase w t = some r := by
    intro t m hread
    obtain ⟨r, hpeer, -⟩ := Option.bind_eq_some_iff.mp hread
    exact ⟨_, List.mem_singleton.mpr rfl, r, anyCase_of_literal hpeer⟩
  rw [hline, find_of_noneBegins hscan (by decide)]
  exact find_of_here (peerLine_append hname hother hrange hquote hne hversion)

/-! ## A peer that is not installed -/

/-- The words that report an unresolved dependency. -/
def unresolvedWords : List (List Char) :=
  ["Could not resolve dependency".toList, "peer dep missing:".toList]

theorem words_of_unresolved (s : List Char) (m : PackageMention) (h : unresolved s = some m) :
    ∃ w ∈ unresolvedWords, ∃ r, anyCase w s = some r := by
  cases hfirst : literal "Could not resolve dependency".toList s with
  | some r => exact ⟨_, by simp [unresolvedWords], r, anyCase_of_literal hfirst⟩
  | none =>
    cases hsecond : literal "peer dep missing:".toList s with
    | some r => exact ⟨_, by simp [unresolvedWords], r, anyCase_of_literal hsecond⟩
    | none =>
      unfold unresolved at h
      simp only [hfirst, hsecond, Option.bind_eq_bind, Option.bind_none] at h
      cases h

theorem unresolved_missing (h : PackageName name) (hne : range ≠ [])
    (hall : ∀ c ∈ range, isVersionChar c = true) (r : List Char) :
    unresolved ("peer dep missing:".toList ++ ' ' :: (name ++ '@' :: (range ++ ',' :: r))) =
      some ⟨String.ofList name, some (String.ofList range), none⟩ := by
  have hcomma : isVersionChar ',' = false := by decide
  have hnot : ∀ s, literal "Could not resolve dependency".toList
      ("peer dep missing:".toList ++ s) = none := fun s => rfl
  have hwords : ∀ s, literal "peer dep missing:".toList ("peer dep missing:".toList ++ s) =
      some s := fun s => literal_eq_some_iff.mpr rfl
  unfold unresolved
  simp only [hnot, hwords, Option.bind_eq_bind, Option.bind_none, Option.bind_some,
    h.dropWhile_blank, afterPeer_name h, versionedName_version h hne hall hcomma]
  rfl

/-- The line about a peer that is not installed and the package that requires it. -/
def peerMissing (name range other version : List Char) : List Char :=
  "npm ERR! peer dep missing: ".toList ++ name ++ '@' :: range ++ ", required by ".toList ++
    other ++ '@' :: version

theorem peerMissing_eq (name range other version : List Char) :
    peerMissing name range other version = "npm ERR! ".toList ++ ("peer dep missing:".toList ++
      ' ' :: (name ++ '@' :: (range ++ ',' :: ' ' ::
        ("required by ".toList ++ (other ++ '@' :: version))))) := by
  unfold peerMissing
  simp only [List.append_assoc, List.cons_append]
  rfl

theorem versionMention_peerMissing (h : PackageName name) (hne : range ≠ [])
    (hall : ∀ c ∈ range, isVersionChar c = true) (other version : List Char) :
    versionMention (peerMissing name range other version) =
      some ⟨String.ofList name, some (String.ofList range), none⟩ := by
  have hfind : find unresolved (peerMissing name range other version) =
      some ⟨String.ofList name, some (String.ofList range), none⟩ := by
    rw [peerMissing_eq, find_of_noneBegins words_of_unresolved (by decide)]
    exact find_of_here (unresolved_missing h hne hall _)
  unfold versionMention
  rw [hfind]
  rfl

/-- A range in quotes is looked for. -/
theorem quote_of_peerLine {m : PackageMention} (h : peerLine s = some m) : '"' ∈ s := by
  unfold peerLine at h
  simp only [bind, Option.bind_eq_some_iff] at h
  obtain ⟨t, hpeer, t', hskip, ⟨n, r⟩, hname, r', hopen, -⟩ := h
  obtain ⟨b, rfl, -⟩ := skip_eq_some_iff.mp hskip
  dsimp only at hopen
  rw [literal_eq_some_iff.mp hpeer, nameAt_eq_some hname, literal_eq_some_iff.mp hopen]
  simp

theorem find_peerLine_missing (hname : PackageName name)
    (hrange : ∀ c ∈ range, isVersionChar c = true) (hother : PackageName other)
    (hversion : ∀ c ∈ version, isVersionChar c = true) :
    find peerLine (peerMissing name range other version) = none := by
  have hnames : ∀ {s : List Char}, PackageName s → '"' ∉ s :=
    fun h hc => absurd (h.mem hc).2.1 (by decide)
  have hversions : ∀ {s : List Char}, (∀ c ∈ s, isVersionChar c = true) → '"' ∉ s :=
    fun h hc => (isVersionChar_iff.mp (h _ hc)).2.1 rfl
  have hwords : '"' ∉ "npm ERR! peer dep missing: ".toList ∧ '"' ∉ ", required by ".toList := by
    decide
  have hquote : '"' ∉ peerMissing name range other version := by
    unfold peerMissing
    simp only [List.mem_append, List.mem_cons, not_or]
    exact ⟨⟨⟨⟨⟨hwords.1, hnames hname⟩, by decide, hversions hrange⟩, hwords.2⟩, hnames hother⟩,
      by decide, hversions hversion⟩
  refine find_eq_none fun t ht => ?_
  cases hread : peerLine t with
  | none => rfl
  | some m => exact absurd (ht.subset (quote_of_peerLine hread)) hquote

/-! ## Who requires it -/

theorem conflictAt_eq_none (h : ∀ w ∈ ["requires", "wants", "required by"], ∀ r,
    literal w.toList s = some r → skip isBlank r = none) : conflictAt s = none := by
  unfold conflictAt
  rw [List.findSome?_eq_none_iff]
  intro w hw
  cases hword : literal w.toList s with
  | none => rfl
  | some r =>
    rw [Option.bind_eq_bind, Option.bind_some, h w hw r hword]
    rfl

/-- In front of a comma no word is followed by a blank, whatever stands there without blanks. -/
theorem conflictAt_requirement (h : ∀ c ∈ s, isBlank c = false) (r : List Char) :
    conflictAt (s ++ ',' :: r) = none := by
  refine conflictAt_eq_none fun w hw t ht => ?_
  have hcomma : ∀ w ∈ ["requires", "wants", "required by"], ',' ∉ w.toList := by decide
  have heq : s ++ ',' :: r = w.toList ++ t := literal_eq_some_iff.mp ht
  obtain ⟨x, rfl⟩ : w.toList <+: s := (prefix_append_cons_iff (hcomma w hw)).mp ⟨t, heq.symm⟩
  rw [List.append_assoc, List.append_cancel_left_eq] at heq
  rw [← heq]
  exact skip_append_cons_eq_none (fun c hc => h c (List.mem_append_right _ hc)) (by decide) r

/-- Where no word begins, nobody requires anything. -/
theorem conflictAt_of_noneBegins {p t : List Char}
    (h : noneBegins (["requires", "wants", "required by"].map (·.toList)) p [] = true)
    (hne : t ≠ []) (ht : t <:+ p) (s : List Char) : conflictAt (t ++ s) = none := by
  refine conflictAt_eq_none fun w hw r hr => ?_
  have hnone : anyCase w.toList (t ++ ([] ++ s)) = none :=
    anyCase_of_noneBegins h (List.mem_map_of_mem hw) hne ht s
  rw [List.nil_append, anyCase_of_literal hr] at hnone
  cases hnone

theorem conflictsIn_append {p : List Char} {fuel : Nat}
    (h : ∀ t, t ≠ [] → t <:+ p → conflictAt (t ++ s) = none) :
    conflictsIn (p.length + fuel) (p ++ s) = conflictsIn fuel s := by
  induction p with
  | nil => rw [List.length_nil, Nat.zero_add, List.nil_append]
  | cons c p ih =>
    have hhere : conflictAt (c :: (p ++ s)) = none := h (c :: p) (by simp) (List.suffix_refl _)
    rw [List.length_cons, Nat.add_right_comm, List.cons_append, conflictsIn, hhere]
    exact ih fun t hne ht => h t hne (ht.trans (List.suffix_cons c p))

theorem conflictsIn_of_here {found : String} {fuel : Nat}
    (h : conflictAt s = some (found, r)) :
    conflictsIn (fuel + 1) s = found :: conflictsIn fuel r := by
  cases s with
  | nil => cases h
  | cons c s => rw [conflictsIn, h]

/-- Behind the words the package that requires the peer is read to its end. -/
theorem conflictAt_requiredBy (h : PackageName other) (hne : version ≠ [])
    (hall : ∀ c ∈ version, isVersionChar c = true) :
    conflictAt ("required by ".toList ++ (other ++ '@' :: version)) =
      some (String.ofList (other ++ '@' :: version), []) := by
  have hfirst : ∀ s, literal "requires".toList ("required by ".toList ++ s) = none := fun s => rfl
  have hsecond : ∀ s, literal "wants".toList ("required by ".toList ++ s) = none := fun s => rfl
  have hthird : ∀ s, literal "required by".toList ("required by ".toList ++ s) = some (' ' :: s) :=
    fun s => literal_eq_some_iff.mpr rfl
  have hblank : skip isBlank (' ' :: (other ++ '@' :: version)) = some (other ++ '@' :: version) :=
    skip_cons (by decide) (h.head_append _)
  unfold conflictAt
  simp only [List.findSome?_cons, hfirst, hsecond, hthird, hblank, afterPeer_name h,
    conflictName_append h hne hall, Option.bind_eq_bind, Option.bind_none, Option.bind_some]

/-- The package that requires the peer is the only one that is found. -/
theorem conflictsIn_peerMissing (hname : PackageName name)
    (hrange : ∀ c ∈ range, isVersionChar c = true) (hother : PackageName other)
    (hne : version ≠ []) (hall : ∀ c ∈ version, isVersionChar c = true) :
    conflictsIn ((peerMissing name range other version).length + 1)
      (peerMissing name range other version) = [String.ofList (other ++ '@' :: version)] := by
  have hline : peerMissing name range other version = "npm ERR! peer dep missing: ".toList ++
      ((name ++ '@' :: range ++ [',']) ++ ([' '] ++ ("required by ".toList ++
        (other ++ '@' :: version)))) := by
    unfold peerMissing
    simp
  have hknown : ∀ s t, t ≠ [] → t <:+ "npm ERR! peer dep missing: ".toList →
      conflictAt (t ++ s) = none :=
    fun s t hne ht => conflictAt_of_noneBegins (by decide) hne ht s
  have hblank : ∀ s t, t ≠ [] → t <:+ [' '] → conflictAt (t ++ s) = none :=
    fun s t hne ht => conflictAt_of_noneBegins (by decide) hne ht s
  have hbody : ∀ c ∈ name ++ '@' :: range, isBlank c = false := by
    intro c hc
    rw [List.mem_append, List.mem_cons] at hc
    rcases hc with hc | rfl | hc
    · exact (hname.mem hc).1
    · decide
    · exact (isVersionChar_iff.mp (hrange c hc)).1
  have hrequirement : ∀ s t, t ≠ [] → t <:+ name ++ '@' :: range ++ [','] →
      conflictAt (t ++ s) = none := by
    intro s t hne ht
    -- a suffix that is not empty keeps the comma
    obtain ⟨u, rfl, hu⟩ := (List.suffix_concat_iff.mp ht).resolve_left hne
    rw [List.append_assoc, List.singleton_append]
    exact conflictAt_requirement (fun c hc => hbody c (hu.subset hc)) s
  have hlength : ∀ a b c d : List Char, (a ++ (b ++ (c ++ d))).length + 1 =
      a.length + (b.length + (c.length + (d.length + 1))) := by
    intro a b c d
    simp only [List.length_append]
    omega
  rw [hline, hlength, conflictsIn_append (hknown _), conflictsIn_append (hrequirement _),
    conflictsIn_append (hblank _), conflictsIn_of_here (conflictAt_requiredBy hother hne hall)]
  rfl

/-! ## The messages -/

/-- Both formats tell the package, the range asked for and who asks for it, for all names and
versions: a range in quotes may hold anything but the quote, and a version without quotes ends at a
blank or comma. -/
theorem mention_requiredPeer (hname : PackageName name) (hother : PackageName other)
    (hrange : range ≠ []) (hversion : version ≠ []) :
    ('"' ∉ range → (∀ c ∈ version, isBlank c = false) →
      mention .peerConflict (peerRange name range other version) =
        some ⟨String.ofList name, some (String.ofList range),
          some [String.ofList (other ++ '@' :: version)]⟩) ∧
    ((∀ c ∈ range, isVersionChar c = true) → (∀ c ∈ version, isVersionChar c = true) →
      mention .peerConflict (peerMissing name range other version) =
        some ⟨String.ofList name, some (String.ofList range),
          some [String.ofList (other ++ '@' :: version)]⟩) := by
  constructor
  · intro hquote hblank
    show peerMention _ = _
    unfold peerMention
    rw [find_peerLine hname hother hrange hquote hversion hblank]
    rfl
  · intro hrangeChars hversionChars
    show peerMention _ = _
    unfold peerMention
    rw [find_peerLine_missing hname hrangeChars hother hversionChars,
      versionMention_peerMissing hname hrange hrangeChars,
      conflictsIn_peerMissing hname hrangeChars hother hversion hversionChars]
    rfl

/-- Names that are themselves the words around them, and a range with blanks. -/
theorem mention_requiredPeer_words :
    mention .peerConflict
        "npm ERR! peer @peer/requires@\"^16.8.0 || ^17.0.0\" from wants@1.0.0,'x'@2".toList =
      some ⟨"@peer/requires", some "^16.8.0 || ^17.0.0", some ["wants@1.0.0,'x'@2"]⟩ ∧
    mention .peerConflict
        "npm ERR! peer dep missing: peer@requires, required by @wants/peer@2.0.0@x".toList =
      some ⟨"peer", some "requires", some ["@wants/peer@2.0.0@x"]⟩ := by
  have hscoped : PackageName "@peer/requires".toList :=
    .inScope "peer".toList "requires".toList (by decide) (by decide) (by decide) (by decide)
  have hwants : PackageName "wants".toList := .plain _ (by decide) (by decide)
  have hpeer : PackageName "peer".toList := .plain _ (by decide) (by decide)
  have hother : PackageName "@wants/peer".toList :=
    .inScope "wants".toList "peer".toList (by decide) (by decide) (by decide) (by decide)
  have hline : peerRange "@peer/requires".toList "^16.8.0 || ^17.0.0".toList "wants".toList
      "1.0.0,'x'@2".toList =
      "npm ERR! peer @peer/requires@\"^16.8.0 || ^17.0.0\" from wants@1.0.0,'x'@2".toList := by
    decide +kernel
  have hmissing : peerMissing "peer".toList "requires".toList "@wants/peer".toList
      "2.0.0@x".toList =
      "npm ERR! peer dep missing: peer@requires, required by @wants/peer@2.0.0@x".toList := by
    decide +kernel
  rw [← hline, ← hmissing]
  exact ⟨(mention_requiredPeer hscoped hwants (by decide) (by decide)).1 (by decide)
      (eq_false_of_all (by decide)),
    (mention_requiredPeer hpeer hother (by decide) (by decide)).2
      (List.all_eq_true.mp (by decide)) (List.all_eq_true.mp (by decide))⟩

end BuildRepair
