import BuildRepair.Proofs.Diagnosis.ModulePath
import BuildRepair.Proofs.Diagnosis.Progress
import Mathlib.Data.Option.Basic

/-
  The diagnosis of a missing module (`ofLog_missing`). The signs of five categories are tested before
  those of a missing module, and they are looked for in the whole line, so also in the name of the
  module. The words around the name show none of them (`any_holdsAnyCase_missingLine`,
  `any_holds_missingLine`), and neither do the two quotes. So the line is taken for a missing module
  exactly if its name has none of the words in it that some other category goes by (`NamesSign`).
-/

namespace BuildRepair

open Text

variable {c : Char} {p u path name : List Char} {ps names : List String}

/-! ## Names of modules -/

/-- Characters of one part of a name: small letters, digits, hyphen, underscore and full stop. -/
def isPartChar (c : Char) : Bool :=
  ('a' ≤ c && c ≤ 'z') || isAsciiDigit c || c == '-' || c == '_' || c == '.'

/-- Characters of a path: those of names, with the at sign of a scope and slashes. -/
def isPathChar (c : Char) : Bool := isPartChar c || c == '@' || c == '/'

/-- Whether a text can be the path of a module. -/
def isPath (path : List Char) : Bool := path.all isPathChar

theorem isPath_mem (hpath : isPath path = true) (hc : c ∈ path) : isPathChar c = true :=
  List.all_eq_true.mp hpath c hc

/-- A name of a module: a plain one that starts with a letter, or one with a scope. -/
inductive ModuleName : List Char → Prop
  | plain (c : Char) (s : List Char) : 'a' ≤ c → c ≤ 'z' → s.all isPartChar = true →
      ModuleName (c :: s)
  | inScope (s n : List Char) : s ≠ [] → n ≠ [] → s.all isPartChar = true →
      n.all isPartChar = true → ModuleName ('@' :: s ++ '/' :: n)

theorem ModuleName.isPath (h : ModuleName name) : isPath name = true := by
  have hpart : ∀ s : List Char, s.all isPartChar = true → s.all isPathChar = true := by
    intro s hs
    rw [List.all_eq_true] at hs ⊢
    intro c hc
    simp [isPathChar, hs c hc]
  unfold BuildRepair.isPath
  cases h with
  | plain c s hlow hhigh hs =>
    have hc : isPathChar c = true := by simp [isPathChar, isPartChar, hlow, hhigh]
    rw [List.all_cons, hc, hpart s hs]
    rfl
  | inScope s n _ _ hs hn =>
    rw [List.all_append, List.all_cons, List.all_cons, hpart s hs, hpart n hn]
    rfl

theorem ModuleName.ne_nil (h : ModuleName name) : name ≠ [] := by
  cases h <;> simp

/-- Characters of a path are small forms in ASCII, and neither quotes nor blanks. -/
theorem isPathChar_ascii (h : isPathChar c = true) :
    c.toNat < 0x80 ∧ asciiLower c = c ∧ isQuote c = false ∧ isBlank c = false := by
  have hascii : c.toNat < 0x80 := by
    simp only [isPathChar, isPartChar, isAsciiDigit, Bool.or_eq_true, Bool.and_eq_true,
      decide_eq_true_eq, beq_iff_eq] at h
    rcases h with (((((h | h) | rfl) | rfl) | rfl) | rfl) | rfl
    · exact Nat.lt_of_le_of_lt h.2 (by decide)
    · exact Nat.lt_of_le_of_lt h.2 (by decide)
    all_goals decide
  have hall : ∀ n, n < 0x80 → isPathChar (Char.ofNat n) = true →
      asciiLower (Char.ofNat n) = Char.ofNat n ∧ isQuote (Char.ofNat n) = false ∧
        isBlank (Char.ofNat n) = false := by
    decide
  have hchar := hall c.toNat hascii
  rw [Char.ofNat_toNat] at hchar
  exact ⟨hascii, hchar h⟩

theorem isPathChar_small (h : isPathChar c = true) : c.toNat < 0x80 ∧ asciiLower c = c :=
  have hc := isPathChar_ascii h
  ⟨hc.1, hc.2.1⟩

/-! ## Words in the line -/

/-- The line that reports a missing module. -/
def missingLine (path : List Char) : List Char := missingAt '\'' path '\'' []

theorem missingLine_eq (path : List Char) :
    missingLine path = "Cannot find module ".toList ++ '\'' :: (path ++ ['\'']) := by
  unfold missingLine missingAt
  rw [List.append_assoc]
  rfl

theorem begins_missingLine (path : List Char) :
    "Cannot find module".toList <+: missingLine path := by
  have hwords : "Cannot find module".toList <+: "Cannot find module ".toList := by decide
  rw [missingLine_eq]
  exact hwords.trans (List.prefix_append ..)

theorem infix_missingLine (hne : u ≠ []) (hquote : '\'' ∉ u) :
    u <:+: missingLine path ↔ u <:+: "Cannot find module ".toList ∨ u <:+: path := by
  rw [missingLine_eq, infix_append_cons_iff hquote, infix_append_cons_iff hquote, List.infix_nil,
    or_iff_left hne]

/-- What is cut out of the line, but not out of its words, and has no quote is cut out of its path. -/
theorem append_eq_missingLine {r : List Char} (hquote : '\'' ∉ u)
    (hwords : ¬ u <:+: "Cannot find module ".toList) (heq : p ++ u ++ r = missingLine path) :
    ∃ s t, path = s ++ u ++ t ∧ p = "Cannot find module ".toList ++ '\'' :: s ∧
      r = t ++ ['\''] := by
  have hne : u ≠ [] := by
    rintro rfl
    exact hwords List.nil_infix
  rw [missingLine_eq] at heq
  rcases append_eq_append_cons hquote hne heq with ⟨v, hin, -⟩ | ⟨s, rfl, hrest⟩
  · exact absurd ⟨p, v, hin.symm⟩ hwords
  · rcases append_eq_append_cons hquote hne hrest.symm with ⟨t, rfl, rfl⟩ | ⟨v, -, hnil⟩
    · exact ⟨s, t, rfl, rfl, rfl⟩
    · simp_all

/-- Words that the line of a missing module may show in its path only, whatever their case. -/
def isForeign (p : String) : Bool :=
  !p.toList.isEmpty && p.toList.all (!sameLetter · '\'') &&
    !holdsAnyCase p "Cannot find module ".toList

theorem holdsAnyCase_missingLine {p : String} (hp : isForeign p = true)
    (hpath : isPath path = true) :
    holdsAnyCase p (missingLine path) = true ↔ p.toList.map asciiLower <:+: path := by
  unfold isForeign at hp
  rw [Bool.and_eq_true, Bool.and_eq_true, Bool.not_eq_true', Bool.not_eq_true'] at hp
  obtain ⟨⟨hne, hquote⟩, hwords⟩ := hp
  rw [holdsAnyCase_iff]
  constructor
  · rintro ⟨u, hu, hreads⟩
    have hnotQuote := hreads.not_mem hquote
    have hnonempty : u ≠ [] := by
      rintro rfl
      exact List.isEmpty_eq_false_iff.mp hne (List.forall₂_nil_right_iff.mp hreads)
    rcases (infix_missingLine hnonempty hnotQuote).mp hu with hu | hu
    · rw [holdsAnyCase_iff.mpr ⟨u, hu, hreads⟩] at hwords
      cases hwords
    · rwa [← hreads.eq_small fun c hc => isPathChar_small (isPath_mem hpath (hu.subset hc))]
  · intro h
    refine ⟨_, ?_, ReadsAs.small _⟩
    rw [missingLine_eq]
    exact h.trans ⟨"Cannot find module '".toList, ['\''], by simp⟩

/-- Of several words, whatever their case, the line shows those that a path can hold, and only if
its path does. -/
theorem any_holdsAnyCase_missingLine (hpath : isPath path = true)
    (hps : ps.all isForeign = true)
    (hnames : (ps.map fun p => p.toList.map asciiLower).filter isPath =
      names.map (·.toList)) :
    ps.any (holdsAnyCase · (missingLine path)) = true ↔ ∃ n ∈ names, n.toList <:+: path := by
  have hmem : ∀ l : List Char, l ∈ names.map (·.toList) ↔
      (∃ p ∈ ps, p.toList.map asciiLower = l) ∧ isPath l = true := by
    intro l
    rw [← hnames, List.mem_filter, List.mem_map]
  rw [List.any_eq_true]
  constructor
  · rintro ⟨p, hp, h⟩
    rw [holdsAnyCase_missingLine (List.all_eq_true.mp hps p hp) hpath] at h
    have hall : isPath (p.toList.map asciiLower) = true :=
      List.all_eq_true.mpr fun c hc => isPath_mem hpath (h.subset hc)
    obtain ⟨n, hn, heq⟩ := List.mem_map.mp ((hmem _).mpr ⟨⟨p, hp, rfl⟩, hall⟩)
    exact ⟨n, hn, heq ▸ h⟩
  · rintro ⟨n, hn, h⟩
    obtain ⟨⟨p, hp, heq⟩, -⟩ := (hmem _).mp (List.mem_map_of_mem hn)
    exact ⟨p, hp, (holdsAnyCase_missingLine (List.all_eq_true.mp hps p hp) hpath).mpr (heq ▸ h)⟩

/-- Of several words, just as they are written, the line shows those that a path can hold. -/
theorem any_holds_missingLine (hpath : isPath path = true)
    (hps : ∀ p ∈ ps, p.toList ≠ [] ∧ '\'' ∉ p.toList ∧
      ¬ p.toList <:+: "Cannot find module ".toList)
    (hnames : ps.filter (isPath ·.toList) = names) :
    ps.any (holds · (missingLine path)) = true ↔ ∃ n ∈ names, n.toList <:+: path := by
  rw [List.any_eq_true, ← hnames]
  constructor
  · rintro ⟨p, hp, h⟩
    obtain ⟨hne, hquote, hwords⟩ := hps p hp
    have hin : p.toList <:+: path :=
      ((infix_missingLine hne hquote).mp (holds_iff.mp h)).resolve_left hwords
    have hall : isPath p.toList = true :=
      List.all_eq_true.mpr fun c hc => isPath_mem hpath (hin.subset hc)
    exact ⟨p, List.mem_filter.mpr ⟨hp, hall⟩, hin⟩
  · rintro ⟨n, hn, h⟩
    have hn := List.mem_of_mem_filter hn
    obtain ⟨hne, hquote, -⟩ := hps n hn
    exact ⟨n, hn, holds_iff.mpr ((infix_missingLine hne hquote).mpr (.inr h))⟩

/-- A character that neither the words of the line nor a path can hold is not in it, whatever its
case. -/
theorem not_reads_missingLine (hpath : isPath path = true) {a : Char}
    (ha : isPathChar (asciiLower a) = false)
    (hwords : "Cannot find module '".toList.all (!sameLetter a ·) = true) :
    ∀ c ∈ missingLine path, sameLetter a c = false := by
  have hin : ∀ c ∈ path, sameLetter a c = false := by
    intro c hc
    rw [Bool.eq_false_iff]
    intro hreads
    have hsmall : [c] = [asciiLower a] :=
      ReadsAs.eq_small (.cons hreads .nil) (by simpa using isPathChar_small (isPath_mem hpath hc))
    rw [← List.singleton_inj.mp hsmall, isPath_mem hpath hc] at ha
    cases ha
  intro c hc
  rw [missingLine_eq, List.mem_append, List.mem_cons, List.mem_append, List.mem_singleton] at hc
  have hfront : ∀ c ∈ "Cannot find module ".toList ++ ['\''], sameLetter a c = false :=
    eq_false_of_all hwords
  have hquote := hfront '\'' (by simp)
  rcases hc with hc | rfl | hc | rfl
  · exact hfront c (List.mem_append_left _ hc)
  · exact hquote
  · exact hin c hc
  · exact hquote

/-- What begins with words is not found in the line, if neither its words nor a path can hold one of
their characters. -/
theorem find_missingLine {α : Type} {scan : List Char → Option α} {w : List Char} {a : Char}
    (hpath : isPath path = true) (hmem : a ∈ w) (ha : isPathChar (asciiLower a) = false)
    (hwords : "Cannot find module '".toList.all (!sameLetter a ·) = true)
    (hscan : ∀ t, (scan t).isSome = true → ∃ r, anyCase w t = some r) :
    (find scan (missingLine path)).isSome = false := by
  rw [Bool.eq_false_iff, Ne, isSome_find_iff]
  rintro ⟨t, ht, h⟩
  obtain ⟨r, hr⟩ := hscan t h
  obtain ⟨u, rfl, hu⟩ := anyCase_eq_some_iff.mp hr
  obtain ⟨c, hc, hreads⟩ := hu.exists_mem hmem
  rw [not_reads_missingLine hpath ha hwords c (ht.subset (List.mem_append_left _ hc))] at hreads
  cases hreads

/-! ## Signs of other categories -/

/-- `lockfile` as a word of its own. -/
def HasLockfile (path : List Char) : Prop :=
  ∃ s t, path = s ++ "lockfile".toList ++ t ∧ s.getLast?.any isWord = false ∧
    t.head?.any isWord = false

/-- What reads as `lock file`, with a blank or without. -/
def ReadsLockFile (w : List Char) : Prop :=
  ∃ u b v, w = u ++ b ++ v ∧ ReadsAs "lock".toList u ∧ ReadsAs "file".toList v ∧
    ∀ c ∈ b, isBlank c = true

namespace ReadsLockFile

variable {w : List Char}

theorem no_quote (h : ReadsLockFile w) : '\'' ∉ w := by
  obtain ⟨u, b, v, rfl, hu, hv, hb⟩ := h
  rw [List.mem_append, List.mem_append, not_or, not_or]
  refine ⟨⟨hu.not_mem (by decide), fun hquote => ?_⟩, hv.not_mem (by decide)⟩
  have hblank := hb _ hquote
  revert hblank
  decide

/-- The words of the line have no letter that reads as the last one of `lock`. -/
theorem not_infix (h : ReadsLockFile w) : ¬ w <:+: "Cannot find module ".toList := by
  intro hin
  obtain ⟨u, b, v, rfl, hu, -⟩ := h
  obtain ⟨c, hc, hk⟩ := hu.exists_mem (a := 'k') (by decide)
  have hnone : "Cannot find module ".toList.all (!sameLetter 'k' ·) = true := by decide
  rw [eq_false_of_all hnone c (hin.subset (by simp [hc]))] at hk
  cases hk

theorem eq_of_isPath (h : ReadsLockFile w) (hpath : isPath w = true) :
    w = "lockfile".toList := by
  obtain ⟨u, b, v, rfl, hu, hv, hb⟩ := h
  have hu : u = "lock".toList :=
    hu.eq_small fun c hc => isPathChar_small (isPath_mem hpath (by simp [hc]))
  have hv : v = "file".toList :=
    hv.eq_small fun c hc => isPathChar_small (isPath_mem hpath (by simp [hc]))
  have hb : b = [] := by
    refine List.eq_nil_iff_forall_not_mem.mpr fun c hc => ?_
    have hblank := (isPathChar_ascii (isPath_mem (c := c) hpath (by simp [hc]))).2.2.2
    rw [hb c hc] at hblank
    cases hblank
  rw [hu, hv, hb]
  rfl

end ReadsLockFile

theorem lockFileWords_isSome {before : Option Char} {t : List Char}
    (h : (lockFileWords before t).isSome = true) :
    ∃ w r, t = w ++ r ∧ ReadsLockFile w ∧ atBoundary before t = true ∧
      atBoundary (some 'e') r = true := by
  have hoptional : ∀ s : List Char,
      ∃ b, s = b ++ Text.optional isBlank s ∧ ∀ c ∈ b, isBlank c = true := by
    intro s
    cases s with
    | nil => exact ⟨[], rfl, by simp⟩
    | cons c s =>
      by_cases hc : isBlank c = true
      · exact ⟨[c], by simp [Text.optional, one, hc], by simpa using hc⟩
      · exact ⟨[], by simp [Text.optional, one, hc], by simp⟩
  obtain ⟨x, h⟩ := Option.isSome_iff_exists.mp h
  unfold lockFileWords at h
  simp only [bind, Option.bind_eq_some_iff] at h
  obtain ⟨_, hstart, s, hlock, r, hfile, hend⟩ := h
  obtain ⟨u, rfl, hu⟩ := anyCase_eq_some_iff.mp hlock
  obtain ⟨v, hv, hreads⟩ := anyCase_eq_some_iff.mp hfile
  obtain ⟨b, hb, hblank⟩ := hoptional s
  refine ⟨u ++ b ++ v, r, ?_, ⟨u, b, v, rfl, hu, hreads, hblank⟩,
    (Option.guard_eq_some' _).mp hstart, (Option.guard_eq_some' _).mp hend⟩
  rw [hv] at hb
  rw [hb]
  simp

theorem lockFileWords_lockfile {before : Option Char} {t : List Char}
    (hbefore : before.any isWord = false) (ht : t.head?.any isWord = false) :
    (lockFileWords before ("lockfile".toList ++ t)).isSome = true := by
  have hstart : atBoundary before ("lockfile".toList ++ t) = true := by
    unfold atBoundary
    rw [hbefore]
    rfl
  have hlock : anyCase "lock".toList ("lockfile".toList ++ t) = some ("file".toList ++ t) :=
    anyCase_eq_some_iff.mpr ⟨"lock".toList, rfl, .refl _⟩
  have hfile : anyCase "file".toList (Text.optional isBlank ("file".toList ++ t)) = some t :=
    anyCase_eq_some_iff.mpr ⟨"file".toList, rfl, .refl _⟩
  have hend : atBoundary (some 'e') t = true := by
    unfold atBoundary
    rw [ht]
    rfl
  refine Option.isSome_iff_exists.mpr ⟨(), ?_⟩
  unfold lockFileWords
  simp only [bind, Option.bind_eq_some_iff]
  exact ⟨(), (Option.guard_eq_some' _).mpr hstart, _, hlock, _, hfile,
    (Option.guard_eq_some' _).mpr hend⟩

/-- The quotes around a path are no part of a word. -/
theorem search_lockFileWords_missingLine (hpath : isPath path = true) :
    (search lockFileWords none (missingLine path)).isSome = true ↔ HasLockfile path := by
  have hquote : isWord '\'' = false := by decide
  have hlast : ∀ s : List Char,
      (("Cannot find module ".toList ++ '\'' :: s).getLast?.or none).any isWord =
        s.getLast?.any isWord := by
    intro s
    rw [List.getLast?_append, List.getLast?_cons]
    cases s.getLast? <;> simp [hquote]
  have hhead : ∀ t : List Char, (t ++ ['\'']).head?.any isWord = t.head?.any isWord := by
    intro t
    cases t <;> simp [hquote]
  rw [isSome_search_iff]
  constructor
  · rintro ⟨p, t, hline, hscan⟩
    obtain ⟨w, r, rfl, hw, hstart, hend⟩ := lockFileWords_isSome hscan
    rw [← List.append_assoc] at hline
    obtain ⟨s, t, rfl, rfl, rfl⟩ := append_eq_missingLine hw.no_quote hw.not_infix hline.symm
    obtain rfl := hw.eq_of_isPath
      (List.all_eq_true.mpr fun c hc => isPath_mem hpath (by simp [hc]))
    unfold atBoundary at hstart hend
    rw [hlast] at hstart
    rw [hhead] at hend
    have hl : isWord 'l' = true := by decide
    have he : isWord 'e' = true := by decide
    exact ⟨s, t, rfl, by simpa [hl] using hstart, by simpa [he] using hend⟩
  · rintro ⟨s, t, rfl, hs, ht⟩
    refine ⟨"Cannot find module ".toList ++ '\'' :: s, "lockfile".toList ++ (t ++ ['\'']), ?_, ?_⟩
    · rw [missingLine_eq]
      simp
    · exact lockFileWords_lockfile (by rw [hlast, hs]) (by rw [hhead, ht])

/-- A quoted range is looked for. -/
theorem quote_mem_of_wordThenRange {s : List Char} (h : (wordThenRange s).isSome = true) :
    '"' ∈ s := by
  have hrange : ∀ {s : List Char}, (quotedRangeFrom s).isSome = true → '"' ∈ s := by
    intro s h
    obtain ⟨x, h⟩ := Option.isSome_iff_exists.mp h
    obtain ⟨r, hmark, -⟩ := Option.bind_eq_some_iff.mp h
    rw [literal_eq_some_iff.mp hmark]
    simp
  induction s with
  | nil => cases h
  | cons c s ih =>
    unfold wordThenRange at h
    split at h
    · cases h
    · split at h
      · next hhere => exact List.mem_cons_of_mem c (hrange (by rw [hhere]; rfl))
      · exact List.mem_cons_of_mem c (ih h)

theorem search_peerRequirement_missingLine (hpath : isPath path = true) :
    (search peerRequirement none (missingLine path)).isSome = false := by
  rw [Bool.eq_false_iff, Ne, isSome_search_iff]
  rintro ⟨p, t, hline, h⟩
  obtain ⟨x, h⟩ := Option.isSome_iff_exists.mp h
  unfold peerRequirement at h
  simp only [bind, Option.bind_eq_some_iff] at h
  obtain ⟨_, -, s, hpeer, r, hblanks, hrange⟩ := h
  obtain ⟨u, rfl, -⟩ := anyCase_eq_some_iff.mp hpeer
  obtain ⟨taken, rfl, -⟩ := skip_eq_some_iff.mp hblanks
  have hquote : '"' ∈ r := quote_mem_of_wordThenRange (by rw [hrange]; rfl)
  have hnot := not_reads_missingLine hpath (a := '"') (by decide) (by decide) '"'
    (by simp [hline, hquote])
  revert hnot
  decide

theorem find_gitScheme_missingLine (hpath : isPath path = true) :
    (find gitScheme (missingLine path)).isSome = false := by
  refine find_missingLine (w := "git+".toList) (a := '+') hpath (by decide) (by decide) (by decide)
    fun t h => ?_
  obtain ⟨x, h⟩ := Option.isSome_iff_exists.mp h
  obtain ⟨r, hgit, -⟩ := Option.bind_eq_some_iff.mp h
  exact ⟨r, hgit⟩

theorem find_githubShorthand_missingLine (hpath : isPath path = true) :
    (find githubShorthand (missingLine path)).isSome = false := by
  refine find_missingLine (w := "github:".toList) (a := ':') hpath (by decide) (by decide)
    (by decide) fun t h => ?_
  obtain ⟨x, h⟩ := Option.isSome_iff_exists.mp h
  obtain ⟨r, hhost, -⟩ := Option.bind_eq_some_iff.mp h
  exact ⟨r, hhost⟩

/-- What names can hold of the signs that are tested before those of a missing module. -/
def earlierSigns : List String :=
  ["enolock", "eintegrity", "lockfileversion", "peerdependencies", "eresolve", "etarget",
    "notarget", "node-gyp", "prebuild-install", "node-pre-gyp", "ls-remote"]

/-- A name that shows a sign of another category. -/
def NamesSign (path : List Char) : Prop :=
  (∃ n ∈ earlierSigns, n.toList <:+: path) ∨ HasLockfile path

theorem shows_missingLine (hpath : isPath path = true) :
    (∀ e ∈ Category.all.takeWhile (· != .notFound),
      Category.shows (missingLine path) e = false) ↔ ¬ NamesSign path := by
  have hlock : Category.shows (missingLine path) .lockfileConflict = true ↔
      (∃ n ∈ ["enolock", "eintegrity", "lockfileversion"], n.toList <:+: path) ∨
        HasLockfile path :=
    Bool.or_eq_true_iff.trans (or_congr
      (any_holdsAnyCase_missingLine hpath (by decide) (by decide))
      (search_lockFileWords_missingLine hpath))
  have hpeer : Category.shows (missingLine path) .peerConflict = true ↔
      ∃ n ∈ ["peerdependencies"], n.toList <:+: path :=
    Bool.or_eq_true_iff.trans ((or_iff_left
      (by simp [search_peerRequirement_missingLine hpath])).trans
      (any_holdsAnyCase_missingLine hpath (by decide) (by decide)))
  have hversion : Category.shows (missingLine path) .versionConflict = true ↔
      ∃ n ∈ ["eresolve", "etarget", "notarget"], n.toList <:+: path :=
    any_holdsAnyCase_missingLine hpath (by decide) (by decide)
  have hnative : Category.shows (missingLine path) .nativeModule = true ↔
      ∃ n ∈ ["node-gyp", "prebuild-install", "node-pre-gyp"], n.toList <:+: path :=
    any_holds_missingLine hpath (by decide) (by decide)
  have hgit : Category.shows (missingLine path) .gitDependency = true ↔
      ∃ n ∈ ["ls-remote"], n.toList <:+: path := by
    show (_ || _ || _) = true ↔ _
    rw [find_gitScheme_missingLine hpath, find_githubShorthand_missingLine hpath, Bool.or_false,
      Bool.or_false]
    exact any_holdsAnyCase_missingLine hpath (by decide) (by decide)
  have htests : Category.all.takeWhile (· != .notFound) = [.lockfileConflict, .peerConflict,
      .versionConflict, .nativeModule, .gitDependency] := rfl
  have hany : (∃ e ∈ Category.all.takeWhile (· != .notFound),
      Category.shows (missingLine path) e = true) ↔ NamesSign path := by
    have hsigns : earlierSigns = ["enolock", "eintegrity", "lockfileversion"] ++
        ["peerdependencies"] ++ ["eresolve", "etarget", "notarget"] ++
        ["node-gyp", "prebuild-install", "node-pre-gyp"] ++ ["ls-remote"] := rfl
    rw [htests]
    simp only [List.exists_mem_cons_iff, List.not_mem_nil, false_and, exists_false, or_false]
    unfold NamesSign
    rw [hlock, hpeer, hversion, hnative, hgit, hsigns]
    simp only [List.mem_append, or_and_right, exists_or]
    grind
  rw [← hany]
  simp

theorem ofMessage_missingLine (hpath : isPath path = true) :
    Category.ofMessage (missingLine path) = .notFound ↔ ¬ NamesSign path := by
  have hshows : Category.shows (missingLine path) .notFound = true := by
    have hwords : holds "Cannot find module" (missingLine path) = true :=
      holds_iff.mpr (begins_missingLine path).isInfix
    simp [Category.shows, hwords]
  rw [Category.ofMessage_eq_iff, ← shows_missingLine hpath, and_iff_right hshows]

theorem HasLockfile.isInfix (h : HasLockfile path) : "lockfile".toList <:+: path := by
  obtain ⟨s, t, rfl, -⟩ := h
  exact ⟨s, t, rfl⟩

theorem not_namesSign (h : ∀ n ∈ "lockfile" :: earlierSigns, ¬ n.toList <:+: path) :
    ¬ NamesSign path := by
  rw [List.forall_mem_cons] at h
  rintro (⟨n, hn, hin⟩ | hlockfile)
  · exact h.2 n hn hin
  · exact h.1 hlockfile.isInfix

/-! ## The diagnosis -/

theorem ModuleName.package (h : ModuleName name) : packageOfPath name = some name := by
  have hslash : ∀ {s : List Char}, s.all isPartChar = true → s.count '/' = 0 := by
    intro s hs
    rw [List.count_eq_zero]
    intro hmem
    have hpart : isPartChar '/' = true := List.all_eq_true.mp hs _ hmem
    revert hpart
    decide
  obtain ⟨hdot, hroot, hcount⟩ : name.head? ≠ some '.' ∧ name.head? ≠ some '/' ∧
      name.count '/' < packageSegments name := by
    cases h with
    | plain c s hlow hhigh hs =>
      have hc : isPartChar c = true := by simp [isPartChar, hlow, hhigh]
      have hzero : (c :: s).count '/' = 0 := hslash (by rw [List.all_cons, hc, hs]; rfl)
      refine ⟨?_, ?_, ?_⟩
      · rintro hdot
        obtain rfl := Option.some.inj hdot
        exact absurd hlow (by decide)
      · rintro hroot
        obtain rfl := Option.some.inj hroot
        exact absurd hlow (by decide)
      · rw [hzero]
        unfold packageSegments
        split <;> decide
    | inScope s n _ _ hs hn =>
      refine ⟨by simp, by simp, ?_⟩
      have hone : ('@' :: s ++ '/' :: n).count '/' = 1 := by
        simp [hslash hs, hslash hn]
      rw [hone]
      exact Nat.lt_succ_self 1
  obtain ⟨first, hfirst, hsegments⟩ := packageOfPath_eq_some hdot hroot
  rw [hfirst, hsegments.unique ⟨hcount, .inl rfl⟩]

namespace Diagnosis

theorem package_missingLine (hpath : isPath path = true) (hne : path ≠ [])
    (h : Category.ofMessage (missingLine path) = .notFound) :
    (ofMessage (missingLine path)).package = (packageOfPath path).map String.ofList := by
  have hwords : ¬ "Cannot find module".toList <:+: [] := by decide
  have hquote : isQuote '\'' = true := by decide
  have hmention := mention_missingAt hwords hquote hquote hne
    (fun c hc => (isPathChar_ascii (isPath_mem hpath hc)).2.2.1) []
  show (mention (Category.ofMessage (missingLine path)) (missingLine path)).map _ = _
  rw [h]
  show (mention .notFound ([] ++ missingAt '\'' path '\'' [])).map _ = _
  rw [hmention, Option.map_map]
  rfl

theorem key_missingLine {package : Option String} (hpath : isPath path = true)
    (hne : path ≠ []) (hsigns : ∀ n ∈ "lockfile" :: earlierSigns, ¬ n.toList <:+: path)
    (hpackage : (packageOfPath path).map String.ofList = package) :
    (ofMessage (missingLine path)).key = ⟨.notFound, package⟩ := by
  have hcategory := (ofMessage_missingLine hpath).mpr (not_namesSign hsigns)
  exact congrArg₂ Key.mk hcategory ((package_missingLine hpath hne hcategory).trans hpackage)

theorem isProgress_missingLine (path : List Char) : isProgress (missingLine path) = false := by
  have hnoise : isNoise (missingLine path) = false :=
    isNoise_of_words (p := "Cannot find module") (by decide)
      (begins_missingLine path)
  unfold isProgress
  rw [hnoise, Bool.and_false]

theorem opensBlock_missingLine (path : List Char) : opensBlock (missingLine path) = true := by
  have hstarts : ["npm ERR!", "Error:", "SyntaxError:", "TypeError:", "Cannot find module",
      "Module not found"].any (startsWith · (missingLine path)) = true :=
    List.any_eq_true.mpr ⟨"Cannot find module", by decide,
      startsWith_iff.mpr (begins_missingLine path)⟩
  unfold opensBlock
  rw [hstarts]
  rfl

theorem trimmed_missingLine (path : List Char) : Trimmed (missingLine path) := by
  rw [missingLine_eq]
  refine ⟨by simp, fun c hc => ?_, fun c hc => ?_⟩
  · obtain rfl : 'C' = c := Option.some.inj hc
    decide
  · rw [← List.cons_append, ← List.append_assoc, List.getLast?_append] at hc
    obtain rfl : '\'' = c := Option.some.inj hc
    decide

theorem newline_not_mem_missingLine (hpath : isPath path = true) :
    '\n' ∉ missingLine path := by
  intro hmem
  have hnot := not_reads_missingLine hpath (a := '\n') (by decide) (by decide) '\n' hmem
  revert hnot
  decide

/-- Lines that report missing modules are messages of their own, and no progress. -/
theorem messages_missingLines {paths : List (List Char)} (hne : paths ≠ [])
    (hpaths : ∀ path ∈ paths, isPath path = true) :
    (messages (joinWith ['\n'] (paths.map missingLine))).filter (!isProgress ·) =
      paths.map missingLine := by
  rw [messages_lines (mt List.map_eq_nil_iff.mp hne)]
  · refine List.filter_eq_self.mpr fun line hline => ?_
    obtain ⟨path, -, rfl⟩ := List.mem_map.mp hline
    rw [isProgress_missingLine]
    rfl
  · intro line hline
    obtain ⟨path, hpath, rfl⟩ := List.mem_map.mp hline
    exact ⟨opensBlock_missingLine path, trimmed_missingLine path,
      newline_not_mem_missingLine (hpaths path hpath)⟩

theorem ofLog_missingLine (hpath : isPath path = true) :
    ofLog (missingLine path) = [ofMessage (missingLine path)] := by
  have hmessages := messages_missingLines (List.cons_ne_nil path [])
    (List.forall_mem_singleton.mpr hpath)
  have hlog : joinWith ['\n'] ([path].map missingLine) = missingLine path := rfl
  rw [hlog] at hmessages
  unfold ofLog
  rw [hmessages]
  exact List.mergeSort_singleton _

/-- The line of a missing module gives one diagnosis. It is of the category of missing modules, and
then names this very module, unless the name shows a sign of a category that is tested before. -/
theorem ofLog_missing (h : ModuleName name) :
    ∃ d, ofLog (missingLine name) = [d] ∧ (d.category = .notFound ↔ ¬ NamesSign name) ∧
      (d.category = .notFound → d.package = some (String.ofList name)) := by
  refine ⟨_, ofLog_missingLine h.isPath, ofMessage_missingLine h.isPath, fun hcategory => ?_⟩
  rw [package_missingLine h.isPath h.ne_nil hcategory, h.package]
  rfl

theorem ofLog_missing_scoped :
    ∃ d, ofLog (missingLine "@babel/core".toList) = [d] ∧ d.category = .notFound ∧
      d.package = some "@babel/core" := by
  have hname : ModuleName "@babel/core".toList :=
    .inScope "babel".toList "core".toList (by decide) (by decide) (by decide) (by decide)
  obtain ⟨d, hd, hcategory, hpackage⟩ := ofLog_missing hname
  have hfound := hcategory.mpr (not_namesSign (by decide))
  exact ⟨d, hd, hfound, hpackage hfound⟩

/-- A missing module whose name is taken for a word about lock files. -/
theorem ofLog_missing_lockfile :
    ModuleName "@yarnpkg/lockfile".toList ∧
      (ofLog (missingLine "@yarnpkg/lockfile".toList)).map (·.category) = [.lockfileConflict] ∧
      ¬ ∃ d, ofLog (missingLine "@yarnpkg/lockfile".toList) = [d] ∧ d.category = .notFound ∧
        d.package = some "@yarnpkg/lockfile" := by
  have hname : ModuleName "@yarnpkg/lockfile".toList :=
    .inScope "yarnpkg".toList "lockfile".toList (by decide) (by decide) (by decide) (by decide)
  have hlog := ofLog_missingLine hname.isPath
  have hcategory : (ofMessage (missingLine "@yarnpkg/lockfile".toList)).category =
      .lockfileConflict := by
    decide +kernel
  refine ⟨hname, by rw [hlog, List.map_singleton, hcategory], ?_⟩
  rintro ⟨d, hd, hfound, -⟩
  obtain rfl := List.singleton_inj.mp (hlog.symm.trans hd)
  rw [hcategory] at hfound
  cases hfound

end Diagnosis
end BuildRepair
