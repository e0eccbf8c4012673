import BuildRepair.Proofs.Text.Digits
import BuildRepair.Proofs.Text.Lines
import BuildRepair.Remedy.Choice

/-
  Which constraints count as versions. `Version` is the grammar of semantic versions 2.0.0. What is
  recognized is that grammar read a little more loosely (`isVersion_iff`): where the first digit of
  a number is followed by others, and in front of the first letter of an identifier, a digit may be
  one of any script (`LooseVersion`). So every version of the grammar is the version to set, and
  among the texts without digits of other scripts no other text is (`targetVersion_semantic`).
-/

namespace BuildRepair.Semver

variable {c sep : Char} {s t u : List Char} {p q : List Char → Prop}

/-! ## The grammar -/

/-- A digit. -/
def Digit (c : Char) : Prop := '0' ≤ c ∧ c ≤ '9'

instance (c : Char) : Decidable (Digit c) := inferInstanceAs (Decidable (_ ∧ _))

/-- A digit other than zero. -/
def PositiveDigit (c : Char) : Prop := '1' ≤ c ∧ c ≤ '9'

/-- A letter or a hyphen. -/
def NonDigit (c : Char) : Prop := ('a' ≤ c ∧ c ≤ 'z') ∨ ('A' ≤ c ∧ c ≤ 'Z') ∨ c = '-'

/-- A character of an identifier. -/
def IdentifierChar (c : Char) : Prop := Digit c ∨ NonDigit c

/-- Zero, or digits that do not begin with one. Which characters may go on with a number is left
open. -/
inductive Numeric (more : Char → Prop) : List Char → Prop
  | zero : Numeric more ['0']
  | positive (c : Char) (hc : PositiveDigit c) (s : List Char) (hs : ∀ d ∈ s, more d) :
      Numeric more (c :: s)

/-- Identifier characters, one of which is no digit. -/
inductive Alphanumeric : List Char → Prop
  | mk (s : List Char) (hs : ∀ d ∈ s, IdentifierChar d) (c : Char) (hc : NonDigit c)
      (t : List Char) (ht : ∀ d ∈ t, IdentifierChar d) : Alphanumeric (s ++ c :: t)

/-- An identifier of a pre-release. -/
def PrereleaseIdentifier (s : List Char) : Prop := Alphanumeric s ∨ Numeric Digit s

/-- An identifier of build metadata. -/
def BuildIdentifier (s : List Char) : Prop := Alphanumeric s ∨ s ≠ [] ∧ ∀ d ∈ s, Digit d

/-- Identifiers with dots between them. -/
inductive DotSeparated (p : List Char → Prop) : List Char → Prop
  | one {s : List Char} (h : p s) : DotSeparated p s
  | cons {s t : List Char} (h : p s) (ht : DotSeparated p t) : DotSeparated p (s ++ '.' :: t)

/-- Three numbers with dots between them. -/
inductive Core (number : List Char → Prop) : List Char → Prop
  | mk {major minor patch : List Char} (hmajor : number major) (hminor : number minor)
      (hpatch : number patch) : Core number (major ++ '.' :: (minor ++ '.' :: patch))

/-- A version for some numbers and identifiers of a pre-release: the core, a pre-release or none,
and build metadata or none. -/
inductive Derivable (number prerelease : List Char → Prop) : List Char → Prop
  | core {s : List Char} (hs : Core number s) : Derivable number prerelease s
  | prerelease {s t : List Char} (hs : Core number s) (ht : DotSeparated prerelease t) :
      Derivable number prerelease (s ++ '-' :: t)
  | build {s u : List Char} (hs : Core number s) (hu : DotSeparated BuildIdentifier u) :
      Derivable number prerelease (s ++ '+' :: u)
  | both {s t u : List Char} (hs : Core number s) (ht : DotSeparated prerelease t)
      (hu : DotSeparated BuildIdentifier u) : Derivable number prerelease (s ++ '-' :: (t ++ '+' :: u))

/-- A semantic version. -/
def Version : List Char → Prop := Derivable (Numeric Digit) PrereleaseIdentifier

/-! ## The grammar with digits of every script -/

/-- A number whose digits after the first one may be of any script. -/
def LooseNumber : List Char → Prop := Numeric fun c => Text.isDigit c = true

/-- An identifier whose digits in front of the first letter may be of any script. -/
inductive LooseNamed : List Char → Prop
  | mk (s : List Char) (hs : ∀ d ∈ s, Text.isDigit d = true) (c : Char) (hc : NonDigit c)
      (t : List Char) (ht : ∀ d ∈ t, IdentifierChar d) : LooseNamed (s ++ c :: t)

/-- An identifier of a pre-release in which those digits may be of any script. -/
def LoosePrerelease (s : List Char) : Prop := LooseNumber s ∨ LooseNamed s

/-- A semantic version in which those digits may be of any script. -/
def LooseVersion : List Char → Prop := Derivable LooseNumber LoosePrerelease

/-! ## Characters -/

theorem isDigit_of_digit (h : Digit c) : Text.isDigit c = true := by
  have h' : 0x30 ≤ c.toNat ∧ c.toNat ≤ 0x30 + 9 := h
  unfold Text.isDigit Text.digitValue? Text.digitZeros
  rw [List.find?_cons_of_pos (by simpa using h')]
  rfl

theorem digit_of_positive (h : PositiveDigit c) : Digit c := ⟨Char.le_trans (by decide) h.1, h.2⟩

theorem isLeadingDigit_iff : isLeadingDigit c = true ↔ PositiveDigit c := by
  simp [isLeadingDigit, PositiveDigit]

theorem isLetter_iff : isLetter c = true ↔ NonDigit c := by
  simp [isLetter, NonDigit, Text.isAsciiLetter, or_assoc]

theorem isIdentifierChar_iff : isIdentifierChar c = true ↔ IdentifierChar c := by
  unfold isIdentifierChar IdentifierChar Digit Text.isAsciiDigit
  rw [Bool.or_eq_true, isLetter_iff, or_comm]
  simp

theorem digit_of_isDigit (hc : c.toNat < 0x80) (h : Text.isDigit c = true) : Digit c := by
  have hall : ∀ n, n < 0x80 → Text.isDigit (Char.ofNat n) = true →
      0x30 ≤ n ∧ n ≤ 0x39 := by
    decide
  exact hall c.toNat hc (by rwa [Char.ofNat_toNat])

theorem nonDigit_ascii (h : NonDigit c) : c.toNat < 0x80 ∧ ¬ Digit c := by
  have hletter {low high : Char} (h : low ≤ c ∧ c ≤ high) (hlow : 0x39 < low.toNat)
      (hhigh : high.toNat < 0x80) : c.toNat < 0x80 ∧ ¬ Digit c := by
    have hl : low.toNat ≤ c.toNat := h.1
    have hh : c.toNat ≤ high.toNat := h.2
    refine ⟨by omega, fun hd => ?_⟩
    have hd' : c.toNat ≤ 0x39 := hd.2
    omega
  rcases h with h | h | rfl
  · exact hletter h (by decide) (by decide)
  · exact hletter h (by decide) (by decide)
  · exact ⟨by decide, fun h => absurd h.1 (by decide)⟩

theorem not_isDigit_of_nonDigit (h : NonDigit c) : Text.isDigit c = false := by
  obtain ⟨hascii, hdigit⟩ := nonDigit_ascii h
  exact Bool.eq_false_iff.mpr fun hc => hdigit (digit_of_isDigit hascii hc)

/-! ## Identifiers -/

theorem isNumber_iff : isNumber s = true ↔ LooseNumber s := by
  constructor
  · intro h
    unfold isNumber at h
    split at h
    · cases h
    · exact .zero
    · next c s _ =>
      rw [Bool.and_eq_true, List.all_eq_true] at h
      exact .positive c (isLeadingDigit_iff.mp h.1) s h.2
  · rintro (_ | ⟨c, hc, s, hs⟩)
    · rfl
    · unfold isNumber
      split
      · next h => cases h
      · rfl
      · next d t _ h =>
        cases h
        rw [Bool.and_eq_true, List.all_eq_true]
        exact ⟨isLeadingDigit_iff.mpr hc, hs⟩

theorem isNamed_iff : isNamed s = true ↔ LooseNamed s := by
  constructor
  · intro h
    unfold isNamed at h
    split at h
    · cases h
    · next c t hrest =>
      rw [Bool.and_eq_true, List.all_eq_true] at h
      rw [← List.takeWhile_append_dropWhile (p := Text.isDigit) (l := s), hrest]
      exact .mk _ (fun d hd => List.mem_takeWhile_imp hd) c (isLetter_iff.mp h.1) t
        fun d hd => isIdentifierChar_iff.mp (h.2 d hd)
  · rintro ⟨s, hs, c, hc, t, ht⟩
    unfold isNamed
    rw [List.dropWhile_append_of_pos hs,
      List.dropWhile_cons_of_neg (by simp [not_isDigit_of_nonDigit hc])]
    dsimp only
    rw [Bool.and_eq_true, List.all_eq_true]
    exact ⟨isLetter_iff.mpr hc, fun d hd => isIdentifierChar_iff.mpr (ht d hd)⟩

theorem isPrerelease_iff : isPrerelease s = true ↔ LoosePrerelease s := by
  unfold isPrerelease LoosePrerelease
  rw [Bool.or_eq_true, isNumber_iff, isNamed_iff]

/-- Identifier characters are digits throughout, or there is a first one that is none. -/
theorem isBuild_iff : isBuild s = true ↔ BuildIdentifier s := by
  have hall : isBuild s = true ↔ s ≠ [] ∧ ∀ c ∈ s, IdentifierChar c := by
    simp [isBuild, isIdentifierChar_iff]
  rw [hall]
  constructor
  · rintro ⟨hne, hs⟩
    by_cases hdigits : ∀ c ∈ s, Digit c
    · exact .inr ⟨hne, hdigits⟩
    · push Not at hdigits
      obtain ⟨c, hc, hdigit⟩ := hdigits
      obtain ⟨a, b, rfl⟩ := List.append_of_mem hc
      exact .inl ⟨a, fun d hd => hs d (by simp [hd]), c, (hs c hc).resolve_left hdigit, b,
        fun d hd => hs d (by simp [hd])⟩
  · rintro (⟨a, ha, c, hc, b, hb⟩ | ⟨hne, hs⟩)
    · refine ⟨by simp, fun d hd => ?_⟩
      rcases List.mem_append.mp hd with hd | hd
      · exact ha d hd
      · rcases List.mem_cons.mp hd with rfl | hd
        · exact .inr hc
        · exact hb d hd
    · exact ⟨hne, fun c hc => .inl (hs c hc)⟩

/-! ## Between separators -/

theorem cut_of_not_mem (h : sep ∉ s) : cut sep s = (s, none) := by
  induction s with
  | nil => rfl
  | cons c s ih =>
    rw [List.mem_cons, not_or] at h
    rw [cut, if_neg (Ne.symm h.1), ih h.2]

theorem cut_append (h : sep ∉ s) (t : List Char) : cut sep (s ++ sep :: t) = (s, some t) := by
  induction s with
  | nil => rw [List.nil_append, cut, if_pos rfl]
  | cons c s ih =>
    rw [List.mem_cons, not_or] at h
    rw [List.cons_append, cut, if_neg (Ne.symm h.1), ih h.2]

/-- A text has no separator, or it is cut at the first one. -/
theorem cut_cases (sep : Char) (s : List Char) :
    sep ∉ s ∧ cut sep s = (s, none) ∨
      ∃ a b, s = a ++ sep :: b ∧ sep ∉ a ∧ cut sep s = (a, some b) := by
  by_cases h : sep ∈ s
  · obtain ⟨a, b, rfl, ha⟩ := List.eq_append_cons_of_mem h
    exact .inr ⟨a, b, rfl, ha, cut_append ha b⟩
  · exact .inl ⟨h, cut_of_not_mem h⟩

theorem dotSeparated_joinWith {pieces : List (List Char)} (hne : pieces ≠ [])
    (h : ∀ piece ∈ pieces, p piece) : DotSeparated p (Text.joinWith ['.'] pieces) := by
  induction pieces with
  | nil => exact absurd rfl hne
  | cons first rest ih =>
    obtain ⟨hfirst, hrest⟩ := List.forall_mem_cons.mp h
    cases rest with
    | nil => exact .one hfirst
    | cons next rest =>
      rw [Text.joinWith, List.append_assoc]
      · exact .cons hfirst (ih (by simp) hrest)
      · simp

/-- Where no identifier has a dot, dots separate them and nothing else. -/
theorem dotSeparated_iff (hdot : ∀ t, p t → '.' ∉ t) :
    DotSeparated p s ↔ ∀ piece ∈ Text.splitOn '.' s, p piece := by
  constructor
  · intro h
    induction h with
    | one h =>
      rw [Text.splitOn_of_not_mem (hdot _ h)]
      simpa using h
    | cons h _ ih =>
      rw [Text.splitOn_append, Text.splitOn_of_not_mem (hdot _ h)]
      exact List.forall_mem_cons.mpr ⟨h, ih⟩
  · intro h
    rw [← Text.joinWith_splitOn '.' s]
    exact dotSeparated_joinWith (Text.splitOn_ne_nil '.' s) h

theorem core_iff (hdot : ∀ t, p t → '.' ∉ t) :
    Core p s ↔ (Text.splitOn '.' s).length = 3 ∧ ∀ piece ∈ Text.splitOn '.' s, p piece := by
  constructor
  · rintro ⟨hmajor, hminor, hpatch⟩
    rw [Text.splitOn_append, Text.splitOn_append, Text.splitOn_of_not_mem (hdot _ hmajor),
      Text.splitOn_of_not_mem (hdot _ hminor), Text.splitOn_of_not_mem (hdot _ hpatch)]
    exact ⟨rfl, by simpa using ⟨hmajor, hminor, hpatch⟩⟩
  · rintro ⟨hlength, h⟩
    obtain ⟨major, minor, patch, hsplit⟩ := List.length_eq_three.mp hlength
    rw [hsplit] at h
    simp only [List.forall_mem_cons] at h
    rw [← Text.joinWith_splitOn '.' s, hsplit]
    simpa [Text.joinWith] using Core.mk h.1 h.2.1 h.2.2.1

/-! ## Versions -/

theorem LooseNumber.isDigit (h : LooseNumber s) (hc : c ∈ s) : Text.isDigit c = true := by
  rcases h with _ | ⟨d, hd, s, hs⟩
  · rw [List.mem_singleton.mp hc]
    decide
  · rcases List.mem_cons.mp hc with rfl | hc
    · exact isDigit_of_digit (digit_of_positive hd)
    · exact hs c hc

theorem LoosePrerelease.mem (h : LoosePrerelease s) (hc : c ∈ s) :
    Text.isDigit c = true ∨ NonDigit c := by
  rcases h with h | ⟨s, hs, d, hd, t, ht⟩
  · exact .inl (h.isDigit hc)
  · rcases List.mem_append.mp hc with hc | hc
    · exact .inl (hs c hc)
    · rcases List.mem_cons.mp hc with rfl | hc
      · exact .inr hd
      · exact (ht c hc).imp_left isDigit_of_digit

theorem Core.mem (h : Core p s) (hc : c ∈ s) : c = '.' ∨ ∃ t, p t ∧ c ∈ t := by
  obtain ⟨hmajor, hminor, hpatch⟩ := h
  simp only [List.mem_append, List.mem_cons] at hc
  rcases hc with hc | rfl | hc | rfl | hc
  · exact .inr ⟨_, hmajor, hc⟩
  · exact .inl rfl
  · exact .inr ⟨_, hminor, hc⟩
  · exact .inl rfl
  · exact .inr ⟨_, hpatch, hc⟩

theorem DotSeparated.mem (h : DotSeparated p s) (hc : c ∈ s) : c = '.' ∨ ∃ t, p t ∧ c ∈ t := by
  induction h with
  | one h => exact .inr ⟨_, h, hc⟩
  | cons h _ ih =>
    rw [List.mem_append, List.mem_cons] at hc
    rcases hc with hc | rfl | hc
    · exact .inr ⟨_, h, hc⟩
    · exact .inl rfl
    · exact ih hc

theorem core_not_mem (h : Core LooseNumber s) (hdot : sep ≠ '.')
    (hsep : Text.isDigit sep = false) : sep ∉ s := by
  intro hc
  rcases h.mem hc with hc | ⟨t, ht, hc⟩
  · exact hdot hc
  · rw [ht.isDigit hc] at hsep
    cases hsep

theorem plus_not_mem (h : DotSeparated LoosePrerelease s) : '+' ∉ s := by
  intro hc
  rcases h.mem hc with hc | ⟨t, ht, hc⟩
  · exact absurd hc (by decide)
  · rcases ht.mem hc with hdigit | hletter
    · exact absurd hdigit (by decide)
    · exact absurd (isLetter_iff.mpr hletter) (by decide)

theorem allPieces_iff {f : List Char → Bool} (hf : ∀ t, f t = true ↔ p t)
    (hdot : ∀ t, p t → '.' ∉ t) : allPieces f s = true ↔ DotSeparated p s := by
  rw [dotSeparated_iff hdot, allPieces, List.all_eq_true]
  simp only [hf]

/-- What stands before, between and behind the first plus sign and the first hyphen before it
decides. -/
theorem isVersion_of_cut {front : List Char} {t? u? : Option (List Char)}
    (hplus : cut '+' s = (front, u?)) (hhyphen : cut '-' front = (t, t?)) :
    isVersion s = true ↔ Core LooseNumber t ∧ (∀ t ∈ t?, DotSeparated LoosePrerelease t) ∧
      ∀ u ∈ u?, DotSeparated BuildIdentifier u := by
  have hnumber : ∀ t, LooseNumber t → '.' ∉ t := fun t h hc => absurd (h.isDigit hc) (by decide)
  have hprerelease : ∀ t, LoosePrerelease t → '.' ∉ t := by
    intro t h hc
    rcases h.mem hc with hdigit | hletter
    · exact absurd hdigit (by decide)
    · exact absurd (isLetter_iff.mpr hletter) (by decide)
  have hbuild : ∀ t, BuildIdentifier t → '.' ∉ t := by
    intro t h hc
    have hall := isBuild_iff.mpr h
    rw [isBuild, Bool.and_eq_true, List.all_eq_true] at hall
    exact absurd (hall.2 _ hc) (by decide)
  have hcore : ((Text.splitOn '.' t).length == 3 && allPieces isNumber t) = true ↔
      Core LooseNumber t := by
    rw [core_iff hnumber, Bool.and_eq_true, beq_iff_eq, allPieces, List.all_eq_true]
    simp only [isNumber_iff]
  unfold isVersion
  rw [hplus]
  dsimp only
  rw [hhyphen]
  dsimp only
  rw [Bool.and_eq_true, Bool.and_eq_true, hcore, Option.all_eq_true, Option.all_eq_true, and_assoc]
  simp only [allPieces_iff (p := LoosePrerelease) (fun _ => isPrerelease_iff) hprerelease,
    allPieces_iff (p := BuildIdentifier) (fun _ => isBuild_iff) hbuild, Option.mem_def]

/-- What is recognized is the grammar with digits of every script. -/
theorem isVersion_iff : isVersion s = true ↔ LooseVersion s := by
  constructor
  · intro h
    rcases cut_cases '+' s with ⟨-, hplus⟩ | ⟨front, u, rfl, -, hplus⟩
    · rcases cut_cases '-' s with ⟨-, hhyphen⟩ | ⟨core, t, rfl, -, hhyphen⟩
      · obtain ⟨hcore, -, -⟩ := (isVersion_of_cut hplus hhyphen).mp h
        exact .core hcore
      · obtain ⟨hcore, ht, -⟩ := (isVersion_of_cut hplus hhyphen).mp h
        exact .prerelease hcore (ht t rfl)
    · rcases cut_cases '-' front with ⟨-, hhyphen⟩ | ⟨core, t, rfl, -, hhyphen⟩
      · obtain ⟨hcore, -, hu⟩ := (isVersion_of_cut hplus hhyphen).mp h
        exact .build hcore (hu u rfl)
      · obtain ⟨hcore, ht, hu⟩ := (isVersion_of_cut hplus hhyphen).mp h
        rw [List.append_assoc, List.cons_append]
        exact .both hcore (ht t rfl) (hu u rfl)
  · intro h
    have hno {s : List Char} (hs : Core LooseNumber s) : '+' ∉ s ∧ '-' ∉ s :=
      ⟨core_not_mem hs (by decide) (by decide), core_not_mem hs (by decide) (by decide)⟩
    have hfront {s t : List Char} (hs : Core LooseNumber s)
        (ht : DotSeparated LoosePrerelease t) : '+' ∉ s ++ '-' :: t := by
      simp [(hno hs).1, plus_not_mem ht]
    cases h with
    | core hs =>
      have hcut := isVersion_of_cut (cut_of_not_mem (hno hs).1) (cut_of_not_mem (hno hs).2)
      exact hcut.mpr ⟨hs, by simp, by simp⟩
    | @prerelease s t hs ht =>
      have hcut := isVersion_of_cut (cut_of_not_mem (hfront hs ht)) (cut_append (hno hs).2 t)
      exact hcut.mpr ⟨hs, by simpa using ht, by simp⟩
    | @build s u hs hu =>
      have hcut := isVersion_of_cut (cut_append (hno hs).1 u) (cut_of_not_mem (hno hs).2)
      exact hcut.mpr ⟨hs, by simp, by simpa using hu⟩
    | @both s t u hs ht hu =>
      have hplus : cut '+' (s ++ '-' :: (t ++ '+' :: u)) = (s ++ '-' :: t, some u) := by
        rw [← List.cons_append, ← List.append_assoc]
        exact cut_append (hfront hs ht) u
      have hcut := isVersion_of_cut hplus (cut_append (hno hs).2 t)
      exact hcut.mpr ⟨hs, by simpa using ht, by simpa using hu⟩

/-! ## Digits of other scripts -/

theorem Numeric.imp {more more' : Char → Prop} (h : Numeric more s)
    (hmore : ∀ c ∈ s, more c → more' c) : Numeric more' s := by
  rcases h with _ | ⟨c, hc, s, hs⟩
  · exact .zero
  · exact .positive c hc s fun d hd => hmore d (List.mem_cons_of_mem _ hd) (hs d hd)

theorem Core.imp (h : Core p s) (hpq : ∀ t, t ⊆ s → p t → q t) : Core q s := by
  obtain ⟨hmajor, hminor, hpatch⟩ := h
  exact .mk (hpq _ (by simp) hmajor) (hpq _ (fun c hc => by simp [hc]) hminor)
    (hpq _ (fun c hc => by simp [hc]) hpatch)

theorem DotSeparated.imp (h : DotSeparated p s) (hpq : ∀ t, t ⊆ s → p t → q t) :
    DotSeparated q s := by
  induction h with
  | one h => exact .one (hpq _ (List.Subset.refl _) h)
  | cons h _ ih =>
    refine .cons (hpq _ (by simp) h) (ih fun t ht => hpq t (List.Subset.trans ht ?_))
    exact fun c hc => by simp [hc]

/-- A text that is derived from some identifiers is derived from others that each of its parts is
too. -/
theorem Derivable.imp {number number' prerelease prerelease' : List Char → Prop}
    (h : Derivable number prerelease s) (hn : ∀ t, t ⊆ s → number t → number' t)
    (hp : ∀ t, t ⊆ s → prerelease t → prerelease' t) : Derivable number' prerelease' s := by
  have hcore {t : List Char} (ht : t ⊆ s) (h : Core number t) : Core number' t :=
    h.imp fun u hu => hn u (List.Subset.trans hu ht)
  have hdotted {t : List Char} (ht : t ⊆ s) (h : DotSeparated prerelease t) :
      DotSeparated prerelease' t :=
    h.imp fun u hu => hp u (List.Subset.trans hu ht)
  cases h with
  | core hs => exact .core (hs.imp hn)
  | prerelease hs ht =>
    exact .prerelease (hcore (by simp) hs) (hdotted (fun c hc => by simp [hc]) ht)
  | build hs hu => exact .build (hcore (by simp) hs) hu
  | both hs ht hu =>
    exact .both (hcore (by simp) hs) (hdotted (fun c hc => by simp [hc]) ht) hu

theorem LooseNamed.cons (hc : Digit c) (h : LooseNamed s) : LooseNamed (c :: s) := by
  obtain ⟨a, ha, d, hd, b, hb⟩ := h
  exact .mk (c :: a) (List.forall_mem_cons.mpr ⟨isDigit_of_digit hc, ha⟩) d hd b hb

/-- The digits in front of the first letter are the first part of the identifier. -/
theorem Alphanumeric.loose (h : Alphanumeric s) : LooseNamed s := by
  obtain ⟨a, ha, c, hc, b, hb⟩ := h
  induction a with
  | nil => exact .mk [] (by simp) c hc b hb
  | cons d a ih =>
    obtain ⟨hd, ha⟩ := List.forall_mem_cons.mp ha
    rcases hd with hdigit | hletter
    · exact .cons hdigit (ih ha)
    · refine .mk [] (by simp) d hletter (a ++ c :: b) fun x hx => ?_
      rw [List.mem_append, List.mem_cons] at hx
      rcases hx with hx | rfl | hx
      · exact ha x hx
      · exact .inr hc
      · exact hb x hx

/-- A version is recognized. -/
theorem LooseVersion.of_version (h : Version s) : LooseVersion s := by
  have hnumber {t : List Char} (h : Numeric Digit t) : LooseNumber t :=
    h.imp fun _ _ hc => isDigit_of_digit hc
  refine h.imp (fun t _ ht => hnumber ht) fun t _ ht => ?_
  rcases ht with hnamed | hnum
  · exact .inr hnamed.loose
  · exact .inl (hnumber hnum)

/-- Whether a text has no digits but the ten of ASCII. -/
def PlainDigits (s : List Char) : Prop := ∀ c ∈ s, Text.isDigit c = true → Digit c

instance (s : List Char) : Decidable (PlainDigits s) :=
  List.decidableBAll (fun c => Text.isDigit c = true → Digit c) s

/-- Without digits of other scripts nothing else is recognized. -/
theorem LooseVersion.version (h : LooseVersion s) (hs : PlainDigits s) : Version s := by
  have hnumber {t : List Char} (ht : t ⊆ s) (h : LooseNumber t) : Numeric Digit t :=
    h.imp fun c hc hd => hs c (ht hc) hd
  refine h.imp (fun t ht hn => hnumber ht hn) fun t ht hp => ?_
  rcases hp with hnum | ⟨a, ha, c, hc, b, hb⟩
  · exact .inr (hnumber ht hnum)
  · exact .inl (.mk a (fun d hd => .inl (hs d (ht (by simp [hd])) (ha d hd))) c hc b hb)

theorem Alphanumeric.mem (h : Alphanumeric s) (hc : c ∈ s) : IdentifierChar c := by
  obtain ⟨a, ha, d, hd, b, hb⟩ := h
  rw [List.mem_append, List.mem_cons] at hc
  rcases hc with hc | rfl | hc
  · exact ha c hc
  · exact .inr hd
  · exact hb c hc

theorem Numeric.mem (h : Numeric Digit s) (hc : c ∈ s) : Digit c := by
  rcases h with _ | ⟨d, hd, s, hs⟩
  · rw [List.mem_singleton.mp hc]
    decide
  · rcases List.mem_cons.mp hc with rfl | hc
    · exact digit_of_positive hd
    · exact hs c hc

theorem BuildIdentifier.mem (h : BuildIdentifier s) (hc : c ∈ s) : IdentifierChar c := by
  rcases h with h | ⟨-, h⟩
  · exact h.mem hc
  · exact .inl (h c hc)

theorem Derivable.mem {number prerelease : List Char → Prop} (h : Derivable number prerelease s)
    (hc : c ∈ s) : c ∈ ['.', '-', '+'] ∨
      ∃ t, (number t ∨ prerelease t ∨ BuildIdentifier t) ∧ c ∈ t := by
  have hcore {t : List Char} (ht : Core number t) (hc : c ∈ t) : c ∈ ['.', '-', '+'] ∨
      ∃ t, (number t ∨ prerelease t ∨ BuildIdentifier t) ∧ c ∈ t :=
    (ht.mem hc).imp (by rintro rfl; decide) fun ⟨n, hn, hc⟩ => ⟨n, .inl hn, hc⟩
  have hdotted {p : List Char → Prop} {t : List Char} (ht : DotSeparated p t)
      (hp : ∀ t, p t → prerelease t ∨ BuildIdentifier t) (hc : c ∈ t) : c ∈ ['.', '-', '+'] ∨
      ∃ t, (number t ∨ prerelease t ∨ BuildIdentifier t) ∧ c ∈ t :=
    (ht.mem hc).imp (by rintro rfl; decide) fun ⟨n, hn, hc⟩ => ⟨n, .inr (hp n hn), hc⟩
  cases h with
  | core hs => exact hcore hs hc
  | prerelease hs ht =>
    rcases List.mem_append.mp hc with hc | hc
    · exact hcore hs hc
    · rcases List.mem_cons.mp hc with rfl | hc
      · exact .inl (by decide)
      · exact hdotted ht (fun _ => .inl) hc
  | build hs hu =>
    rcases List.mem_append.mp hc with hc | hc
    · exact hcore hs hc
    · rcases List.mem_cons.mp hc with rfl | hc
      · exact .inl (by decide)
      · exact hdotted hu (fun _ => .inr) hc
  | both hs ht hu =>
    rw [List.mem_append, List.mem_cons, List.mem_append, List.mem_cons] at hc
    rcases hc with hc | rfl | hc | rfl | hc
    · exact hcore hs hc
    · exact .inl (by decide)
    · exact hdotted ht (fun _ => .inl) hc
    · exact .inl (by decide)
    · exact hdotted hu (fun _ => .inr) hc

theorem Version.plainDigits (h : Version s) : PlainDigits s := by
  intro c hc hdigit
  have hidentifier : IdentifierChar c → Digit c := by
    rintro (hc | hletter)
    · exact hc
    · rw [not_isDigit_of_nonDigit hletter] at hdigit
      cases hdigit
  rcases h.mem hc with hsep | ⟨t, hnumber | (hnamed | hnumber) | hbuild, hc⟩
  · simp only [List.mem_cons, List.not_mem_nil, or_false] at hsep
    rcases hsep with rfl | rfl | rfl <;> exact absurd hdigit (by decide)
  · exact hnumber.mem hc
  · exact hidentifier (hnamed.mem hc)
  · exact hnumber.mem hc
  · exact hidentifier (hbuild.mem hc)

theorem version_iff : Version s ↔ LooseVersion s ∧ PlainDigits s :=
  ⟨fun h => ⟨.of_version h, h.plainDigits⟩, fun ⟨h, hs⟩ => h.version hs⟩

instance (s : List Char) : Decidable (LooseVersion s) := decidable_of_iff _ isVersion_iff

instance (s : List Char) : Decidable (Version s) := decidable_of_iff _ version_iff.symm

example : Version "1.0.0-0.0a.--+001.x".toList := by decide

example : ¬ Version "1.0.0-01".toList := by decide

end BuildRepair.Semver

namespace BuildRepair.Diagnosis

open Semver (LooseVersion PlainDigits Version)

/-- A constraint is the version to set exactly if it is a semantic version in which digits after the
first one of a number, and those in front of the first letter of an identifier, may be of any
script. A semantic version of the grammar is such a text whose digits are all those of ASCII. -/
theorem targetVersion_semantic (d : Diagnosis) (c : String) (hc : d.constraint = some c) :
    (LooseVersion c.toList → d.targetVersion = c) ∧
    (¬ LooseVersion c.toList → d.targetVersion = "latest") ∧
    (Version c.toList ↔ LooseVersion c.toList ∧ PlainDigits c.toList) := by
  unfold targetVersion
  rw [hc]
  dsimp only
  refine ⟨fun h => if_pos (Semver.isVersion_iff.mpr h), fun h => if_neg fun hv => ?_,
    Semver.version_iff⟩
  exact h (Semver.isVersion_iff.mp hv)

/-- A package of which a release candidate is asked for. -/
def candidate : Diagnosis :=
  { category := .versionConflict, message := "", priority := 0, package := some "react",
    constraint := some "1.0.0-rc.0-a+001" }

theorem candidate_kept : candidate.constraint = some "1.0.0-rc.0-a+001" ∧
    Version "1.0.0-rc.0-a+001".toList ∧ candidate.targetVersion = "1.0.0-rc.0-a+001" := by
  obtain ⟨hkept, -, hversion⟩ := targetVersion_semantic candidate "1.0.0-rc.0-a+001" rfl
  have hv : Version "1.0.0-rc.0-a+001".toList := by decide
  exact ⟨rfl, hv, hkept (hversion.mp hv).1⟩

/-- A package of which a version is asked for that has an Arabic digit. -/
def arabicVersion : Diagnosis := { candidate with constraint := some "1\u0663.0.0" }

/-- It is kept, and is no semantic version. -/
theorem arabicVersion_kept : arabicVersion.constraint = some "1\u0663.0.0" ∧
    arabicVersion.targetVersion = "1\u0663.0.0" ∧ ¬ Version "1\u0663.0.0".toList :=
  ⟨rfl, by decide +kernel, by decide⟩

end BuildRepair.Diagnosis
