import BuildRepair.File.Tree
import BuildRepair.Text.Sha256
import Mathlib.Data.List.TakeWhile

/-
  Plain texts: those without a half of a character and without the character that ends texts in the
  system. A plain text has bytes (`encode?_of_noHalf`), and a path of plain parts can be looked up,
  so whatever goes wrong with its file is the system's doing (`locate_system`,
  `makeDirectories_system`, `writeText_system`). Paths made from plain texts are plain, and so is
  the directory above a plain path.
-/

namespace BuildRepair

/-! ## Characters and texts -/

namespace Text

/-- A character that can stand in the name of a file. -/
def PlainChar (c : Char) : Prop := isHalf c = false ∧ c.toNat ≠ 0

instance (c : Char) : Decidable (PlainChar c) :=
  inferInstanceAs (Decidable (isHalf c = false ∧ c.toNat ≠ 0))

/-- A text all of whose characters can stand in the name of a file. -/
def Plain (s : List Char) : Prop := ∀ c ∈ s, PlainChar c

instance (s : List Char) : Decidable (Plain s) := List.decidableBAll PlainChar s

variable {c sep : Char} {s t piece : List Char} {n width : Nat}

theorem isHalf_of_lt (h : c.toNat < halfDistance) : isHalf c = false := by
  have hn : c.toNat - halfDistance = 0 := by omega
  unfold isHalf half?
  rw [hn]
  rfl

theorem plainChar_of_ascii (h0 : 0 < c.toNat) (h : c.toNat < 128) : PlainChar c :=
  ⟨isHalf_of_lt (Nat.lt_trans h (by decide)), Nat.pos_iff_ne_zero.mp h0⟩

theorem Plain.append (hs : Plain s) (ht : Plain t) : Plain (s ++ t) := by
  intro c hc
  rcases List.mem_append.mp hc with hc | hc
  · exact hs c hc
  · exact ht c hc

theorem Plain.subset (hs : Plain s) (h : ∀ c ∈ t, c ∈ s) : Plain t := fun c hc => hs c (h c hc)

theorem mem_of_mem_splitOn (hp : piece ∈ splitOn sep s) (hc : c ∈ piece) : c ∈ s := by
  induction s generalizing piece with
  | nil =>
    rw [splitOn, List.mem_singleton] at hp
    rw [hp] at hc
    cases hc
  | cons d s ih =>
    rw [splitOn] at hp
    split at hp
    · rcases List.mem_cons.mp hp with rfl | hp
      · cases hc
      · exact List.mem_cons_of_mem _ (ih hp hc)
    · split at hp
      · rw [List.mem_singleton.mp hp] at hc
        rw [List.mem_singleton.mp hc]
        exact List.mem_cons_self ..
      · next first rest hsplit =>
        rcases List.mem_cons.mp hp with rfl | hp
        · rcases List.mem_cons.mp hc with rfl | hc
          · exact List.mem_cons_self ..
          · exact List.mem_cons_of_mem _ (ih (hsplit ▸ List.mem_cons_self ..) hc)
        · exact List.mem_cons_of_mem _ (ih (hsplit ▸ List.mem_cons_of_mem _ hp) hc)

theorem halvesIn?_eq_none_iff {passes : Nat → Bool} :
    Utf8.halvesIn? passes s = none ↔ ∀ c ∈ s, (half? c).any (!passes ·) = false := by
  unfold Utf8.halvesIn?
  dsimp only
  constructor
  · intro h
    split at h
    · next hdrop => simpa [List.dropWhile_eq_nil_iff] using hdrop
    · cases h
  · intro h
    have hdrop : s.dropWhile (fun c => !(half? c).any (!passes ·)) = [] := by
      rw [List.dropWhile_eq_nil_iff]
      intro c hc
      rw [h c hc]
      rfl
    rw [hdrop]

/-- A text without halves has none that could be refused. -/
theorem halvesIn?_eq_none (passes : Nat → Bool) (h : ∀ c ∈ s, isHalf c = false) :
    Utf8.halvesIn? passes s = none := by
  refine halvesIn?_eq_none_iff.mpr fun c hc => ?_
  have hnone : half? c = none := by simpa [isHalf] using h c hc
  rw [hnone]
  rfl

theorem isHalf_of_holdsHalf {s : String} (h : holdsHalf s = false) :
    ∀ c ∈ s.toList, isHalf c = false := by
  intro c hc
  simpa using List.any_eq_false.mp h c hc

theorem encode?_of_noHalf (h : ∀ c ∈ s, isHalf c = false) : ∃ bytes, Utf8.encode? s = .ok bytes := by
  refine ⟨Utf8.encode s, ?_⟩
  unfold Utf8.encode?
  rw [halvesIn?_eq_none _ h]

theorem mem_hexText {width n : Nat} (h : c ∈ hexText width n) : ∃ k < 16, c = hexDigit k := by
  induction width generalizing n with
  | zero => cases h
  | succ width ih =>
    unfold hexText at h
    rcases List.mem_append.mp h with h | h
    · exact ih h
    · exact ⟨n % 16, Nat.mod_lt _ (by decide), List.mem_singleton.mp h⟩

theorem plain_hexText (width n : Nat) : Plain (hexText width n) := by
  have hdigit : ∀ k < 16, PlainChar (hexDigit k) := by decide
  intro c hc
  obtain ⟨k, hk, rfl⟩ := mem_hexText hc
  exact hdigit k hk

theorem utf8ByteSize_ofList (h : ∀ c ∈ s, c.val ≤ 127) :
    (String.ofList s).utf8ByteSize = s.length := by
  induction s with
  | nil => rfl
  | cons c s ih =>
    rw [List.forall_mem_cons] at h
    rw [String.ofList_cons, String.utf8ByteSize_append, String.utf8ByteSize_singleton,
      Char.utf8Size_eq_one_iff.mpr h.1, ih h.2, List.length_cons, Nat.add_comm]

theorem plain_digest (message : List UInt8) : Plain (Sha256.digest message) := by
  intro c hc
  obtain ⟨w, -, hw⟩ := List.mem_flatMap.mp hc
  exact plain_hexText _ _ c hw

end Text

/-! ## Paths -/

namespace Path

open Text (Plain)

variable {p q : Path} {s : String}

theorem rootOf_eq_empty {s : List Char} (h : s.head? ≠ some '/') : rootOf s = "" := by
  unfold rootOf
  split
  · exact absurd rfl h
  · exact absurd rfl h
  · exact absurd rfl h
  · rfl

/-- A path whose root and parts are plain. -/
structure IsPlain (p : Path) : Prop where
  root : Plain p.root.toList
  parts : ∀ part ∈ p.parts, Plain part.toList

theorem IsPlain.parent (h : p.IsPlain) : p.parent.IsPlain :=
  ⟨h.root, fun part hp => h.parts part (List.dropLast_subset _ hp)⟩

theorem IsPlain.ofString (h : Plain s.toList) : (Path.ofString s).IsPlain := by
  refine ⟨?_, ?_⟩
  · show Plain (rootOf s.toList).toList
    unfold rootOf
    split <;> decide
  · intro part hp
    obtain ⟨piece, hpiece, rfl⟩ := List.mem_map.mp (List.mem_filter.mp hp).1
    rw [String.toList_ofList]
    exact h.subset fun c hc => Text.mem_of_mem_splitOn hpiece hc

theorem IsPlain.child (h : p.IsPlain) (hs : Plain s.toList) : (p.child s).IsPlain := by
  have hq := IsPlain.ofString hs
  unfold Path.child join
  split
  · refine ⟨h.root, ?_⟩
    intro part hp
    rcases List.mem_append.mp hp with hp | hp
    · exact h.parts part hp
    · exact hq.parts part hp
  · exact hq

theorem plain_intercalate {parts : List String} (h : ∀ part ∈ parts, Plain part.toList) :
    Plain (String.intercalate "/" parts).toList := by
  induction parts with
  | nil => decide
  | cons part parts ih =>
    rw [List.forall_mem_cons] at h
    cases parts with
    | nil =>
      rw [String.intercalate_singleton]
      exact h.1
    | cons next parts =>
      rw [String.intercalate_cons_cons, String.toList_append, String.toList_append]
      exact (h.1.append (by decide)).append (ih h.2)

theorem IsPlain.text (h : p.IsPlain) : Plain p.text.toList := by
  unfold Path.text
  split
  · decide
  · rw [String.toList_append]
    exact h.root.append (plain_intercalate h.parts)

end Path

/-! ## Files under plain paths -/

/-- A failure that is the system's. -/
def FileError.IsSystem (e : FileError) : Prop := ∃ cause path, e = .system cause path

namespace Tree

variable {t : Tree} {p : Path} {e : FileError} {s : String}

theorem locate_system (hp : p.IsPlain) (h : t.locate p = .error e) : e.IsSystem := by
  have hhalves : Text.Utf8.halvesIn? isByteHalf p.text.toList = none :=
    Text.halvesIn?_eq_none _ fun c hc => (hp.text c hc).1
  have hnull : ¬ p.parts.any (·.toList.contains (Char.ofNat 0)) := by
    intro hany
    obtain ⟨part, hpart, hc⟩ := List.any_eq_true.mp hany
    exact (hp.parts part hpart _ (List.contains_iff_mem.mp hc)).2 rfl
  unfold locate at h
  rw [hhalves] at h
  dsimp only at h
  rw [if_neg hnull] at h
  split at h
  · cases h
    exact ⟨_, _, rfl⟩
  · split at h
    · cases h
    · cases h
      exact ⟨_, _, rfl⟩

theorem writeText_system (hp : p.IsPlain) (h : t.writeText p s = .error e) : e.IsSystem := by
  unfold writeText at h
  split at h
  · next hl =>
    cases h
    exact locate_system hp hl
  · cases h
    exact ⟨_, _, rfl⟩
  · cases h

theorem makeDirectory_system (hp : p.IsPlain) (h : t.makeDirectory p = .error e) : e.IsSystem := by
  unfold makeDirectory at h
  split at h
  · next hl =>
    cases h
    exact locate_system hp hl
  · cases h
    exact ⟨_, _, rfl⟩
  · split at h
    · cases h
      exact ⟨_, _, rfl⟩
    · cases h

theorem orExisting_system {e' : FileError} (he : e.IsSystem)
    (h : (t.orExisting p e).2 = .error e') : e'.IsSystem := by
  unfold orExisting at h
  split at h
  · cases h
  · cases h
    exact he

theorem makeDirectoriesTo_system (hp : p.IsPlain) (depth : Nat)
    (h : (t.makeDirectoriesTo p depth).2 = .error e) : e.IsSystem := by
  induction depth generalizing t p e with
  | zero =>
    cases h
    exact ⟨_, _, rfl⟩
  | succ depth ih =>
    unfold makeDirectoriesTo at h
    split at h
    · cases h
    · split at h
      · cases h
        exact ⟨_, _, rfl⟩
      · split at h
        · next hup =>
          cases h
          exact ih hp.parent (congrArg Prod.snd hup)
        · split at h
          · cases h
          · next hm => exact orExisting_system (makeDirectory_system hp hm) h
    · exact orExisting_system ⟨_, _, rfl⟩ h
    · next hm =>
      cases h
      exact makeDirectory_system hp hm

theorem makeDirectories_system (hp : p.IsPlain) (h : (t.makeDirectories p).2 = .error e) :
    e.IsSystem :=
  makeDirectoriesTo_system hp _ h

theorem holds_system (h : t.holds p = .error e) : e.IsSystem := by
  unfold holds look at h
  split at h
  · cases h
  · cases h
    exact ⟨_, _, rfl⟩
  · cases h

end Tree

end BuildRepair
