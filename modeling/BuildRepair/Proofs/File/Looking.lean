import BuildRepair.Proofs.Assoc
import BuildRepair.Proofs.File.Growth
import BuildRepair.Proofs.File.Sibling
import Mathlib.Data.List.Induction

/-
  What looking at a path sees. It depends on the tree only by what is seen where the walk along the
  path ends (`look_congr`). A walk that only leads downwards sees nothing behind a place where no
  directory stands (`sight_blocked`), and one that goes on from a directory sees the same in all
  trees that keep the directories and have the same behind it (`walk_append_congr`). In a tree where
  everything stands in a directory a walk leads down to whatever stands somewhere (`Grounded.walk`),
  and up from every directory (`Grounded.climb`).
-/

namespace BuildRepair

namespace Tree

variable {t u : Tree} {p : Path} {k l here : Place} {before names rest : List String}
  {name : String} {e : Entry} {found found' : Place × Option Entry}

/-! ## What is seen -/

/-- What is seen where a walk ends. -/
def sight : Except FileCause (Place × Option Entry) → Except FileCause (Option Entry)
  | .ok found => .ok found.2
  | .error .nameTooLong => .error .nameTooLong
  | .error _ => .ok none

theorem look_eq (t : Tree) (p : Path) : t.look p =
    match Text.Utf8.halvesIn? isByteHalf p.text.toList with
    | some _ => .ok none
    | none =>
      if p.parts.any (·.toList.contains (Char.ofNat 0)) then .ok none
      else if pathLimit < p.text.utf8ByteSize then .error (.system .nameTooLong p.text)
      else
        match sight (t.walk (t.start p) p.parts) with
        | .ok seen => .ok seen
        | .error cause => .error (.system cause p.text) := by
  unfold look locate
  cases Text.Utf8.halvesIn? isByteHalf p.text.toList with
  | some e => rfl
  | none =>
    dsimp only
    by_cases hnull : p.parts.any (·.toList.contains (Char.ofNat 0)) = true
    · rw [if_pos hnull, if_pos hnull]
    · rw [if_neg hnull, if_neg hnull]
      by_cases hlong : pathLimit < p.text.utf8ByteSize
      · rw [if_pos hlong, if_pos hlong]
      · rw [if_neg hlong, if_neg hlong]
        cases t.walk (t.start p) p.parts with
        | ok found => rfl
        | error cause => cases cause <;> rfl

/-- What looking sees depends on what is seen where the walk ends. -/
theorem look_congr
    (h : sight (u.walk (u.start p) p.parts) = sight (t.walk (t.start p) p.parts)) :
    u.look p = t.look p := by
  rw [look_eq, look_eq, h]

theorem locate_of_look {seen : Entry} (h : t.look p = .ok (some seen)) :
    ∃ l, t.locate p = .ok (l, some seen) := by
  unfold look at h
  split at h
  · next l _ hl =>
    cases h
    exact ⟨l, hl⟩
  · cases h
  · cases h

/-- A file that is seen in two trees has the same text in both. -/
theorem readText_congr {seen : Entry} (ht : t.look p = .ok (some seen))
    (hu : u.look p = .ok (some seen)) : u.readText p = t.readText p := by
  obtain ⟨_, ht⟩ := locate_of_look ht
  obtain ⟨_, hu⟩ := locate_of_look hu
  unfold readText
  rw [ht, hu]
  cases seen with
  | directory => rfl
  | file content => cases content <;> rfl

/-! ## Walks that go on -/

/-- A walk sees nothing behind a place where no directory stands. -/
theorem sight_blocked (hup : ".." ∉ before) (hshort : ∀ n ∈ before, n.utf8ByteSize ≤ nameLimit)
    (hblocked : t.get? (here ++ before) ≠ some .directory) :
    sight (t.walk here (before ++ name :: rest)) = .ok none := by
  induction before generalizing here with
  | nil =>
    rw [List.append_nil] at hblocked
    rw [List.nil_append, walk]
    split
    · rfl
    · rfl
    · next hd => exact absurd hd hblocked
  | cons first before ih =>
    rw [List.mem_cons, not_or] at hup
    rw [List.forall_mem_cons] at hshort
    rw [← List.singleton_append, ← List.append_assoc] at hblocked
    rw [List.cons_append, walk]
    split
    · rfl
    · rfl
    · rw [if_neg (Ne.symm hup.1), if_neg (Nat.not_lt.mpr hshort.1)]
      exact ih hup.2 hshort.2 hblocked

/-- A walk that goes on from a directory goes on alike in two trees that have the same behind it. -/
theorem walk_append_congr (hd : KeepsDirectories t u)
    (hw : t.Walks here before (k, some .directory)) (hsame : u.walk k names = t.walk k names) :
    u.walk here (before ++ names) = t.walk here (before ++ names) := by
  generalize hfound : (k, some Entry.directory) = found at hw
  induction hw with
  | nil he =>
    cases hfound
    exact hsame
  | up hdir _ ih =>
    rw [List.cons_append, walk, walk, hdir, hd.directories _ hdir]
    dsimp only
    rw [if_pos rfl, if_pos rfl]
    exact ih hfound
  | down hdir hup hshort _ ih =>
    rw [List.cons_append, walk, walk, hdir, hd.directories _ hdir]
    dsimp only
    rw [if_neg hup, if_neg hup, if_neg (Nat.not_lt.mpr hshort), if_neg (Nat.not_lt.mpr hshort)]
    exact ih hfound

/-- On the way to a directory there are directories only. -/
theorem directory_on_way (hw : t.Walks here (before ++ rest) (k, some .directory))
    (hbefore : t.Walks here before found) : found.2 = some .directory := by
  induction before generalizing here with
  | nil =>
    cases hbefore with
    | nil he =>
      rw [← he]
      cases rest with
      | nil =>
        cases hw with
        | nil hd => exact hd
      | cons name rest =>
        cases hw with
        | up hd _ => exact hd
        | down hd _ _ _ => exact hd
  | cons name before ih =>
    cases hbefore with
    | up _ hb =>
      cases hw with
      | up _ hrest => exact ih hrest hb
      | down _ hup _ _ => exact absurd rfl hup
    | down _ hup _ hb =>
      cases hw with
      | up _ _ => exact absurd rfl hup
      | down _ _ _ hrest => exact ih hrest hb

/-! ## Trees that stand on directories -/

/-- Whether everything stands in a directory, and the working directory is one. -/
structure Grounded (t : Tree) : Prop where
  working : t.get? t.working = some .directory
  places : ∀ l name e, t.get? (l ++ [name]) = some e → t.get? l = some .directory

theorem grounded_of_entries (hworking : t.get? t.working = some .directory)
    (h : ∀ p ∈ t.entries, t.get? p.1.dropLast = some .directory) : t.Grounded := by
  refine ⟨hworking, fun l name e he => ?_⟩
  unfold get? at he
  rw [if_neg (by simp)] at he
  have hl := h _ (Assoc.mem_of_find?_eq_some he)
  rwa [List.dropLast_concat] at hl

theorem Grounded.above (hg : t.Grounded) (h : t.get? (l ++ name :: rest) = some e) :
    t.get? l = some .directory := by
  induction rest using List.reverseRecOn generalizing e with
  | nil => exact hg.places l name e h
  | append_singleton rest last ih =>
    rw [← List.cons_append, ← List.append_assoc] at h
    exact ih (hg.places _ last e h)

theorem Grounded.dropLast (hg : t.Grounded) (h : t.get? l = some e) :
    t.get? l.dropLast = some .directory := by
  rcases List.eq_nil_or_concat' l with rfl | ⟨above, name, rfl⟩
  · rfl
  · rw [List.dropLast_concat]
    exact hg.places above name e h

/-- Every path starts at a directory. -/
theorem Grounded.start (hg : t.Grounded) (p : Path) : t.get? (t.start p) = some .directory := by
  unfold Tree.start
  split
  · exact hg.working
  · rfl

/-- A walk leads up from a directory to one above it, also in trees that keep the directories. -/
theorem Grounded.climb (hg : t.Grounded) (hups : ∀ n ∈ names, n = "..")
    (hd : t.get? here = some .directory) : ∃ k, t.get? k = some .directory ∧
      ∀ u, KeepsDirectories t u → ∀ rest, u.walk here (names ++ rest) = u.walk k rest := by
  induction names generalizing here with
  | nil => exact ⟨here, hd, fun _ _ _ => rfl⟩
  | cons name names ih =>
    rw [List.forall_mem_cons] at hups
    obtain ⟨k, hk, hwalk⟩ := ih hups.2 (hg.dropLast hd)
    refine ⟨k, hk, fun u hu rest => ?_⟩
    rw [← hwalk u hu rest, hups.1, List.cons_append, walk, hu.directories _ hd]
    dsimp only
    rw [if_pos rfl]

/-- A walk leads down to whatever stands somewhere. -/
theorem Grounded.walk (hg : t.Grounded) (hup : ".." ∉ names)
    (hshort : ∀ n ∈ names, n.utf8ByteSize ≤ nameLimit) (h : t.get? (here ++ names) = some e) :
    t.Walks here names (here ++ names, some e) := by
  induction names generalizing here with
  | nil =>
    rw [List.append_nil] at h ⊢
    exact .nil h
  | cons name names ih =>
    rw [List.mem_cons, not_or] at hup
    rw [List.forall_mem_cons] at hshort
    have hd := hg.above h
    rw [← List.singleton_append, ← List.append_assoc] at h ⊢
    exact .down hd (Ne.symm hup.1) hshort.1 (ih hup.2 hshort.2 h)

end Tree
end BuildRepair
