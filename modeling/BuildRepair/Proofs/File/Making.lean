import BuildRepair.Proofs.File.Looking
import BuildRepair.Proofs.File.Temporary

/-
  Directories that are made on the way to a file. Along a path on which nothing is refused for how
  it is written (`Path.Fits`), making directories changes nothing or ends at a new directory that is
  empty (`makeDirectoriesTo_cases`). The first of them is made in a directory that was there, and
  each further one in the one before. So if the tree changed, the file can be made
  (`makeDirectories_cases`): nothing that was there before is in its way.
-/

namespace BuildRepair

/-! ## Paths on which nothing is refused -/

namespace Path

variable {p : Path} {name : String}

theorem parent_of_bare (hbare : p.parts = []) : p.parent = p := by
  unfold parent
  rw [hbare, List.dropLast_nil, ← hbare]

/-- A path that only leads downwards and is refused nowhere for how it is written. -/
structure Fits (p : Path) : Prop where
  names : ∀ part ∈ p.parts, IsName part
  short : ∀ part ∈ p.parts, part.utf8ByteSize ≤ Tree.nameLimit
  spelled : p.IsSpelled
  length : p.text.utf8ByteSize ≤ Tree.pathLimit

/-- The directory above a path is written as the beginning of the path, or is a point. -/
theorem text_parent (p : Path) : p.parent.text = "." ∨ ∃ rest, p.text = p.parent.text ++ rest := by
  obtain ⟨root, parts⟩ := p
  rcases List.eq_nil_or_concat' parts with rfl | ⟨above, last, rfl⟩
  · exact .inr ⟨"", (String.append_empty).symm⟩
  unfold parent text
  dsimp only
  rw [List.dropLast_concat, if_neg (by simp : ¬ (root = "" ∧ above ++ [last] = []))]
  split
  · exact .inl rfl
  · by_cases habove : above = []
    · subst habove
      rw [List.nil_append, String.intercalate_singleton, String.intercalate_nil,
        String.append_empty]
      exact .inr ⟨last, rfl⟩
    · rw [String.intercalate_append_of_ne_nil habove (by simp), String.intercalate_singleton]
      exact .inr ⟨"/" ++ last, by simp only [String.append_assoc]⟩

theorem IsSpelled.parent (h : p.IsSpelled) : p.parent.IsSpelled := by
  constructor
  · rcases text_parent p with hpoint | ⟨rest, hrest⟩
    · rw [hpoint]
      decide
    · have hhalves := Text.halvesIn?_eq_none_iff.mp h.halves
      rw [hrest, String.toList_append] at hhalves
      exact Text.halvesIn?_eq_none_iff.mpr fun c hc => hhalves c (List.mem_append_left _ hc)
  · have hnull := h.null
    rw [List.any_eq_false] at hnull ⊢
    exact fun part hpart => hnull part (List.dropLast_subset _ hpart)

theorem Fits.parent (h : p.Fits) : p.parent.Fits := by
  refine ⟨fun part hpart => h.names part (List.dropLast_subset _ hpart),
    fun part hpart => h.short part (List.dropLast_subset _ hpart), h.spelled.parent, ?_⟩
  rcases text_parent p with hpoint | ⟨rest, hrest⟩
  · rw [hpoint]
    decide
  · have hlength := h.length
    rw [hrest, String.utf8ByteSize_append] at hlength
    omega

/-- A path with parts leads to its last one in the directory above. -/
theorem Fits.eq_child (h : p.Fits) (hne : p.parts ≠ []) :
    ∃ name, IsName name ∧ name.utf8ByteSize ≤ Tree.nameLimit ∧ p = p.parent.child name := by
  obtain ⟨root, parts⟩ := p
  obtain ⟨above, name, rfl⟩ := (List.eq_nil_or_concat' parts).resolve_left hne
  have hname : IsName name := h.names name (by simp)
  refine ⟨name, hname, h.short name (by simp), ?_⟩
  rw [child_eq hname, Path.parent, List.dropLast_concat]

end Path

namespace Tree

open BuildRepair.Path (IsName)

variable {t u v : Tree} {p : Path} {l here : Place} {parts : List String} {name : String}
  {e : Option Entry} {depth limit : Nat} {r : Except FileError Unit}

/-! ## New directories -/

/-- A walk to a directory goes on to what stands in it. -/
theorem Walks.concat (hw : t.Walks here parts (l, some .directory)) (hup : name ≠ "..")
    (hshort : name.utf8ByteSize ≤ nameLimit) :
    t.Walks here (parts ++ [name]) (l ++ [name], t.get? (l ++ [name])) := by
  generalize hfound : (l, some Entry.directory) = found at hw
  induction hw with
  | nil he =>
    cases hfound
    exact .down he hup hshort (.nil rfl)
  | up hd _ ih => exact .up hd (ih hfound)
  | down hd hup' hshort' _ ih => exact .down hd hup' hshort' (ih hfound)

/-- A path leads in `v` to a directory that is new and empty, and there is not much more in `v` than
in `t`. -/
structure NewDirectory (t v : Tree) (p : Path) (limit : Nat) : Prop where
  grounded : v.Grounded
  few : v.entries.length ≤ t.entries.length + limit
  parts : p.parts ≠ []
  place : ∃ l, v.locate p = .ok (l, some .directory) ∧ ∀ rest, rest ≠ [] → v.get? (l ++ rest) = none

theorem length_put_le (t : Tree) (l : Place) (e : Entry) :
    (t.put l e).entries.length ≤ t.entries.length + 1 := by
  have hkeys := congrArg List.length (Assoc.keys_put l e t.entries)
  unfold Assoc.keys at hkeys
  rw [List.length_map] at hkeys
  show (Assoc.put l e t.entries).length ≤ _
  rw [hkeys]
  split
  · rw [List.length_map]
    exact Nat.le_succ _
  · rw [List.length_append, List.length_map, List.length_singleton]

/-- What is made where nothing stood is new and empty. -/
theorem makeDirectory_new (hg : t.Grounded) (hp : p.Fits) (h : t.makeDirectory p = .ok v) :
    NewDirectory t v p 1 := by
  obtain ⟨l, hl, hparts, rfl⟩ := makeDirectory_eq_ok.mp h
  have hnone : t.get? l = none := (locate_get? hl).symm
  have hne : l ≠ [] := ne_nil_of_get?_eq_none hnone
  have hkeeps : KeepsDirectories t (t.put l .directory) := by
    refine ⟨rfl, fun k hk => ?_⟩
    rw [get?_put _ _ _ _ hne, hk, ite_self]
  have hbelow (rest : Place) (hrest : rest ≠ []) : t.get? (l ++ rest) = none := by
    obtain ⟨name, rest, rfl⟩ := List.exists_cons_of_ne_nil hrest
    rw [Option.eq_none_iff_forall_ne_some]
    intro e he
    cases hnone.symm.trans (hg.above he)
  refine ⟨⟨hkeeps.directories _ hg.working, ?_⟩, length_put_le .., hparts, l, ?_, ?_⟩
  · intro k name e hk
    rw [get?_put _ _ _ _ hne] at hk
    split at hk
    · next hlast =>
      -- the directory above is the one in which it was made
      obtain ⟨last, hname, -, hchild⟩ := hp.eq_child hparts
      rw [hchild] at hl
      obtain ⟨base, hbase, hplace⟩ := walk_snoc hname.2 (walk_of_locate_child hname hl)
      obtain ⟨rfl, -⟩ := List.append_inj' (hlast.symm.trans hplace) rfl
      exact hkeeps.directories _ (walk_get? hbase).symm
    · exact hkeeps.directories k (hg.places k name e hk)
  · have hw := hkeeps.walk (walk_of_locate hl)
    rw [get?_put _ _ _ _ hne, if_pos rfl] at hw
    exact locate_of_walk hl hw
  · intro rest hrest
    rw [get?_put _ _ _ _ hne, if_neg (by simpa using hrest), hbelow rest hrest]

/-- Nothing stands in a new directory. -/
theorem NewDirectory.locate (h : NewDirectory t v p.parent limit) (hp : p.Fits)
    (hne : p.parts ≠ []) : ∃ l, v.locate p = .ok (l, none) := by
  obtain ⟨l, hl, hnone⟩ := h.place
  obtain ⟨name, hname, hshort, hchild⟩ := hp.eq_child hne
  have hw := (walk_eq_ok.mp (walk_of_locate hl)).concat hname.2 hshort
  rw [hnone [name] (by simp), ← walk_eq_ok] at hw
  refine ⟨l ++ [name], locate_eq_ok.mpr ⟨hp.spelled, hp.length, ?_⟩⟩
  rw [hchild, Path.child_eq hname]
  exact hw

/-- Making directories changes nothing, or ends at a new one. -/
theorem makeDirectoriesTo_cases (hg : t.Grounded) (hp : p.Fits)
    (h : t.makeDirectoriesTo p depth = (v, r)) :
    v = t ∨ r = .ok () ∧ NewDirectory t v p depth := by
  induction depth generalizing p v r with
  | zero =>
    cases h
    exact .inl rfl
  | succ depth ih =>
    unfold makeDirectoriesTo at h
    split at h
    · next hm =>
      cases h
      have hnew := makeDirectory_new hg hp hm
      exact .inr ⟨rfl, hnew.grounded, Nat.le_trans hnew.few (by omega), hnew.parts, hnew.place⟩
    · next hm =>
      split at h
      · cases h
        exact .inl rfl
      · next hparent =>
        split at h
        · next hup =>
          cases h
          rcases ih hp.parent hup with hsame | ⟨herror, -⟩
          · exact .inl hsame
          · cases herror
        · next w hup =>
          rcases ih hp.parent hup with rfl | ⟨-, hnew⟩
          · -- what is missing stays so where no directory was made
            rw [hm] at h
            dsimp only at h
            exact .inl ((congrArg Prod.fst h).symm.trans (orExisting_tree ..))
          · have hne : p.parts ≠ [] := fun hbare => hparent (Path.parent_of_bare hbare)
            obtain ⟨l, hl⟩ := hnew.locate hp hne
            have hmade := makeDirectory_eq_ok.mpr ⟨l, hl, hne, rfl⟩
            rw [hmade] at h
            cases h
            have hlast := makeDirectory_new hnew.grounded hp hmade
            refine .inr ⟨rfl, hlast.grounded, ?_, hne, hlast.place⟩
            have hfew := hnew.few
            have hmore := hlast.few
            omega
    · exact .inl ((congrArg Prod.fst h).symm.trans (orExisting_tree ..))
    · cases h
      exact .inl rfl

/-! ## Files in new directories -/

/-- A file can be made at a path, with the directories above it that are missing: neither is refused
in a directory that is there, and a temporary file beside it is not either. -/
structure Admits (t : Tree) (p : Path) : Prop where
  fits : p.Fits
  temporary : ∀ name, p.parts.getLast? = some name →
    name.utf8ByteSize + Path.temporaryExcess ≤ nameLimit
  room : p.text.utf8ByteSize + Path.temporaryExcess ≤ pathLimit
  few : t.entries.length + p.parts.length < 16 ^ 8

/-- Making the directories above a file changes nothing, or the file can be made. -/
theorem makeDirectories_cases (hg : t.Grounded) (hp : t.Admits p)
    (h : t.makeDirectories p.parent = (v, r)) :
    v = t ∨ r = .ok () ∧ ∀ text, ∃ u, v.replaceText p text = (u, .ok ()) := by
  rcases makeDirectoriesTo_cases hg hp.fits.parent h with hsame | ⟨hok, hnew⟩
  · exact .inl hsame
  refine .inr ⟨hok, fun text => ?_⟩
  have hne : p.parts ≠ [] := fun hbare =>
    hnew.parts ((Path.parent_of_bare hbare).symm ▸ hbare)
  obtain ⟨l, hl⟩ := hnew.locate hp.fits hne
  obtain ⟨name, hname, -, hchild⟩ := hp.fits.eq_child hne
  have hlast : p.parts.getLast? = some name := by
    rw [hchild, Path.child_eq hname, List.getLast?_concat]
  have hroom : ¬ v.IsCramped p := by
    have hlength : p.parent.parts.length + 1 = p.parts.length := by
      have hpos := List.length_pos_iff.mpr hne
      unfold Path.parent
      rw [List.length_dropLast]
      omega
    have hfew := hnew.few
    have hmarks := hp.few
    have hpath := hp.room
    unfold IsCramped
    omega
  have htemporary := hp.temporary name hlast
  rw [hchild] at hl hroom ⊢
  exact replaceText_of_not_cramped hname htemporary hl (by simp) hroom text

end Tree
end BuildRepair
