import BuildRepair.Proofs.File.Place

/-
  Trees that grow. `Grows P t u`: at each place `u` has what `t` had, unless the place is one of `P`
  and something now stands there where no directory stood. Making directories and writing a file
  grow a tree (`makeDirectoriesTo_grows`, `writeText_grows`). A path that leads to something still
  does in a tree that grew (`Grows.holds`), and what a path that never goes up leads to is the same
  if all places along it have what they had (`walk_congr`).
-/

namespace BuildRepair.Tree

variable {P Q : Place → Prop} {t u v : Tree} {l here : Place} {parts : List String} {p : Path}
  {e : Entry} {found : Place × Option Entry}

/-- A tree that has more than another one only at places of a kind. -/
structure Grows (P : Place → Prop) (t u : Tree) : Prop where
  working : u.working = t.working
  places : ∀ l, u.get? l = t.get? l ∨ P l ∧ t.get? l ≠ some .directory ∧ u.get? l ≠ none

theorem Grows.refl (P : Place → Prop) (t : Tree) : Grows P t t := ⟨rfl, fun _ => .inl rfl⟩

theorem Grows.trans (h : Grows P t u) (h' : Grows P u v) : Grows P t v := by
  refine ⟨h'.working.trans h.working, fun l => ?_⟩
  rcases h.places l with hu | ⟨hP, ht, hu⟩
  · rcases h'.places l with hv | ⟨hP, hu', hv⟩
    · exact .inl (hv.trans hu)
    · exact .inr ⟨hP, hu ▸ hu', hv⟩
  · rcases h'.places l with hv | ⟨-, -, hv⟩
    · exact .inr ⟨hP, ht, hv ▸ hu⟩
    · exact .inr ⟨hP, ht, hv⟩

/-- A directory stays. -/
theorem Grows.directory (h : Grows P t u) (hl : t.get? l = some .directory) :
    u.get? l = some .directory := by
  rcases h.places l with hu | ⟨-, ht, -⟩
  · rw [hu, hl]
  · exact absurd hl ht

/-- Whatever stands somewhere, something stands there afterwards. -/
theorem Grows.there (h : Grows P t u) (hl : t.get? l = some e) : ∃ e', u.get? l = some e' := by
  rcases h.places l with hu | ⟨-, -, hu⟩
  · exact ⟨e, hu.trans hl⟩
  · exact Option.ne_none_iff_exists'.mp hu

theorem put_grows (hP : P l) (hl : t.get? l ≠ some .directory) (e : Entry) :
    Grows P t (t.put l e) := by
  have hne : l ≠ [] := by
    rintro rfl
    exact hl rfl
  refine ⟨rfl, fun k => ?_⟩
  rw [get?_put _ _ _ _ hne]
  by_cases hk : l = k
  · subst hk
    rw [if_pos rfl]
    exact .inr ⟨hP, hl, by simp⟩
  · rw [if_neg hk]
    exact .inl rfl

/-! ## Making directories and writing files -/

theorem makeDirectory_grows (h : t.makeDirectory p = .ok u)
    (hP : ∀ l, p.parts ≠ [] → t.locate p = .ok (l, none) → P l) : Grows P t u := by
  obtain ⟨l, hl, hparts, rfl⟩ := makeDirectory_eq_ok.mp h
  have hnone : t.get? l = none := (locate_get? hl).symm
  exact put_grows (hP l hparts hl) (by simp [hnone]) _

theorem writeText_grows {text : String} (h : t.writeText p text = .ok u)
    (hP : ∀ l e, t.locate p = .ok (l, e) → e ≠ some .directory → P l) : Grows P t u := by
  obtain ⟨l, e, hl, hdir, rfl⟩ := writeText_eq_ok.mp h
  have hget : e = t.get? l := locate_get? hl
  exact put_grows (hP l e hl hdir) (fun hd => hdir (hget.trans hd)) _

theorem makeDirectoriesTo_grows (t : Tree) (p : Path) (depth : Nat)
    (hP : ∀ (v : Tree) (k : Nat) (l : Place), Grows P t v → p.parts.take k ≠ [] →
      v.locate ⟨p.root, p.parts.take k⟩ = .ok (l, none) → P l) :
    Grows P t (t.makeDirectoriesTo p depth).1 :=
  makeDirectoriesTo_induction p depth (.refl P t) fun v _ k h hm =>
    h.trans (makeDirectory_grows hm fun l => hP v k l h)

/-! ## Paths in a tree that grew -/

theorem Grows.walk (h : Grows P t u) (hw : t.walk here parts = .ok (l, some e)) :
    ∃ e', u.walk here parts = .ok (l, some e') := by
  simp only [walk_eq_ok] at hw ⊢
  induction parts generalizing here with
  | nil =>
    cases hw with
    | nil he =>
      obtain ⟨e', he'⟩ := h.there he
      exact ⟨e', .nil he'⟩
  | cons name rest ih =>
    cases hw with
    | up hd hrest =>
      obtain ⟨e', hw'⟩ := ih hrest
      exact ⟨e', .up (h.directory hd) hw'⟩
    | down hd hup hshort hrest =>
      obtain ⟨e', hw'⟩ := ih hrest
      exact ⟨e', .down (h.directory hd) hup hshort hw'⟩

theorem holds_eq_true : t.holds p = .ok true ↔ ∃ l e, t.locate p = .ok (l, some e) := by
  unfold holds look
  split
  · next l e hl =>
    cases e with
    | none => simp [Except.map, hl]
    | some e => simp [Except.map, hl]
  · next hl => simp [Except.map, hl]
  · next hl => simp [Except.map, hl]

/-- A path that leads to something still does. -/
theorem Grows.holds (h : Grows P t u) (ht : t.holds p = .ok true) : u.holds p = .ok true := by
  obtain ⟨l, e, hl⟩ := holds_eq_true.mp ht
  obtain ⟨e', he'⟩ := h.walk (walk_of_locate hl)
  rw [← start_congr h.working] at he'
  exact holds_eq_true.mpr ⟨l, e', locate_of_walk hl he'⟩

/-- A walk that only leads downwards ends at the place that its names spell. -/
theorem walk_place (hup : ".." ∉ parts) (hw : t.walk here parts = .ok found) :
    found.1 = here ++ parts := by
  rw [walk_eq_ok] at hw
  induction hw with
  | nil _ => rw [List.append_nil]
  | up _ _ _ => exact absurd (List.mem_cons_self ..) hup
  | down _ _ _ _ ih =>
    rw [ih fun hmem => hup (List.mem_cons_of_mem _ hmem), List.append_assoc, List.singleton_append]

/-- Two trees that have the same along a walk that only leads downwards. -/
theorem walk_congr (hup : ".." ∉ parts)
    (hsame : ∀ k, u.get? (here ++ parts.take k) = t.get? (here ++ parts.take k)) :
    u.walk here parts = t.walk here parts := by
  induction parts generalizing here with
  | nil =>
    have h0 := hsame 0
    rw [List.take_nil, List.append_nil] at h0
    rw [Tree.walk, Tree.walk, h0]
  | cons name rest ih =>
    rw [List.mem_cons, not_or] at hup
    have h0 := hsame 0
    rw [List.take_zero, List.append_nil] at h0
    have hrest : ∀ k, u.get? (here ++ [name] ++ rest.take k) =
        t.get? (here ++ [name] ++ rest.take k) := by
      intro k
      have := hsame (k + 1)
      rwa [List.take_succ_cons, ← List.singleton_append, ← List.append_assoc] at this
    unfold Tree.walk
    rw [h0, if_neg (Ne.symm hup.1), if_neg (Ne.symm hup.1), ih hup.2 hrest]

/-- What a path leads to depends on what the walk along it ends at. -/
theorem holds_congr (hw : u.walk (u.start p) p.parts = t.walk (t.start p) p.parts) :
    u.holds p = t.holds p := by
  unfold holds look locate
  rw [hw]

end BuildRepair.Tree
