import BuildRepair.Proofs.File.Growth
import BuildRepair.Proofs.File.Sibling

/-
  What a change of a tree leaves alone. `Spares l t u`: what stands at the place `l` and on the way
  to it is the same in both trees; `SameWay l t u`: only what stands on the way is. A change at a
  place that is not on the way to `l` spares `l` (`put_spares`, `erase_spares`, `prune_spares`).

  In which tree a path is followed makes no difference for where it ends, if it can be followed and
  starts at one place (`walk_unique`). So two paths that differ in their last part end side by side
  (`locate_beside`), and neither place is on the way to the other (`beside_not_prefix`).
-/

namespace BuildRepair.Tree

variable {t u v : Tree} {p : Path} {k l base here : Place} {parts : List String} {a b text : String}
  {e : Option Entry} {found found' : Place × Option Entry}

/-! ## Where paths end -/

/-- Two walks along the same names end at the same place, whatever the trees are. -/
theorem walk_unique (h : t.walk here parts = .ok found) (h' : u.walk here parts = .ok found') :
    found.1 = found'.1 := by
  rw [walk_eq_ok] at h h'
  induction h with
  | nil _ =>
    cases h'
    rfl
  | up _ _ ih =>
    cases h' with
    | up _ h' => exact ih h'
    | down _ hup _ _ => exact absurd rfl hup
  | down _ hup _ _ ih =>
    cases h' with
    | up _ _ => exact absurd rfl hup
    | down _ _ _ h' => exact ih h'

theorem locate_unique (hworking : u.working = t.working) (h : t.locate p = .ok found)
    (h' : u.locate p = .ok found') : found.1 = found'.1 := by
  have hw' := walk_of_locate h'
  rw [start_congr hworking] at hw'
  exact walk_unique (walk_of_locate h) hw'

/-- Two paths that differ in their last part end side by side. -/
theorem locate_beside (hworking : u.working = t.working) (ha : Path.IsName a)
    (hb : Path.IsName b) (h : t.locate (p.child a) = .ok found)
    (h' : u.locate (p.child b) = .ok found') :
    ∃ base, found.1 = base ++ [a] ∧ found'.1 = base ++ [b] := by
  have hw' := walk_of_locate_child hb h'
  rw [start_congr hworking] at hw'
  obtain ⟨base, hbase, hfound⟩ := walk_snoc ha.2 (walk_of_locate_child ha h)
  obtain ⟨base', hbase', hfound'⟩ := walk_snoc hb.2 hw'
  obtain rfl : base = base' := walk_unique hbase hbase'
  exact ⟨base, hfound, hfound'⟩

theorem beside_not_prefix (h : a ≠ b) : ¬ base ++ [a] <+: base ++ [b] := by
  intro hprefix
  have heq := hprefix.eq_of_length (by simp)
  exact h (List.singleton_inj.mp (List.append_cancel_left heq))

/-! ## Places that are left alone -/

/-- What stands at a place and on the way to it is the same in both trees. -/
structure Spares (l : Place) (t u : Tree) : Prop where
  working : u.working = t.working
  places : ∀ k, k <+: l → u.get? k = t.get? k

/-- What stands on the way to a place is the same in both trees. -/
structure SameWay (l : Place) (t u : Tree) : Prop where
  working : u.working = t.working
  places : ∀ k, k <+: l → k ≠ l → u.get? k = t.get? k

theorem Spares.refl (l : Place) (t : Tree) : Spares l t t := ⟨rfl, fun _ _ => rfl⟩

theorem Spares.trans (h : Spares l t u) (h' : Spares l u v) : Spares l t v :=
  ⟨h'.working.trans h.working, fun k hk => (h'.places k hk).trans (h.places k hk)⟩

theorem Spares.sameWay (h : Spares l t u) : SameWay l t u :=
  ⟨h.working, fun k hk _ => h.places k hk⟩

theorem SameWay.refl (l : Place) (t : Tree) : SameWay l t t := ⟨rfl, fun _ _ _ => rfl⟩

theorem SameWay.trans (h : SameWay l t u) (h' : SameWay l u v) : SameWay l t v :=
  ⟨h'.working.trans h.working, fun k hk hne => (h'.places k hk hne).trans (h.places k hk hne)⟩

theorem put_spares (h : ¬ k <+: l) (t : Tree) (e : Entry) : Spares l t (t.put k e) := by
  have hne : k ≠ [] := by
    rintro rfl
    exact h List.nil_prefix
  refine ⟨rfl, fun j hj => ?_⟩
  rw [get?_put _ _ _ _ hne, if_neg]
  rintro rfl
  exact h hj

theorem erase_spares (h : ¬ k <+: l) (t : Tree) : Spares l t (t.erase k) := by
  refine ⟨rfl, fun j hj => ?_⟩
  rw [get?_erase, if_neg]
  rintro ⟨rfl, -⟩
  exact h hj

theorem prune_spares (h : ¬ k <+: l) (t : Tree) : Spares l t (t.prune k) := by
  refine ⟨rfl, fun j hj => ?_⟩
  have hk : ¬ k.isPrefixOf j = true := by
    rw [List.isPrefixOf_iff_prefix]
    exact fun hkj => h (hkj.trans hj)
  unfold get? prune
  split
  · rfl
  · rw [Assoc.find?_filter (fun i => !k.isPrefixOf i) (by simp_all)]
    simp [hk]

theorem remove_spares (h : t.remove p = .ok u) (hp : ∀ k e, t.locate p = .ok (k, e) → ¬ k <+: l) :
    Spares l t u := by
  obtain ⟨k, content, hk, rfl⟩ := remove_eq_ok.mp h
  exact erase_spares (hp k _ hk) t

theorem writeText_spares (h : t.writeText p text = .ok u)
    (hp : ∀ k e, t.locate p = .ok (k, e) → ¬ k <+: l) : Spares l t u := by
  obtain ⟨k, found?, hk, -, rfl⟩ := writeText_eq_ok.mp h
  exact put_spares (hp k found? hk) t _

theorem writeText_working (h : t.writeText p text = .ok u) : u.working = t.working := by
  obtain ⟨_, _, -, -, rfl⟩ := writeText_eq_ok.mp h
  rfl

/-- Writing a file leaves alone what stands on the way to it. -/
theorem writeText_sameWay (hworking : v.working = t.working) (h : t.writeText p text = .ok u)
    (hl : v.locate p = .ok (l, e)) : u.get? l = some (.file (.text text)) ∧ SameWay l t u := by
  obtain ⟨k, hk, hothers⟩ := writeText_spec h
  have hkept := writeText_working h
  obtain rfl : k = l := locate_unique (hworking.trans hkept.symm) hk hl
  exact ⟨(locate_get? hk).symm, hkept, fun j _ hne => hothers j hne⟩

/-- A walk that only leads downwards is the same where the way is. -/
theorem SameWay.walk (hup : ".." ∉ parts) (h : SameWay l t u)
    (hw : t.walk here parts = .ok (l, e)) : u.walk here parts = .ok (l, u.get? l) := by
  have hplace : l = here ++ parts := walk_place hup hw
  rw [walk_eq_ok] at hw ⊢
  induction parts generalizing here with
  | nil =>
    cases hw
    exact .nil rfl
  | cons name rest ih =>
    cases hw with
    | up _ _ => exact absurd (List.mem_cons_self ..) hup
    | down hd hname hshort hrest =>
      have hkept : u.get? here = t.get? here := by
        refine h.places here ?_ ?_
        · rw [hplace]
          exact List.prefix_append _ _
        · rw [hplace]
          simp
      refine .down (hkept.trans hd) hname hshort ?_
      refine ih (fun hmem => hup (List.mem_cons_of_mem _ hmem)) hrest ?_
      rw [hplace, List.append_assoc, List.singleton_append]

/-- A path that never goes up still leads where it led. -/
theorem SameWay.locate (hup : ".." ∉ p.parts) (ha : Path.IsName a) (h : SameWay l t u)
    (hl : t.locate (p.child a) = .ok (l, e)) : u.locate (p.child a) = .ok (l, u.get? l) := by
  refine locate_of_walk hl ?_
  rw [start_congr h.working]
  refine h.walk ?_ (walk_of_locate hl)
  rw [Path.child_eq ha, List.mem_append, List.mem_singleton, not_or]
  exact ⟨hup, Ne.symm ha.2⟩

end BuildRepair.Tree
