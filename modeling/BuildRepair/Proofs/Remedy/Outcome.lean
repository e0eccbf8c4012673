import BuildRepair.Proofs.Remedy.Effect
import BuildRepair.Proofs.Remedy.Total

/-
  How an application ends. Whatever the tree holds, it ends, and one that met an obstacle left the
  tree as it was (`apply_settles`). One that succeeded names the remedy that was in fact applied,
  and applying that one to the same tree succeeds too (`apply_reported_again`). The trees are the
  same then, but for one case: when another lockfile went than the one that was named, the directory
  of installed packages went with it, which the removal of that other lockfile by its own name
  leaves.
-/

namespace BuildRepair.Remedy

open BuildRepair.Tree (Within)

variable {r applied : Remedy} {t u v : Tree} {repo : Path} {a : Application} {name : String}

/-! ## Failing -/

theorem apply_unknown (text : String) (t : Tree) (repo : Path) :
    apply (.unknown text) t repo = .ok (t, ⟨.unknown text, some (.noRemedy text)⟩) := rfl

/-- Applying a proper remedy, or what is no remedy at all, ends with a tree and an application.
After an obstacle the tree is what it was, and in no case is there anything new in it but manifests
and settings files. -/
theorem apply_settles (hr : r.Proper ∨ ∃ text, r = .unknown text) (t : Tree) (repo : Path) :
    ∃ u a, r.apply t repo = .ok (u, a) ∧ (a.success = false → u = t) ∧
      Within writtenFiles t u := by
  have htotal : ∃ u a, r.apply t repo = .ok (u, a) := by
    rcases hr with hr | ⟨text, rfl⟩
    · exact hr.apply_total t repo
    · exact ⟨_, _, apply_unknown text t repo⟩
  obtain ⟨u, a, h⟩ := htotal
  refine ⟨u, a, h, ?_, apply_within h⟩
  intro hfail
  rcases apply_cases h with ⟨-, hnone⟩ | ⟨hu, -⟩
  · unfold Application.success at hfail
    rw [hnone] at hfail
    cases hfail
  · exact hu

/-- A manifest that declares a package without a version. -/
def versionless : Tree :=
  { entries := [(["repo"], .directory),
      (["repo", "package.json"], .file (.text "\x7b\"dependencies\": \x7b\"a\": null\x7d\x7d"))] }

/-- Such a package is dropped from the manifest that was read, but that does not count, and the
manifest in the tree stays. -/
theorem versionless_settles : ∃ u a,
    apply (.removePackage (.str "a")) versionless (Path.ofString "repo") = .ok (u, a) ∧
      a.success = false ∧ u = versionless := by
  obtain ⟨u, a, h, hfail, -⟩ :=
    apply_settles (.inl (.removePackage "a")) versionless (Path.ofString "repo")
  have hunsuccessful : ((apply (.removePackage (.str "a")) versionless
      (Path.ofString "repo")).toOption.map fun done => done.2.success) = some false := by
    decide +kernel
  rw [h] at hunsuccessful
  have ha : a.success = false := Option.some.inj hunsuccessful
  exact ⟨u, a, h, ha, hfail ha⟩

/-! ## Succeeding -/

theorem apply_of_attempt (h : r.attempt t repo = (u, .ok applied)) :
    r.apply t repo = .ok (u, ⟨applied, none⟩) := by
  unfold apply
  rw [h]

/-- A lockfile that is there can be removed by its name. -/
theorem apply_removeLockfile (h : t.remove (repo.child name) = .ok u) :
    apply (.removeLockfile (.str name)) t repo = .ok (u, ⟨.removeLockfile (.str name), none⟩) := by
  have hholds : t.holds (repo.child name) = .ok true :=
    holds_of_hasFile (Tree.hasFile_of_remove h)
  have hremoval : removeLock name t repo = (u, .ok name) := by
    unfold removeLock
    rw [hholds, h]
  exact apply_of_attempt (congrArg asRemoval hremoval)

/-- Applied to the same tree, the remedy that was reported succeeds if the first application did,
and is reported again. It ends with the same tree, unless another lockfile went than the one that
was named and there is a directory of installed packages: only the first application took that
away. -/
theorem apply_reported_again (h : r.apply t repo = .ok (u, a)) :
    ∃ v, a.remedy.apply t repo = .ok (v, a) ∧
      ((a.remedy = r ∨ ∀ place,
          v.locate (repo.child "node_modules") ≠ .ok (place, some .directory)) ∧ u = v ∨
        a.remedy ≠ r ∧ ∃ place,
          v.locate (repo.child "node_modules") = .ok (place, some .directory) ∧
            u = v.prune place) := by
  by_cases hself : a.remedy = r
  · rw [← hself] at h ⊢
    exact ⟨u, h, .inl ⟨.inl rfl, rfl⟩⟩
  · rcases apply_cases h with ⟨ha, hnone⟩ | ⟨-, hr, -⟩
    · -- only the removal of a lockfile reports another remedy
      have hlock : ∃ name, r = .removeLockfile (.str name) := by
        by_contra hne
        exact hself (attempt_remedy (fun name hn => hne ⟨name, hn⟩) ha)
      obtain ⟨name, rfl⟩ := hlock
      obtain ⟨removed, happlied, hremoval⟩ := asRemoval_ok ha
      have hreport : a = ⟨.removeLockfile (.str removed), none⟩ := by
        rw [← happlied, ← hnone]
      rcases removeLock_ok hremoval with ⟨rfl, -⟩ | ⟨-, ⟨rfl, -⟩ | ⟨-, -, -, v, hv, hc⟩⟩
      · exact absurd happlied hself
      · exact absurd happlied hself
      · refine ⟨v, ?_, ?_⟩
        · rw [hreport]
          exact apply_removeLockfile hv
        · rcases clearInstalled_ok hc with ⟨place, hplace, hu⟩ | ⟨hnowhere, hu⟩
          · exact .inr ⟨hself, place, hplace, hu⟩
          · exact .inl ⟨.inr hnowhere, hu⟩
    · exact absurd hr hself

/-- A repository with one lockfile and an installed package. -/
def yarnInstalled : Tree :=
  { entries := [(["repo"], .directory), (["repo", "yarn.lock"], .file (.text "")),
      (["repo", "node_modules"], .directory),
      (["repo", "node_modules", "a"], .file (.text ""))] }

/-- There the lockfile that is not there is named, so the one that is goes with the packages. -/
theorem yarnInstalled_again : ∃ v place,
    apply (.removeLockfile (.str "yarn.lock")) yarnInstalled (Path.ofString "repo") =
        .ok (v, ⟨.removeLockfile (.str "yarn.lock"), none⟩) ∧
      v.locate ((Path.ofString "repo").child "node_modules") = .ok (place, some .directory) ∧
      v.prune place = { entries := [(["repo"], .directory)] } := by
  have hnamed : apply (.removeLockfile (.str "package-lock.json")) yarnInstalled
      (Path.ofString "repo") =
        .ok ({ entries := [(["repo"], .directory)] },
          ⟨.removeLockfile (.str "yarn.lock"), none⟩) := by rfl
  obtain ⟨v, hv, ⟨-, hsame⟩ | ⟨-, place, hplace, hpruned⟩⟩ := apply_reported_again hnamed
  · rw [← hsame] at hv
    cases hv
  · exact ⟨v, place, hv, hplace, hpruned.symm⟩

/-- The lockfile that is reported, removed by its own name, leaves the installed packages. -/
theorem yarnInstalled_differs : ∃ u v,
    apply (.removeLockfile (.str "package-lock.json")) yarnInstalled (Path.ofString "repo") =
        .ok (u, ⟨.removeLockfile (.str "yarn.lock"), none⟩) ∧
      apply (.removeLockfile (.str "yarn.lock")) yarnInstalled (Path.ofString "repo") =
        .ok (v, ⟨.removeLockfile (.str "yarn.lock"), none⟩) ∧
      u ≠ v :=
  ⟨{ entries := [(["repo"], .directory)] }, _, rfl, rfl, by decide⟩

end BuildRepair.Remedy
