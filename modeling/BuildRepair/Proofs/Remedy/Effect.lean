import BuildRepair.Proofs.File.Place
import BuildRepair.Proofs.Remedy.Attempt
import BuildRepair.Proofs.Remedy.Proper

/-
  What a remedy does to a repository. It writes no file but the manifest and the settings file
  (`apply_within`), so several of them do not either (`applyAll_within`). The remedy that was in
  fact applied is the chosen one, unless that was a lockfile which is not there; then it is the
  removal of another lockfile, which was there and is gone (`apply_reported`). A lockfile that was
  chosen to be removed is not there afterwards, whether the removal succeeded or not
  (`apply_removes`).
-/

namespace BuildRepair.Remedy

open BuildRepair.Tree (Within HasFile)

variable {r : Remedy} {t u : Tree} {repo p : Path} {a : Application} {name : String}
  {names : List String}

/-- The files that remedies write. -/
def writtenFiles : List String := [Manifest.fileName, ".npmrc"]

theorem lockfile_not_written : ∀ name ∈ lockfiles, name ∉ writtenFiles := by decide

/-! ## What is written -/

theorem writeManifest_within {text : String}
    (h : t.writeText (Manifest.pathIn repo) text = .ok u) : Within writtenFiles t u :=
  Tree.writeText_within (by decide) (by decide) h

theorem editManifest_within {package : Json} {edit : Fields → Edited}
    (h : editManifest package edit t repo = (u, .ok ())) : Within writtenFiles t u := by
  obtain ⟨_, _, -, -, hw⟩ := editManifest_ok h
  exact writeManifest_within hw

theorem pinManifest_within {package version : Json}
    (h : pinManifest package version t repo = (u, .ok ())) : Within writtenFiles t u := by
  obtain ⟨_, _, -, -, hw⟩ := pinManifest_ok h
  exact writeManifest_within hw

theorem addSetting_within {setting : String} (h : addSetting setting t repo = (u, .ok ())) :
    Within writtenFiles t u := by
  rcases addSetting_ok h with rfl | ⟨text, hw⟩
  · exact Within.refl _ _
  · exact Tree.writeText_within (by decide) (by decide) hw

/-! ## What is removed -/

theorem clearInstalled_within (h : clearInstalled t repo = .ok u) (names : List String) :
    Within names t u := by
  rcases clearInstalled_ok h with ⟨place, -, rfl⟩ | ⟨-, rfl⟩
  · exact Tree.prune_within _ _ _
  · exact Within.refl _ _

theorem holds_of_hasFile (h : t.HasFile p) : t.holds p = .ok true := by
  obtain ⟨l, content, hl⟩ := h
  unfold Tree.holds Tree.look
  rw [hl]
  rfl

theorem remove_of_hasFile (h : t.HasFile p) : ∃ u, t.remove p = .ok u := by
  obtain ⟨l, content, hl⟩ := h
  exact ⟨t.erase l, Tree.remove_eq_ok.mpr ⟨l, content, hl, rfl⟩⟩

theorem removeLock_within {removed : String} (h : removeLock name t repo = (u, .ok removed)) :
    Within names t u := by
  rcases removeLock_ok h with ⟨-, hr⟩ | ⟨-, ⟨-, hc⟩ | ⟨-, -, -, v, hv, hc⟩⟩
  · exact Tree.remove_within _ hr
  · exact clearInstalled_within hc _
  · exact (Tree.remove_within _ hv).trans (clearInstalled_within hc _)

/-! ## All remedies -/

theorem attempt_within {applied : Remedy} (h : r.attempt t repo = (u, .ok applied)) :
    Within writtenFiles t u := by
  unfold attempt at h
  split at h
  · exact editManifest_within (asChosen_ok h).2
  · exact editManifest_within (asChosen_ok h).2
  · exact editManifest_within (asChosen_ok h).2
  · exact pinManifest_within (asChosen_ok h).2
  · exact addSetting_within (asChosen_ok h).2
  · exact addSetting_within (asChosen_ok h).2
  · obtain ⟨_, -, hremoval⟩ := asRemoval_ok h
    exact removeLock_within hremoval
  · cases h
  · cases h

/-- A remedy writes no file but the manifest and the settings file. -/
theorem apply_within (h : r.apply t repo = .ok (u, a)) : Within writtenFiles t u := by
  rcases apply_cases h with ⟨ha, -⟩ | ⟨rfl, -, -⟩
  · exact attempt_within ha
  · exact Within.refl _ _

/-- The tree after remedies were applied in order. -/
def applyAll (repo : Path) (t : Tree) (rs : List Remedy) : Tree :=
  rs.foldl (fun t r =>
    match r.apply t repo with
    | .ok (u, _) => u
    | .error _ => t) t

theorem applyAll_cons (repo : Path) (t : Tree) (r : Remedy) (rs : List Remedy) :
    applyAll repo t (r :: rs) = applyAll repo
      (match r.apply t repo with
      | .ok (u, _) => u
      | .error _ => t) rs := rfl

theorem applyAll_append (rs : List Remedy) (h : r.apply (applyAll repo t rs) repo = .ok (u, a)) :
    applyAll repo t (rs ++ [r]) = u := by
  unfold applyAll at *
  rw [List.foldl_append, List.foldl_cons, h]
  rfl

theorem applyAll_within (repo : Path) (t : Tree) (rs : List Remedy) :
    Within writtenFiles t (applyAll repo t rs) := by
  induction rs generalizing t with
  | nil => exact Within.refl _ _
  | cons r rs ih =>
    rw [applyAll_cons]
    split
    · next ha => exact (apply_within ha).trans (ih _)
    · exact ih t

theorem attempt_remedy {applied : Remedy} (hr : ∀ name, r ≠ .removeLockfile (.str name))
    (h : r.attempt t repo = (u, .ok applied)) : applied = r := by
  unfold attempt at h
  split at h
  case h_7 => exact absurd rfl (hr _)
  case h_8 => cases h
  case h_9 => cases h
  all_goals exact (asChosen_ok h).1

/-- The remedy that was in fact applied is the chosen one or the removal of another lockfile, which
was there and is gone. -/
theorem apply_reported (h : r.apply t repo = .ok (u, a)) :
    a.remedy = r ∨ ∃ name, r = .removeLockfile (.str name) ∧
      ∃ other ∈ lockfiles, other ≠ name ∧ a.remedy = .removeLockfile (.str other) ∧
        t.HasFile (repo.child other) ∧ ¬ u.HasFile (repo.child other) := by
  rcases apply_cases h with ⟨ha, -⟩ | ⟨-, hr, -⟩
  · by_cases hlock : ∃ name, r = .removeLockfile (.str name)
    · obtain ⟨name, rfl⟩ := hlock
      obtain ⟨removed, happlied, hremoval⟩ := asRemoval_ok ha
      rcases removeLock_ok hremoval with ⟨rfl, -⟩ | ⟨-, ⟨rfl, -⟩ | ⟨ho, hne, -, v, hv, hc⟩⟩
      · exact .inl happlied
      · exact .inl happlied
      · refine .inr ⟨name, rfl, removed, ho, hne, happlied, Tree.hasFile_of_remove hv, ?_⟩
        have hname := isName_of_lockfile removed ho
        intro hu
        have hw := clearInstalled_within hc []
        exact Tree.not_hasFile_remove hname hv (hw.hasFile hname List.not_mem_nil hu)
    · exact .inl (attempt_remedy (fun name hn => hlock ⟨name, hn⟩) ha)
  · exact .inl hr

/-- What is reported of a proper remedy is proper. -/
theorem Proper.of_apply (hr : r.Proper) (h : r.apply t repo = .ok (u, a)) : a.remedy.Proper := by
  rcases apply_reported h with ha | ⟨_, -, other, -, -, ha, -⟩
  · rw [ha]
    exact hr
  · rw [ha]
    exact .removeLockfile other

/-- A lockfile that was chosen to be removed is not there afterwards. -/
theorem apply_removes (hn : name ∈ lockfiles)
    (h : apply (.removeLockfile (.str name)) t repo = .ok (u, a)) :
    ¬ u.HasFile (repo.child name) := by
  have hname := isName_of_lockfile name hn
  rcases apply_cases h with ⟨ha, -⟩ | ⟨rfl, -, o, ho, -⟩
  · obtain ⟨removed, -, hremoval⟩ := asRemoval_ok ha
    rcases removeLock_ok hremoval with ⟨-, hr⟩ | ⟨hh, -⟩
    · exact Tree.not_hasFile_remove hname hr
    · intro hu
      have ht := (apply_within h).hasFile hname (lockfile_not_written name hn) hu
      cases hh.symm.trans (holds_of_hasFile ht)
  · -- a file that is there would have been removed
    intro hu
    obtain ⟨v, hv⟩ := remove_of_hasFile hu
    obtain ⟨e, -, he⟩ := asRemoval_error ho
    unfold removeLock at he
    rw [holds_of_hasFile hu, hv] at he
    cases he

end BuildRepair.Remedy
