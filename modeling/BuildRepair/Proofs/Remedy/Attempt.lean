import BuildRepair.Proofs.Except
import BuildRepair.Proofs.File.Replacing
import BuildRepair.Proofs.File.Sibling
import BuildRepair.Remedy.Application

/-
  What an attempt at a remedy did, by how it ended. One that went through wrote an edited manifest
  (`editManifest_ok`, `pinManifest_ok`), added a setting (`addSetting_ok`) or removed a lockfile
  (`removeLock_ok`). One that met an obstacle left the tree as it was (`attempt_error`). A manifest
  and a setting are the last thing to be written, so nothing could be left of them. Of a lockfile
  something could: the installed packages are looked for after it was removed. But a path to them
  is no longer than the path to the first lockfile, which was looked for before.
-/

namespace BuildRepair.Remedy

variable {r applied : Remedy} {t u : Tree} {repo : Path} {doc edited : Fields} {o : Obstacle}
  {a : Application} {name setting : String} {names : List String} {package version : Json}
  {edit : Fields → Edited}

/-! ## The manifest -/

theorem saveManifest_ok (h : saveManifest t repo doc = (u, .ok ())) :
    t.writeText (Manifest.pathIn repo) (Json.obj doc).document = .ok u := by
  unfold saveManifest Manifest.write at h
  split at h
  · cases h
  · next hw =>
    cases h
    split at hw
    · cases hw
    · split at hw
      · cases hw
      · next hr =>
        cases hw
        exact Tree.replaceText_ok hr

theorem saveManifest_error (h : saveManifest t repo doc = (u, .error o)) : u = t := by
  unfold saveManifest Manifest.write at h
  split at h
  · next hw =>
    cases h
    split at hw
    · cases hw
      rfl
    · split at hw
      · next hr =>
        cases hw
        exact Tree.replaceText_error hr
      · cases hw
  · cases h

theorem saveManifest_of_ok (h : Manifest.save t repo doc = .ok u) :
    saveManifest t repo doc = (u, .ok ()) := by
  rcases hw : Manifest.write t repo doc with ⟨v, failure | ⟨⟩⟩
  · simp only [Manifest.save, hw] at h
    cases h
  · simp only [Manifest.save, hw, Except.ok.injEq] at h
    simp only [saveManifest, hw, h]

theorem saveManifest_of_error {e : Failure} (h : Manifest.save t repo doc = .error e) :
    saveManifest t repo doc = (t, .error (.failed e)) := by
  rcases hw : Manifest.write t repo doc with ⟨v, failure | ⟨⟩⟩
  · simp only [Manifest.save, hw, Except.error.injEq] at h
    have hsave : saveManifest t repo doc = (v, .error (.failed e)) := by
      simp only [saveManifest, hw, h]
    rw [hsave, saveManifest_error hsave]
  · simp only [Manifest.save, hw] at h
    cases h

theorem editManifest_ok (h : editManifest package edit t repo = (u, .ok ())) :
    ∃ doc edited, manifestOf t repo = .ok doc ∧
      editGroups edit doc (Manifest.groups doc) = .ok (edited, true) ∧
      t.writeText (Manifest.pathIn repo) (Json.obj edited).document = .ok u := by
  unfold editManifest at h
  split at h
  · cases h
  · next doc hm =>
    split at h
    · cases h
    · cases h
    · next edited he => exact ⟨doc, edited, hm, he, saveManifest_ok h⟩

theorem editManifest_error (h : editManifest package edit t repo = (u, .error o)) : u = t := by
  unfold editManifest at h
  split at h
  · cases h
    rfl
  · split at h
    · cases h
      rfl
    · cases h
      rfl
    · exact saveManifest_error h

theorem pinManifest_ok (h : pinManifest package version t repo = (u, .ok ())) :
    ∃ doc edited, manifestOf t repo = .ok doc ∧ pin package version doc pinBlocks = .ok edited ∧
      t.writeText (Manifest.pathIn repo) (Json.obj edited).document = .ok u := by
  unfold pinManifest at h
  split at h
  · cases h
  · next doc hm =>
    split at h
    · cases h
    · next edited hp => exact ⟨doc, edited, hm, hp, saveManifest_ok h⟩

theorem pinManifest_error (h : pinManifest package version t repo = (u, .error o)) : u = t := by
  unfold pinManifest at h
  split at h
  · cases h
    rfl
  · split at h
    · cases h
      rfl
    · exact saveManifest_error h

/-! ## Settings -/

theorem addSetting_ok (h : addSetting setting t repo = (u, .ok ())) :
    u = t ∨ ∃ text, t.writeText (repo.child ".npmrc") text = .ok u := by
  unfold addSetting at h
  dsimp only at h
  split at h
  · cases h
  · split at h
    · cases h
      exact .inl rfl
    · split at h
      · cases h
      · next hw =>
        cases h
        exact .inr ⟨_, hw⟩

theorem addSetting_error (h : addSetting setting t repo = (u, .error o)) : u = t := by
  unfold addSetting at h
  dsimp only at h
  split at h
  · cases h
    rfl
  · split at h
    · cases h
    · split at h
      · cases h
        rfl
      · cases h

/-! ## Lockfiles -/

theorem isName_of_lockfile : ∀ name ∈ lockfiles, Path.IsName name := by decide

theorem removeFirst_cases {removed : Option String}
    (h : removeFirst t repo names = .ok (u, removed)) :
    (removed = none ∧ u = t) ∨
      ∃ name ∈ names, removed = some name ∧ t.holds (repo.child name) = .ok true ∧
        t.remove (repo.child name) = .ok u := by
  unfold removeFirst at h
  split at h
  · cases h
  · cases h
    exact .inl ⟨rfl, rfl⟩
  · next name hf =>
    obtain ⟨v, hr, hv⟩ := map_eq_ok.mp h
    cases hv
    have hfirst := Tree.firstThere_some hf
    exact .inr ⟨name, hfirst.1, rfl, hfirst.2, hr⟩

/-- Whether any of some files is there was asked of the first of them. -/
theorem holds_of_removeFirst {found : Tree × Option String}
    (h : removeFirst t repo (name :: names) = .ok found) :
    ∃ there, t.holds (repo.child name) = .ok there := by
  unfold removeFirst Tree.firstThere at h
  cases hc : t.holds (repo.child name) with
  | error e =>
    rw [hc] at h
    cases h
  | ok there => exact ⟨there, rfl⟩

theorem clearInstalled_ok (h : clearInstalled t repo = .ok u) :
    (∃ place, t.locate (repo.child "node_modules") = .ok (place, some .directory) ∧
      u = t.prune place) ∨
    (∀ place, t.locate (repo.child "node_modules") ≠ .ok (place, some .directory)) ∧ u = t := by
  unfold clearInstalled at h
  dsimp only at h
  split at h
  · cases h
  · next hd =>
    cases h
    refine .inr ⟨fun place hplace => ?_, rfl⟩
    cases hd.symm.trans (Tree.isDirectory_eq_true.mpr ⟨place, hplace⟩)
  · next hd =>
    obtain ⟨place, hplace⟩ := Tree.isDirectory_eq_true.mp hd
    rw [hplace] at h
    cases h
    exact .inl ⟨place, hplace, rfl⟩

theorem clearInstalled_total {found : Place × Option Entry}
    (h : t.locate (repo.child "node_modules") = .ok found) :
    ∃ u, clearInstalled t repo = .ok u := by
  unfold clearInstalled Tree.isDirectory Tree.look
  dsimp only
  rw [h]
  dsimp only [Except.map]
  split
  · next hd => cases hd
  · exact ⟨_, rfl⟩
  · exact ⟨_, rfl⟩

/-- After a lockfile was removed, nothing is in the way of clearing the installed packages. -/
theorem clearInstalled_of_removeFirst
    (h : removeFirst t repo lockfiles = .ok (u, some name)) :
    ∃ v, clearInstalled u repo = .ok v := by
  obtain ⟨there, hthere⟩ := holds_of_removeFirst h
  rcases removeFirst_cases h with ⟨hnone, -⟩ | ⟨other, hmem, -, -, hr⟩
  · cases hnone
  · have hname : Path.IsName "node_modules" := by decide
    obtain ⟨found, hfound⟩ := Tree.locate_sibling (Tree.remove_keepsDirectories hr)
      (isName_of_lockfile other hmem) hname
      (isName_of_lockfile "package-lock.json" (by decide)) (by decide) (by decide) (by decide)
      (by decide) (Tree.hasFile_of_remove hr) hthere
    exact clearInstalled_total hfound

/-- A lockfile is removed if it is there. Otherwise the first one that is there goes, if there is
any, and the installed packages with it. -/
theorem removeLock_ok {removed : String} (h : removeLock name t repo = (u, .ok removed)) :
    (removed = name ∧ t.remove (repo.child name) = .ok u) ∨
      t.holds (repo.child name) = .ok false ∧
        ((removed = name ∧ clearInstalled t repo = .ok u) ∨
          removed ∈ lockfiles ∧ removed ≠ name ∧ t.holds (repo.child removed) = .ok true ∧
            ∃ v, t.remove (repo.child removed) = .ok v ∧ clearInstalled v repo = .ok u) := by
  unfold removeLock at h
  split at h
  · cases h
  · split at h
    · cases h
    · next hr =>
      cases h
      exact .inl ⟨rfl, hr⟩
  · next hh =>
    split at h
    · cases h
    · next v first hfirst =>
      split at h
      · cases h
      · next hc =>
        cases h
        refine .inr ⟨hh, ?_⟩
        rcases removeFirst_cases hfirst with ⟨rfl, rfl⟩ | ⟨other, ho, rfl, hoh, hor⟩
        · exact .inl ⟨rfl, hc⟩
        · refine .inr ⟨ho, ?_, hoh, v, hor, hc⟩
          intro he
          rw [Option.getD_some] at he
          rw [he, hh] at hoh
          cases hoh

theorem removeLock_error {e : FileError} (h : removeLock name t repo = (u, .error e)) : u = t := by
  unfold removeLock at h
  split at h
  · cases h
    rfl
  · split at h
    · cases h
      rfl
    · cases h
  · split at h
    · cases h
      rfl
    · next v first hfirst =>
      split at h
      · next hc =>
        cases h
        cases first with
        | none =>
          rcases removeFirst_cases hfirst with ⟨-, hu⟩ | ⟨_, -, hsome, -⟩
          · exact hu
          · cases hsome
        | some other =>
          obtain ⟨w, hw⟩ := clearInstalled_of_removeFirst hfirst
          cases hc.symm.trans hw
      · cases h

/-! ## All remedies -/

variable {done : Tree × Except Obstacle Unit}

theorem asChosen_ok (h : asChosen r done = (u, .ok applied)) :
    applied = r ∧ done = (u, .ok ()) := by
  obtain ⟨v, ended⟩ := done
  cases ended with
  | error o => cases h
  | ok _ =>
    cases h
    exact ⟨rfl, rfl⟩

theorem asChosen_error (h : asChosen r done = (u, .error o)) : done = (u, .error o) := by
  obtain ⟨v, ended⟩ := done
  cases ended with
  | error o =>
    cases h
    rfl
  | ok _ => cases h

theorem asRemoval_ok {done : Tree × Except FileError String}
    (h : asRemoval done = (u, .ok applied)) :
    ∃ removed, applied = .removeLockfile (.str removed) ∧ done = (u, .ok removed) := by
  unfold asRemoval at h
  split at h
  · cases h
  · cases h
    exact ⟨_, rfl, rfl⟩

theorem asRemoval_error {done : Tree × Except FileError String}
    (h : asRemoval done = (u, .error o)) :
    ∃ e, o = .failed (.file e) ∧ done = (u, .error e) := by
  unfold asRemoval at h
  split at h
  · cases h
    exact ⟨_, rfl, rfl⟩
  · cases h

/-- An attempt that met an obstacle left the tree as it was. -/
theorem attempt_error (h : r.attempt t repo = (u, .error o)) : u = t := by
  cases r with
  | adjustVersion package version => exact editManifest_error (asChosen_error h)
  | substitutePackage package replacement => exact editManifest_error (asChosen_error h)
  | removePackage package => exact editManifest_error (asChosen_error h)
  | addResolution package version => exact pinManifest_error (asChosen_error h)
  | legacyPeerDeps => exact addSetting_error (asChosen_error h)
  | forceInstall => exact addSetting_error (asChosen_error h)
  | removeLockfile lockfile =>
    cases lockfile with
    | str lockfile =>
      obtain ⟨e, -, hremoval⟩ := asRemoval_error h
      exact removeLock_error hremoval
    | _ =>
      cases h
      rfl
  | unknown text =>
    cases h
    rfl

/-- An application went through, or it met an obstacle and changed nothing. -/
theorem apply_cases (h : r.apply t repo = .ok (u, a)) :
    (r.attempt t repo = (u, .ok a.remedy) ∧ a.obstacle = none) ∨
      u = t ∧ a.remedy = r ∧ ∃ o, r.attempt t repo = (t, .error o) ∧ a.obstacle = some o := by
  unfold apply at h
  split at h
  · next ha =>
    cases h
    exact .inl ⟨ha, rfl⟩
  · next ha =>
    split at h
    · cases h
    · cases h
      obtain rfl := attempt_error ha
      exact .inr ⟨rfl, rfl, _, ha, rfl⟩
  · next ha =>
    cases h
    obtain rfl := attempt_error ha
    exact .inr ⟨rfl, rfl, _, ha, rfl⟩

end BuildRepair.Remedy
