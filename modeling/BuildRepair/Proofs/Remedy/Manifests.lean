import BuildRepair.Proofs.Remedy.Effect
import BuildRepair.Proofs.Remedy.Keeping

/-
  What becomes of a manifest while remedies are applied. A proper remedy that removes no other file
  than a lockfile writes the manifest as it edited it, or leaves its place alone (`attempt_keeps`).
  So after any number of them a manifest stands where it stood, and everything that edits keep is
  kept (`applyAll_keeps`). A path that goes up again may lead through the directory of installed
  packages and so nowhere once that is gone; the manifest is in its place then too.
-/

namespace BuildRepair

open Json (Lossless)
open BuildRepair.Tree (Spares SameWay)

/-! ## One remedy -/

namespace Remedy

open Manifest (Keeps StandsAt)

variable {r applied : Remedy} {t u v : Tree} {repo : Path} {l : Place} {doc : Fields}
  {a : Application} {e : Option Entry} {name : String} {rs : List Remedy}

/-- A path beside the manifest's ends beside the manifest. -/
theorem not_on_way (hname : Path.IsName name) (hne : name ≠ Manifest.fileName)
    (hv : v.working = t.working) (hl : v.locate (Manifest.pathIn repo) = .ok (l, e)) {k : Place}
    {e' : Option Entry} (hk : t.locate (repo.child name) = .ok (k, e')) : ¬ k <+: l := by
  obtain ⟨base, hbase, hbase'⟩ := Tree.locate_beside hv hname (by decide) hk hl
  dsimp only at hbase hbase'
  rw [hbase, hbase']
  exact Tree.beside_not_prefix hne

theorem addSetting_spares {setting : String} (hv : v.working = t.working)
    (hl : v.locate (Manifest.pathIn repo) = .ok (l, e))
    (h : addSetting setting t repo = (u, .ok ())) : Spares l t u := by
  rcases addSetting_ok h with rfl | ⟨text, hw⟩
  · exact .refl l u
  · exact Tree.writeText_spares hw fun k e' hk => not_on_way (by decide) (by decide) hv hl hk

theorem clearInstalled_spares (hv : v.working = t.working)
    (hl : v.locate (Manifest.pathIn repo) = .ok (l, e))
    (h : clearInstalled t repo = .ok u) : Spares l t u := by
  rcases clearInstalled_ok h with ⟨place, hplace, rfl⟩ | ⟨-, rfl⟩
  · exact Tree.prune_spares (not_on_way (by decide) (by decide) hv hl hplace) t
  · exact .refl l u

theorem removeLock_spares {removed : String} (hname : name ∈ lockfiles)
    (hv : v.working = t.working) (hl : v.locate (Manifest.pathIn repo) = .ok (l, e))
    (h : removeLock name t repo = (u, .ok removed)) : Spares l t u := by
  have hother : ∀ name ∈ lockfiles, name ≠ Manifest.fileName := by decide
  have hremove {name : String} (hname : name ∈ lockfiles) {u : Tree}
      (h : t.remove (repo.child name) = .ok u) : Spares l t u :=
    Tree.remove_spares h fun k e' hk =>
      not_on_way (isName_of_lockfile name hname) (hother name hname) hv hl hk
  rcases removeLock_ok h with ⟨-, hr⟩ | ⟨-, ⟨-, hc⟩ | ⟨hremoved, -, -, w, hr, hc⟩⟩
  · exact hremove hname hr
  · exact clearInstalled_spares hv hl hc
  · have hspared := hremove hremoved hr
    exact hspared.trans (clearInstalled_spares (hv.trans hspared.working.symm) hl hc)

/-- The manifest that was edited is the one that stands there, so what was written keeps what edits
keep. -/
theorem rewrite_keeps {edited : Fields} (hv : v.working = t.working)
    (hl : v.locate (Manifest.pathIn repo) = .ok (l, e))
    (hdoc : StandsAt t l doc) (hd : Lossless (.obj doc)) {read : Fields}
    (hread : manifestOf t repo = .ok read)
    (hedit : Lossless (.obj read) → Keeps read edited ∧ Lossless (.obj edited))
    (hw : t.writeText (Manifest.pathIn repo) (Json.obj edited).document = .ok u) :
    ∃ edited, StandsAt u l edited ∧ Lossless (.obj edited) ∧ Keeps doc edited ∧
      SameWay l t u := by
  obtain ⟨k, e', hk, hstands⟩ := Manifest.load_eq_ok.mp (manifestOf_eq_ok hread)
  obtain rfl : k = l := Tree.locate_unique hv hk hl
  obtain rfl : read = doc := hstands.unique hdoc
  obtain ⟨hkeeps, hlossless⟩ := hedit hd
  obtain ⟨hfile, hway⟩ := Tree.writeText_sameWay hv hw hl
  exact ⟨edited, Manifest.standsAt_of_document hlossless hfile, hlossless, hkeeps, hway⟩

/-- After a proper remedy that removes no file but a lockfile, a manifest stands where one stood,
and it keeps what edits keep. -/
theorem Proper.attempt_keeps (hr : r.Proper)
    (hlock : ∀ name, r = .removeLockfile (.str name) → name ∈ lockfiles)
    (hv : v.working = t.working) (hl : v.locate (Manifest.pathIn repo) = .ok (l, e))
    (hdoc : StandsAt t l doc) (hd : Lossless (.obj doc)) (h : r.attempt t repo = (u, .ok applied)) :
    ∃ edited, StandsAt u l edited ∧ Lossless (.obj edited) ∧ Keeps doc edited ∧
      SameWay l t u := by
  have hspared (hs : Spares l t u) : ∃ edited, StandsAt u l edited ∧ Lossless (.obj edited) ∧
      Keeps doc edited ∧ SameWay l t u :=
    ⟨doc, hdoc.of_spares hs, hd, .refl hd, hs.sameWay⟩
  have hgroups {package : Json} {edit : Fields → Edited} (hedit : KeepsLossless edit)
      (h : editManifest package edit t repo = (u, .ok ())) : ∃ edited, StandsAt u l edited ∧
        Lossless (.obj edited) ∧ Keeps doc edited ∧ SameWay l t u := by
    obtain ⟨read, edited, hread, hgroups, hw⟩ := editManifest_ok h
    exact rewrite_keeps hv hl hdoc hd hread (fun hd => editGroups_groups_keeps hedit hd hgroups) hw
  cases hr with
  | adjustVersion package version =>
    exact hgroups (keepsLossless_adjust package version) (asChosen_ok h).2
  | substitutePackage package replacement =>
    exact hgroups (keepsLossless_substitute package replacement) (asChosen_ok h).2
  | removePackage package => exact hgroups (keepsLossless_drop package) (asChosen_ok h).2
  | addResolution package version =>
    obtain ⟨read, edited, hread, hpin, hw⟩ := pinManifest_ok (asChosen_ok h).2
    exact rewrite_keeps hv hl hdoc hd hread (fun hd => pin_keeps (fun _ hb => hb) hd hpin) hw
  | legacyPeerDeps => exact hspared (addSetting_spares hv hl (asChosen_ok h).2)
  | forceInstall => exact hspared (addSetting_spares hv hl (asChosen_ok h).2)
  | removeLockfile lockfile =>
    obtain ⟨removed, -, hremoval⟩ := asRemoval_ok h
    exact hspared (removeLock_spares (hlock lockfile rfl) hv hl hremoval)

/-! ## Any number of remedies -/

theorem applyAll_standsAt (hrs : ∀ r ∈ rs, r.Proper)
    (hlock : ∀ name, .removeLockfile (.str name) ∈ rs → name ∈ lockfiles)
    (hv : v.working = t.working) (hl : v.locate (Manifest.pathIn repo) = .ok (l, e))
    (hdoc : StandsAt t l doc) (hd : Lossless (.obj doc)) :
    ∃ edited, StandsAt (applyAll repo t rs) l edited ∧ Keeps doc edited ∧
      SameWay l t (applyAll repo t rs) := by
  induction rs generalizing t doc with
  | nil => exact ⟨doc, hdoc, .refl hd, .refl l t⟩
  | cons r rs ih =>
    obtain ⟨hr, hrs⟩ := List.forall_mem_cons.mp hrs
    have hlocks : ∀ name, .removeLockfile (.str name) ∈ rs → name ∈ lockfiles :=
      fun name hn => hlock name (List.mem_cons_of_mem _ hn)
    obtain ⟨u, a, h⟩ := hr.apply_total t repo
    rw [applyAll_cons, h]
    dsimp only
    rcases apply_cases h with ⟨ha, -⟩ | ⟨rfl, -⟩
    · have hself : ∀ name, r = .removeLockfile (.str name) → name ∈ lockfiles := by
        rintro name rfl
        exact hlock name (List.mem_cons_self ..)
      obtain ⟨edited, hstands, hlossless, hkeeps, hway⟩ := hr.attempt_keeps hself hv hl hdoc hd ha
      obtain ⟨last, hlast, hkeeps', hway'⟩ :=
        ih hrs hlocks (hv.trans hway.working.symm) hstands hlossless
      exact ⟨last, hlast, hkeeps.trans hkeeps', hway.trans hway'⟩
    · exact ih hrs hlocks hv hdoc hd

/-- A manifest without doubles that was loaded from a place is still a manifest there after any
number of proper remedies that remove no file but lockfiles, and keeps what edits keep. It is loaded
again as such, at least if the path of the repository never goes up. -/
theorem applyAll_keeps (hload : Manifest.load t repo = .ok doc)
    (hreal : Json.fieldsHoldReal doc = false) (hrs : ∀ r ∈ rs, r.Proper)
    (hlock : ∀ name, .removeLockfile (.str name) ∈ rs → name ∈ lockfiles) :
    ∃ l e edited, t.locate (Manifest.pathIn repo) = .ok (l, e) ∧
      StandsAt (applyAll repo t rs) l edited ∧ Keeps doc edited ∧
      (".." ∉ repo.parts → Manifest.load (applyAll repo t rs) repo = .ok edited) := by
  obtain ⟨l, e, hl, hdoc⟩ := Manifest.load_eq_ok.mp hload
  have hd := Manifest.lossless_of_standsAt hdoc hreal
  obtain ⟨edited, hstands, hkeeps, hway⟩ := applyAll_standsAt hrs hlock rfl hl hdoc hd
  refine ⟨l, e, edited, hl, hstands, hkeeps, ?_⟩
  intro hup
  exact Manifest.load_eq_ok.mpr ⟨l, _, hway.locate hup (by decide) hl, hstands⟩

/-- A manifest with two groups, one of which is no object. -/
def twoGroups : Fields :=
  [("private", .bool true), ("dependencies", .obj [("react", .str "1"), ("ws", .null)]),
    ("devDependencies", .str "none")]

theorem lossless_twoGroups : Lossless (.obj twoGroups) := by
  have hdeps : Lossless (.obj [("react", .str "1"), ("ws", .null)]) :=
    .obj (by simpa using ⟨.str "1", .null⟩) (by decide)
  exact .obj (by simpa [twoGroups] using ⟨.bool true, hdeps, .str "none"⟩) (by decide)

/-- A repository with that manifest, a lockfile and a directory of installed packages. -/
def twoGroupsTree : Tree :=
  { entries := [(["repo"], .directory),
      (["repo", "package.json"], .file (.text (Json.obj twoGroups).document)),
      (["repo", "yarn.lock"], .file (.text "")), (["repo", "node_modules"], .directory)] }

/-- One remedy of each effect: a group is edited, a version pinned, a setting added, and a lockfile
removed that is not there. -/
def oneOfEach : List Remedy :=
  [.substitutePackage (.str "react") (.str "preact"), .addResolution (.str "ws") (.str "8"),
    .legacyPeerDeps, .removeLockfile (.str "package-lock.json")]

theorem oneOfEach_keeps : ∃ edited,
    Manifest.load (applyAll (Path.ofString "repo") twoGroupsTree oneOfEach) (Path.ofString "repo") =
      .ok edited ∧ Keeps twoGroups edited := by
  have hload : Manifest.load twoGroupsTree (Path.ofString "repo") = .ok twoGroups :=
    Manifest.load_eq_ok.mpr ⟨["repo", "package.json"], _, rfl,
      Manifest.standsAt_of_document lossless_twoGroups rfl⟩
  have hproper : ∀ r ∈ oneOfEach, r.Proper := by
    intro r hr
    simp only [oneOfEach, List.mem_cons, List.not_mem_nil, or_false] at hr
    rcases hr with rfl | rfl | rfl | rfl <;> constructor
  have hlock : ∀ name, .removeLockfile (.str name) ∈ oneOfEach → name ∈ lockfiles := by
    intro name hname
    simp only [oneOfEach, List.mem_cons, List.not_mem_nil, or_false, reduceCtorEq, false_or,
      removeLockfile.injEq, Json.str.injEq] at hname
    rw [hname]
    decide
  obtain ⟨-, -, edited, -, -, hkeeps, hagain⟩ :=
    applyAll_keeps hload (by decide) hproper hlock
  exact ⟨edited, hagain (by decide), hkeeps⟩

end Remedy

end BuildRepair
