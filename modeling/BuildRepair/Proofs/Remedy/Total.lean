import BuildRepair.Proofs.Manifest
import BuildRepair.Proofs.Remedy.Attempt
import BuildRepair.Proofs.Remedy.Proper
import BuildRepair.Proofs.Replacement.Renaming

/-
  When applying a remedy fails altogether. What the file system refuses or a text does not hold is
  an obstacle, and the application says so. But the fields of a stored remedy may be any values, and
  one of the wrong kind for what is done with it is no such obstacle: an array or object that is
  looked up in a manifest or put there as a name, or the name of a lockfile that is no string.
  `Unfit` says of each remedy for which manifests it has such a value; nothing else makes an
  application fail (`apply_fails_iff`). A proper remedy has none, so applying it always ends with a
  tree and an application (`Proper.apply_total`).

  The one value that a manifest has no form for is a point in time. A manifest is read by a reader
  that builds none (`Manifest.load_dateless`), so those that are to be written come from the remedy.
-/

namespace BuildRepair

open Json (FieldsDateless)
open Manifest (groups regroup)

/-! ## Operations that fail -/

namespace Manifest

variable {t : Tree} {repo : Path} {e : Failure}

theorem readText_not_kindError {p : Path} (h : t.readText p = .error e) :
    e.isKindError = false := by
  unfold Tree.readText at h
  split at h
  case h_5 =>
    split at h
    · cases h
    · cases h
      rfl
  all_goals
    cases h
    try rfl

theorem load_not_kindError (h : load t repo = .error e) : e.isKindError = false := by
  unfold load at h
  split at h
  · next ht =>
    cases h
    exact readText_not_kindError ht
  · unfold readDocument at h
    split at h
    · cases h
      rfl
    · unfold fieldsOf at h
      split at h
      · cases h
      · cases h
        rfl

end Manifest

/-- An obstacle that keeps a remedy from being applied and no more. -/
def Obstacle.IsMild : Obstacle → Prop
  | .failed e => e.isKindError = false
  | _ => True

namespace Remedy

variable {r : Remedy} {t u : Tree} {repo : Path} {doc deps : Fields} {o : Obstacle}
  {package version replacement : Json} {edit : Fields → Edited} {gs : List (String × Fields)}
  {P : Fields → Prop} {e : Failure}

/-- Whether an operation met an obstacle that makes the application fail. -/
def Fails (done : Tree × Except Obstacle α) : Prop := ∃ o, done.2 = .error o ∧ ¬ o.IsMild

theorem fails_failed {e : Failure} :
    Fails ((t, .error (.failed e)) : Tree × Except Obstacle α) ↔ e.isKindError = true := by
  simp [Fails, Obstacle.IsMild]

theorem not_fails {done : Tree × Except Obstacle α}
    (h : ∀ u o, done = (u, .error o) → o.IsMild) : ¬ Fails done := by
  rintro ⟨o, ho, hmild⟩
  exact hmild (h done.1 o (Prod.ext rfl ho))

theorem fails_asChosen {done : Tree × Except Obstacle Unit} :
    Fails (asChosen r done) ↔ Fails done := by
  simp [Fails, asChosen, map_eq_error]

theorem apply_fails : (∃ e, r.apply t repo = .error e) ↔ Fails (r.attempt t repo) := by
  unfold apply
  rcases r.attempt t repo with ⟨u, o | applied⟩
  · cases o with
    | failed e => by_cases he : e.isKindError = true <;> simp [fails_failed, he]
    | _ => simp [Fails, Obstacle.IsMild]
  · simp [Fails]

theorem apply_of_not_fails (h : ¬ Fails (r.attempt t repo)) :
    ∃ u a, r.apply t repo = .ok (u, a) := by
  rw [← apply_fails] at h
  rcases happly : r.apply t repo with e | ⟨u, a⟩
  · exact absurd ⟨e, happly⟩ h
  · exact ⟨u, a, rfl⟩

theorem manifestOf_of_load (h : Manifest.load t repo = .ok doc) : manifestOf t repo = .ok doc := by
  unfold manifestOf
  rw [Manifest.holds_of_load h]
  dsimp only
  rw [h]

/-- A manifest is loaded, or what is in the way does not end a run. -/
theorem manifestOf_cases (t : Tree) (repo : Path) :
    (∃ doc, Manifest.load t repo = .ok doc ∧ manifestOf t repo = .ok doc) ∨
      (∀ doc, Manifest.load t repo ≠ .ok doc) ∧
        ∃ o, manifestOf t repo = .error o ∧ o.IsMild := by
  by_cases hload : ∃ doc, Manifest.load t repo = .ok doc
  · obtain ⟨doc, hload⟩ := hload
    exact .inl ⟨doc, hload, manifestOf_of_load hload⟩
  · refine .inr ⟨fun doc hdoc => hload ⟨doc, hdoc⟩, ?_⟩
    unfold manifestOf
    split
    · exact ⟨_, rfl, rfl⟩
    · exact ⟨_, rfl, trivial⟩
    · split
      · next hdoc => exact absurd ⟨_, hdoc⟩ hload
      · exact ⟨_, rfl, trivial⟩
      · next he => exact ⟨_, rfl, Manifest.load_not_kindError he⟩

theorem manifestOf_eq_ok (h : manifestOf t repo = .ok doc) : Manifest.load t repo = .ok doc := by
  rcases manifestOf_cases t repo with ⟨doc', hload, hm⟩ | ⟨-, o, hm, -⟩
  · cases hm.symm.trans h
    exact hload
  · cases hm.symm.trans h

/-- Saving a document fails iff it holds a point in time. -/
theorem fails_saveManifest : Fails (saveManifest t repo doc) ↔ ¬ FieldsDateless doc := by
  unfold saveManifest Manifest.write
  rw [← Json.fieldsHoldDate_eq_false_iff, Bool.not_eq_false]
  split
  · next hw =>
    rw [fails_failed]
    split at hw
    · next hdate =>
      cases hw
      simp [hdate, Failure.isKindError]
    · next hdate =>
      split at hw
      · cases hw
        simp [hdate, Failure.isKindError]
      · cases hw
  · next hw =>
    split at hw
    · cases hw
    · next hdate => simp [Fails, hdate]

theorem addSetting_mild {setting : String} (h : addSetting setting t repo = (u, .error o)) :
    o.IsMild := by
  unfold addSetting at h
  dsimp only at h
  split at h
  · next e he =>
    cases h
    unfold textOrEmpty at he
    split at he
    · cases he
      rfl
    · cases he
    · exact Manifest.readText_not_kindError he
  · split at h
    · cases h
    · split at h
      · cases h
        rfl
      · cases h

/-! ## Values of the wrong kind -/

/-- Whether a value cannot be the name of a field. -/
def NoName (j : Json) : Prop := j.isKey = false ∨ ∃ d, j = .date d

/-- Whether a value names a package that a group declares. -/
def IsDeclared (package : Json) (deps : Fields) : Prop :=
  ∃ p, package = .str p ∧ p ∈ Assoc.keys deps

theorem fieldName?_cases (j : Json) :
    (∃ s, fieldName? j = .ok s ∧ ¬ NoName j) ∨
      ∃ e, fieldName? j = .error e ∧ e.isKindError = true ∧ NoName j := by
  cases j with
  | date d => exact .inr ⟨_, rfl, rfl, .inr ⟨d, rfl⟩⟩
  | arr items => exact .inr ⟨_, rfl, rfl, .inl rfl⟩
  | obj fields => exact .inr ⟨_, rfl, rfl, .inl rfl⟩
  | _ => exact .inl ⟨_, rfl, by simp [NoName, Json.isKey]⟩

theorem declared?_str (package : String) (deps : Fields) :
    declared? (.str package) deps = .ok ((Assoc.find? package deps).map (package, ·)) := rfl

/-- A value is looked up in a group, or it is an array or object. -/
theorem declared?_cases (package : Json) (deps : Fields) :
    (package.isKey = false ∧ ∃ e, declared? package deps = .error e ∧ e.isKindError = true) ∨
      package.isKey = true ∧
        (declared? package deps = .ok none ∧ ¬ IsDeclared package deps ∨
          ∃ p value, declared? package deps = .ok (some (p, value)) ∧
            Assoc.find? p deps = some value ∧ IsDeclared package deps) := by
  cases package with
  | str p =>
    refine .inr ⟨rfl, ?_⟩
    rw [declared?_str]
    cases hfind : Assoc.find? p deps with
    | none =>
      refine .inl ⟨rfl, ?_⟩
      rintro ⟨q, ⟨⟩, hq⟩
      exact Assoc.not_mem_keys_of_find?_eq_none hfind hq
    | some value =>
      exact .inr ⟨p, value, rfl, hfind, p, rfl, Assoc.mem_keys_of_find? hfind⟩
  | arr items => exact .inl ⟨rfl, _, rfl, rfl⟩
  | obj fields => exact .inl ⟨rfl, _, rfl, rfl⟩
  | _ => exact .inr ⟨rfl, .inl ⟨rfl, by simp [IsDeclared]⟩⟩

/-- A package gives way to another one, or the name for that one is of the wrong kind. -/
theorem renamed_cases (replacement : Json) {name : String} {version : Json}
    (hfind : Assoc.find? name deps = some version) (hd : FieldsDateless deps) :
    ((replacement.truthy = true ∧ NoName replacement) ∧
        ∃ e, renamed name replacement version deps = .error e ∧ e.isKindError = true) ∨
      ¬ (replacement.truthy = true ∧ NoName replacement) ∧
        ∃ edited, renamed name replacement version deps = .ok edited ∧ FieldsDateless edited := by
  have hversion : version.Dateless := hd _ (Assoc.mem_of_find?_eq_some hfind)
  by_cases hstr : ∃ new, replacement = .str new
  · obtain ⟨new, rfl⟩ := hstr
    exact .inr ⟨by simp [NoName, Json.isKey], Replacement.rename name new version deps, rfl,
      Replacement.rename_dateless hd hversion⟩
  · have hrenamed : renamed name replacement version deps =
        if !replacement.truthy then .ok (Assoc.erase name deps)
        else
          (fieldName? replacement).map fun new =>
            deps.map fun p => if p.1 = name then (new, version) else (p.1, p.2) := by
      cases replacement with
      | str new => exact absurd ⟨new, rfl⟩ hstr
      | _ => rfl
    rw [hrenamed]
    by_cases htruthy : replacement.truthy = true
    · rw [if_neg (by simp [htruthy])]
      rcases fieldName?_cases replacement with ⟨new, hnew, hname⟩ | ⟨e, he, hkind, hname⟩
      · refine .inr ⟨fun h => hname h.2, _, by rw [hnew]; rfl, ?_⟩
        intro p hp
        obtain ⟨q, hq, rfl⟩ := List.mem_map.mp hp
        split
        · exact hversion
        · exact hd q hq
      · exact .inl ⟨⟨htruthy, hname⟩, e, by rw [he]; rfl, hkind⟩
    · rw [if_pos (by simp [htruthy])]
      exact .inr ⟨fun h => htruthy h.1, _, rfl, fun p hp => hd p (List.mem_filter.mp hp).1⟩

/-! ## Edits of a group -/

/-- Whether an edit failed, or counts and has brought in a point in time. -/
def Breaks (result : Edited) : Prop :=
  (∃ e, result = .error e ∧ e.isKindError = true) ∨
    ∃ edited, result = .ok (edited, true) ∧ ¬ FieldsDateless edited

/-- Whether an edit went through and has brought in no point in time. -/
def Works (result : Edited) : Prop :=
  ∃ edited counts, result = .ok (edited, counts) ∧ FieldsDateless edited

/-- Whether an edit breaks exactly where a property holds, and works elsewhere. -/
def BreaksIf (edit : Fields → Edited) (P : Fields → Prop) : Prop :=
  ∀ deps, FieldsDateless deps → (P deps → Breaks (edit deps)) ∧ (¬ P deps → Works (edit deps))

theorem breaksIf_adjust (package version : Json) : BreaksIf (adjust package version)
    fun deps => package.isKey = false ∨ IsDeclared package deps ∧ ¬ version.Dateless := by
  intro deps hd
  unfold Breaks Works adjust
  rcases declared?_cases package deps with
    ⟨hkey, e, he, hkind⟩ | ⟨hkey, ⟨hnone, hdecl⟩ | ⟨p, value, hsome, -, hdecl⟩⟩
  · rw [he]
    exact ⟨fun _ => .inl ⟨e, rfl, hkind⟩, fun h => absurd (.inl hkey) h⟩
  · rw [hnone]
    exact ⟨fun h => by simp [hkey, hdecl] at h, fun _ => ⟨deps, false, rfl, hd⟩⟩
  · rw [hsome]
    have hput : (p, version) ∈ Assoc.put p version deps :=
      Assoc.mem_of_find?_eq_some (by rw [Assoc.find?_put, if_pos (beq_self_eq_true p)])
    constructor
    · rintro (h | ⟨-, hdate⟩)
      · simp [hkey] at h
      · exact .inr ⟨_, rfl, fun h => hdate (h _ hput)⟩
    · intro h
      rw [not_or, not_and, not_not] at h
      exact ⟨_, true, rfl, hd.put (h.2 hdecl) p⟩

theorem breaksIf_substitute (package replacement : Json) :
    BreaksIf (substitute package replacement) fun deps => package.isKey = false ∨
      IsDeclared package deps ∧ replacement.truthy = true ∧ NoName replacement := by
  intro deps hd
  unfold Breaks Works substitute
  rcases declared?_cases package deps with
    ⟨hkey, e, he, hkind⟩ | ⟨hkey, ⟨hnone, hdecl⟩ | ⟨p, value, hsome, hfind, hdecl⟩⟩
  · rw [he]
    exact ⟨fun _ => .inl ⟨e, rfl, hkind⟩, fun h => absurd (.inl hkey) h⟩
  · rw [hnone]
    exact ⟨fun h => by simp [hkey, hdecl] at h, fun _ => ⟨deps, false, rfl, hd⟩⟩
  · rw [hsome]
    rcases renamed_cases replacement hfind hd with
      ⟨hbad, e, he, hkind⟩ | ⟨hgood, edited, hedited, hdateless⟩
    · simp only [he]
      exact ⟨fun _ => .inl ⟨e, rfl, hkind⟩, fun h => absurd (.inr ⟨hdecl, hbad⟩) h⟩
    · simp only [hedited]
      refine ⟨fun h => ?_, fun _ => ⟨edited, true, rfl, hdateless⟩⟩
      rcases h with h | ⟨-, hbad⟩
      · simp [hkey] at h
      · exact absurd hbad hgood

theorem breaksIf_drop (package : Json) :
    BreaksIf (drop package) fun deps => deps ≠ [] ∧ package.isKey = false := by
  intro deps hd
  unfold Breaks Works drop
  by_cases hempty : deps = []
  · subst hempty
    exact ⟨fun h => absurd rfl h.1, fun _ => ⟨[], false, rfl, hd⟩⟩
  · rw [if_neg (by simpa using hempty)]
    have herase (name : String) : FieldsDateless (Assoc.erase name deps) :=
      fun p hp => hd p (List.mem_filter.mp hp).1
    rcases declared?_cases package deps with
      ⟨hkey, e, he, hkind⟩ | ⟨hkey, ⟨hnone, -⟩ | ⟨p, value, hsome, -, -⟩⟩
    · rw [he]
      exact ⟨fun _ => .inl ⟨e, rfl, hkind⟩, fun h => absurd ⟨hempty, hkey⟩ h⟩
    · rw [hnone]
      exact ⟨fun h => by simp [hkey] at h, fun _ => ⟨deps, false, rfl, hd⟩⟩
    · rw [hsome]
      refine ⟨fun h => by simp [hkey] at h, fun _ => ?_⟩
      cases value with
      | null => exact ⟨_, false, rfl, herase p⟩
      | _ => exact ⟨_, true, rfl, herase p⟩

/-! ## Edits of a manifest -/

/-- Groups that are edited by themselves are edited one after the other. -/
theorem editGroups_eq (f : Fields → Fields) (counts : Fields → Bool)
    (h : ∀ g ∈ gs, edit g.2 = .ok (f g.2, counts g.2)) :
    editGroups edit doc gs = .ok (regroup f doc gs, gs.any fun g => counts g.2) := by
  induction gs generalizing doc with
  | nil => rfl
  | cons g gs ih =>
    obtain ⟨hg, h⟩ := List.forall_mem_cons.mp h
    rw [editGroups, hg]
    dsimp only
    rw [ih h]
    rfl

/-- Edits of groups fail where one of them does. -/
theorem editGroups_fails (hkind : ∀ g ∈ gs, ∀ e, edit g.2 = .error e → e.isKindError = true)
    (h : ∃ g ∈ gs, ∃ e, edit g.2 = .error e) :
    ∃ e, editGroups edit doc gs = .error e ∧ e.isKindError = true := by
  induction gs generalizing doc with
  | nil =>
    obtain ⟨g, hg, -⟩ := h
    cases hg
  | cons head gs ih =>
    obtain ⟨hhead, hkind⟩ := List.forall_mem_cons.mp hkind
    unfold editGroups
    cases hedit : edit head.2 with
    | error e => exact ⟨e, rfl, hhead e hedit⟩
    | ok next =>
      obtain ⟨g, hg, e, he⟩ := h
      have hrest : g ∈ gs := by
        refine (List.mem_cons.mp hg).resolve_left ?_
        rintro rfl
        cases hedit.symm.trans he
      obtain ⟨e, hrest, hkind⟩ := ih hkind ⟨g, hrest, e, he⟩
      dsimp only
      rw [hrest]
      exact ⟨e, rfl, hkind⟩

/-- An edit fails only where it breaks, and then by a value of the wrong kind. -/
theorem BreaksIf.of_error (h : BreaksIf edit P) (hd : FieldsDateless deps)
    (he : edit deps = .error e) : P deps ∧ e.isKindError = true := by
  by_cases hP : P deps
  · rcases (h deps hd).1 hP with ⟨e', he', hkind⟩ | ⟨edited, hedit, -⟩
    · cases he.symm.trans he'
      exact ⟨hP, hkind⟩
    · cases he.symm.trans hedit
  · obtain ⟨edited, counts, hedit, -⟩ := (h deps hd).2 hP
    cases he.symm.trans hedit

/-- What an edit that does not fail leaves of a group, and whether it counts. -/
def resultOf (edit : Fields → Edited) (deps : Fields) : Fields × Bool :=
  (edit deps).toOption.getD (deps, false)

theorem eq_resultOf (h : ¬ ∃ e, edit deps = .error e) : edit deps = .ok (resultOf edit deps) := by
  unfold resultOf
  cases hedit : edit deps with
  | error e => exact absurd ⟨e, hedit⟩ h
  | ok result => rfl

/-- Edits of groups break where one of them does. -/
theorem editGroups_breaksIf (h : BreaksIf edit P) (hd : FieldsDateless doc) :
    ((∃ g ∈ groups doc, P g.2) → Breaks (editGroups edit doc (groups doc))) ∧
      ((¬ ∃ g ∈ groups doc, P g.2) → Works (editGroups edit doc (groups doc))) := by
  have hdeps := Manifest.groups_dateless hd
  by_cases herror : ∃ g ∈ groups doc, ∃ e, edit g.2 = .error e
  · refine ⟨fun _ => .inl (editGroups_fails (fun g hg e he => ?_) herror), fun hP => ?_⟩
    · exact (h.of_error (hdeps g hg) he).2
    · obtain ⟨g, hg, e, he⟩ := herror
      exact absurd ⟨g, hg, (h.of_error (hdeps g hg) he).1⟩ hP
  · -- every group has a result, and the document is regrouped to these
    have hresult : ∀ g ∈ groups doc, edit g.2 = .ok (resultOf edit g.2) :=
      fun g hg => eq_resultOf fun he => herror ⟨g, hg, he⟩
    have hall := @editGroups_eq doc edit (groups doc) (fun deps => (resultOf edit deps).1)
      (fun deps => (resultOf edit deps).2) hresult
    constructor
    · rintro ⟨g, hg, hP⟩
      rcases (h g.2 (hdeps g hg)).1 hP with ⟨e, he, -⟩ | ⟨edited, hedit, hdate⟩
      · exact absurd ⟨g, hg, e, he⟩ herror
      · have hres : resultOf edit g.2 = (edited, true) :=
          Except.ok.inj ((hresult g hg).symm.trans hedit)
        have hany : ((groups doc).any fun g => (resultOf edit g.2).2) = true :=
          List.any_eq_true.mpr ⟨g, hg, by rw [hres]⟩
        refine .inr ⟨_, by rw [hall, hany], fun hdateless => hdate ?_⟩
        have hmem : (g.1, edited) ∈
            groups (regroup (fun deps => (resultOf edit deps).1) doc (groups doc)) := by
          rw [(Manifest.regroup_regrouped _ doc).groups]
          exact List.mem_map.mpr ⟨g, hg, by rw [hres]⟩
        exact Manifest.groups_dateless hdateless _ hmem
    · intro hP
      refine ⟨_, _, hall, Manifest.regroup_dateless hd fun g hg => ?_⟩
      obtain ⟨edited, counts, hedit, hdateless⟩ :=
        (h g.2 (hdeps g hg)).2 fun hPg => hP ⟨g, hg, hPg⟩
      rwa [Except.ok.inj ((hresult g hg).symm.trans hedit)]

/-- An edit of the manifest fails iff it breaks one of its groups. -/
theorem fails_editManifest (h : BreaksIf edit P) : Fails (editManifest package edit t repo) ↔
    ∃ doc, Manifest.load t repo = .ok doc ∧ ∃ g ∈ groups doc, P g.2 := by
  unfold editManifest
  rcases manifestOf_cases t repo with ⟨doc, hload, hm⟩ | ⟨hnone, o, hm, hmild⟩
  · obtain ⟨hbreaks, hworks⟩ := editGroups_breaksIf h (Manifest.load_dateless hload)
    rw [hm]
    dsimp only
    constructor
    · intro hfails
      by_contra hP
      obtain ⟨edited, counts, hedit, hdateless⟩ := hworks fun hg => hP ⟨doc, hload, hg⟩
      rw [hedit] at hfails
      cases counts with
      | false => simp [Fails, Obstacle.IsMild] at hfails
      | true => exact fails_saveManifest.mp hfails hdateless
    · rintro ⟨doc', hload', hP⟩
      cases hload.symm.trans hload'
      rcases hbreaks hP with ⟨e, he, hkind⟩ | ⟨edited, hedit, hdate⟩
      · rw [he]
        exact fails_failed.mpr hkind
      · rw [hedit]
        exact fails_saveManifest.mpr hdate
  · rw [hm]
    simp [Fails, hmild, hnone]

/-- A version is pinned in a block, or the name of the package is of the wrong kind. -/
theorem pinIn_cases (package version : Json) (doc : Fields) (block : String) :
    (NoName package ∧ ∃ e, pinIn package version doc block = .error e ∧ e.isKindError = true) ∨
      ¬ NoName package ∧ ∃ p entries,
        pinIn package version doc block = .ok (Assoc.put block (.obj entries) doc) ∧
          (p, version) ∈ entries ∧
          (FieldsDateless doc → version.Dateless → FieldsDateless entries) := by
  let old := ((Assoc.find? block doc).bind Json.fields?).getD []
  have hold (hd : FieldsDateless doc) : FieldsDateless old := by
    rcases Manifest.entries_cases block doc with hnone | hsome
    · intro p hp
      rw [show old = [] from hnone] at hp
      cases hp
    · exact Json.dateless_obj_iff.mp (hd _ (Assoc.mem_of_find?_eq_some hsome))
  by_cases hstr : ∃ p, package = .str p
  · obtain ⟨p, rfl⟩ := hstr
    refine .inr ⟨by simp [NoName, Json.isKey], p, Assoc.put p version old, rfl, ?_, ?_⟩
    · exact Assoc.mem_of_find?_eq_some (by rw [Assoc.find?_put, if_pos (beq_self_eq_true p)])
    · exact fun hd hv => (hold hd).put hv p
  · have hpin : pinIn package version doc block = (fieldName? package).map fun p =>
        Assoc.put block (.obj (old ++ [(p, version)])) doc := by
      cases package with
      | str p => exact absurd ⟨p, rfl⟩ hstr
      | _ => rfl
    rw [hpin]
    rcases fieldName?_cases package with ⟨p, hp, hname⟩ | ⟨e, he, hkind, hname⟩
    · refine .inr ⟨hname, p, old ++ [(p, version)], by rw [hp]; rfl, by simp, ?_⟩
      intro hd hv q hq
      rcases List.mem_append.mp hq with hq | hq
      · exact hold hd q hq
      · rw [List.mem_singleton.mp hq]
        exact hv
    · exact .inl ⟨hname, e, by rw [he]; rfl, hkind⟩

/-- A version that was pinned brings in a point in time iff it holds one. -/
theorem pin_ok (hname : ¬ NoName package) (version : Json) (doc : Fields) (blocks : List String) :
    ∃ edited, pin package version doc blocks = .ok edited ∧
      (FieldsDateless doc → version.Dateless → FieldsDateless edited) ∧
      (blocks ≠ [] → FieldsDateless edited → version.Dateless) := by
  induction blocks generalizing doc with
  | nil => exact ⟨doc, rfl, fun hd _ => hd, fun h => absurd rfl h⟩
  | cons block blocks ih =>
    rcases pinIn_cases package version doc block with
      ⟨h, -⟩ | ⟨-, p, entries, hpin, hmem, hentries⟩
    · exact absurd h hname
    · obtain ⟨edited, hrest, hdateless, hversion⟩ := ih (Assoc.put block (.obj entries) doc)
      refine ⟨edited, ?_, ?_, fun _ hedited => ?_⟩
      · rw [pin, hpin]
        exact hrest
      · intro hd hv
        exact hdateless (hd.put (Json.dateless_obj_iff.mpr (hentries hd hv)) block) hv
      · by_cases hlast : blocks = []
        · subst hlast
          cases hrest
          have hfind : Assoc.find? block (Assoc.put block (.obj entries) doc) =
              some (.obj entries) := by
            rw [Assoc.find?_put, if_pos (beq_self_eq_true block)]
          exact Json.dateless_obj_iff.mp (hedited _ (Assoc.mem_of_find?_eq_some hfind)) _ hmem
        · exact hversion hlast hedited

theorem fails_pinManifest : Fails (pinManifest package version t repo) ↔
    ∃ doc, Manifest.load t repo = .ok doc ∧ (NoName package ∨ ¬ version.Dateless) := by
  unfold pinManifest
  rcases manifestOf_cases t repo with ⟨doc, hload, hm⟩ | ⟨hnone, o, hm, hmild⟩
  · rw [hm]
    dsimp only
    have hexists : (∃ doc, Manifest.load t repo = .ok doc ∧ (NoName package ∨ ¬ version.Dateless)) ↔
        (NoName package ∨ ¬ version.Dateless) :=
      ⟨fun ⟨_, _, h⟩ => h, fun h => ⟨doc, hload, h⟩⟩
    rw [hexists]
    by_cases hname : NoName package
    · rcases pinIn_cases package version doc "resolutions" with ⟨-, e, he, hkind⟩ | ⟨h, -⟩
      · have hpin : pin package version doc pinBlocks = .error e := by
          rw [pinBlocks, pin, he]
        rw [hpin]
        exact iff_of_true (fails_failed.mpr hkind) (.inl hname)
      · exact absurd hname h
    · obtain ⟨edited, hpin, hdateless, hversion⟩ := pin_ok hname version doc pinBlocks
      rw [hpin]
      dsimp only
      rw [fails_saveManifest, or_iff_right hname, not_iff_not]
      exact ⟨hversion (by decide), hdateless (Manifest.load_dateless hload)⟩
  · rw [hm]
    simp [Fails, hmild, hnone]

/-! ## All remedies -/

/-- Whether a remedy has a value that is of the wrong kind for what it does to a manifest. -/
def Unfit (doc : Fields) : Remedy → Prop
  | .adjustVersion package version => ∃ g ∈ groups doc,
      package.isKey = false ∨ IsDeclared package g.2 ∧ ¬ version.Dateless
  | .substitutePackage package replacement => ∃ g ∈ groups doc,
      package.isKey = false ∨
        IsDeclared package g.2 ∧ replacement.truthy = true ∧ NoName replacement
  | .removePackage package => ∃ g ∈ groups doc, g.2 ≠ [] ∧ package.isKey = false
  | .addResolution package version => NoName package ∨ ¬ version.Dateless
  | _ => False

/-- Whether a remedy removes a lockfile by a name that is no string. -/
def Nameless (r : Remedy) : Prop := ∃ name, r = .removeLockfile name ∧ name.str? = none

theorem fails_attempt : Fails (r.attempt t repo) ↔
    r.Nameless ∨ ∃ doc, Manifest.load t repo = .ok doc ∧ r.Unfit doc := by
  cases r with
  | adjustVersion package version =>
    rw [attempt, fails_asChosen, fails_editManifest (breaksIf_adjust package version)]
    simp [Nameless, Unfit]
  | substitutePackage package replacement =>
    rw [attempt, fails_asChosen, fails_editManifest (breaksIf_substitute package replacement)]
    simp [Nameless, Unfit]
  | removePackage package =>
    rw [attempt, fails_asChosen, fails_editManifest (breaksIf_drop package)]
    simp [Nameless, Unfit]
  | addResolution package version =>
    rw [attempt, fails_asChosen, fails_pinManifest]
    simp [Nameless, Unfit]
  | legacyPeerDeps =>
    rw [attempt, fails_asChosen]
    simp [Nameless, Unfit, not_fails fun _ _ => addSetting_mild]
  | forceInstall =>
    rw [attempt, fails_asChosen]
    simp [Nameless, Unfit, not_fails fun _ _ => addSetting_mild]
  | removeLockfile name =>
    cases name with
    | str lockfile =>
      have hmild : ∀ u o, asRemoval (removeLock lockfile t repo) = (u, .error o) → o.IsMild := by
        intro u o h
        obtain ⟨e, rfl, -⟩ := asRemoval_error h
        rfl
      simp [Nameless, Unfit, attempt, not_fails hmild, Json.str?]
    | _ => simp [Nameless, Unfit, attempt, fails_failed, Failure.isKindError, Json.str?]
  | unknown text => simp [Nameless, Unfit, attempt, Fails, Obstacle.IsMild]

/-- Applying a remedy fails iff a lockfile has no name, or the manifest can be loaded and some value
is of the wrong kind for what is done with it. Otherwise it always ends with an application. -/
theorem apply_fails_iff : (∃ e, r.apply t repo = .error e) ↔
    r.Nameless ∨ ∃ doc, Manifest.load t repo = .ok doc ∧ r.Unfit doc :=
  apply_fails.trans fails_attempt

/-- A stored remedy may have a number where the name of a lockfile should be, and is then applied
nowhere. -/
theorem numberedLockfile_fails : ∃ r,
    ofJson (.obj [("type", .str "remove_lockfile"), ("lockfile", .int 5)]) = .ok r ∧
      ∀ t repo, r.apply t repo = .error (.notFileName (.int 5)) :=
  ⟨.removeLockfile (.int 5), rfl, fun _ _ => rfl⟩

/-- Applying a proper remedy always ends with a tree and an application. -/
theorem Proper.apply_total (hr : r.Proper) (t : Tree) (repo : Path) :
    ∃ u a, r.apply t repo = .ok (u, a) := by
  refine apply_of_not_fails ?_
  rw [fails_attempt]
  cases hr <;> simp [Nameless, Unfit, Json.str?, Json.isKey, NoName, Json.dateless_str]

end Remedy
end BuildRepair
