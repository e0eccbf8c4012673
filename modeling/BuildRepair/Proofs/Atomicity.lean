import BuildRepair.Proofs.File.Making
import BuildRepair.Proofs.History.Apart
import BuildRepair.Proofs.History.Room
import BuildRepair.Proofs.Replacement.Executing
import BuildRepair.Replacement.Registry

/-
  Everything is written as a whole or not at all. A manifest and a batch of replacements leave the
  tree as it was or the text in its place. A registry and a history are written in directories that
  are made first. Once one of them is new the file can be made, so a registry that is not saved left
  no directory behind (`Registry.save_writtenOr`). Only the text of a history comes between the
  directories and the file, and it is refused where a count is too long: then the directories stay
  (`Memory.write_writtenOr`, `Memory.save_abandons`). `written_whole` says all of it.
-/

namespace BuildRepair

/-! ## Files -/

namespace Tree

variable {ε : Type} {t u v : Tree} {p : Path} {text : String}

/-- A path leads in `u` to a file of a text, and all other files are those of `t`. -/
def Rewritten (p : Path) (text : String) (t u : Tree) : Prop :=
  ∃ l, u.locate p = .ok (l, some (.file (.text text))) ∧
    ∀ k ≠ l, ∀ content, u.get? k = some (.file content) ↔ t.get? k = some (.file content)

/-- What is left of a tree when a text was to be written to a path: the text in its place, or a tree
of which something else is said if that failed. -/
structure WrittenOr (failed : Tree → Prop) (p : Path) (text : String) (t : Tree)
    (left : Tree × Except ε Unit) : Prop where
  ok : ∀ u, left = (u, .ok ()) → Rewritten p text t u
  error : ∀ u e, left = (u, .error e) → failed u

theorem Rewritten.of_sameFiles (h : Rewritten p text v u) (hsame : SameFiles t v) :
    Rewritten p text t u := by
  obtain ⟨l, hl, hothers⟩ := h
  exact ⟨l, hl, fun k hk content => (hothers k hk content).trans (hsame k content)⟩

theorem rewritten_of_replaceText (h : t.replaceText p text = (u, .ok ())) :
    Rewritten p text t u := by
  obtain ⟨l, hl, hothers⟩ := writeText_spec (replaceText_ok h)
  exact ⟨l, hl, fun k hk content => by rw [hothers k hk]⟩

theorem writtenOr_of_ok {failed : Tree → Prop} (h : Rewritten p text t u) :
    WrittenOr failed p text t ((u, .ok ()) : Tree × Except ε Unit) := by
  refine ⟨fun v hv => ?_, fun v e hv => ?_⟩
  · cases hv
    exact h
  · cases hv

theorem writtenOr_of_error {failed : Tree → Prop} (h : failed u) (e : ε) :
    WrittenOr failed p text t (u, .error e) := by
  refine ⟨fun v hv => ?_, fun v e hv => ?_⟩
  · cases hv
  · cases hv
    exact h

/-- Making directories for a file fails only where nothing is made. -/
theorem makeDirectories_error {e : FileError} (hg : t.Grounded) (hp : t.Admits p)
    (hd : t.makeDirectories p.parent = (v, .error e)) : v = t := by
  rcases makeDirectories_cases hg hp hd with hsame | ⟨herror, -⟩
  · exact hsame
  · cases herror

/-- Writing a file after the directories above it were made fails only if none of them is new. -/
theorem replaceText_writtenOr (hg : t.Grounded)
    (hd : t.makeDirectories p.parent = (v, .ok ())) (text : String) :
    WrittenOr (fun u => t.Admits p → u = t) p text t (v.replaceText p text) := by
  have hsame := makeDirectories_sameFiles t p.parent
  rw [hd] at hsame
  cases hw : v.replaceText p text with
  | mk u result =>
    cases result with
    | ok => exact writtenOr_of_ok ((rewritten_of_replaceText hw).of_sameFiles hsame)
    | error e =>
      obtain rfl : u = v := replaceText_error hw
      refine writtenOr_of_error (fun hp => ?_) e
      rcases makeDirectories_cases hg hp hd with hnone | ⟨-, hnew⟩
      · exact hnone
      · obtain ⟨w, hw'⟩ := hnew text
        cases hw.symm.trans hw'

end Tree

open BuildRepair.Tree (Rewritten WrittenOr SameFiles)

variable {t u : Tree} {p : Path}

/-! ## Manifests -/

theorem Manifest.write_writtenOr (t : Tree) (repo : Path) (doc : Fields) :
    WrittenOr (· = t) (pathIn repo) (Json.obj doc).document t (write t repo doc) := by
  unfold write
  split
  · refine Tree.writtenOr_of_error ?_ _
    rfl
  · split
    · next hw =>
      refine Tree.writtenOr_of_error ?_ _
      exact Tree.replaceText_error hw
    · next hw => exact Tree.writtenOr_of_ok (Tree.rewritten_of_replaceText hw)

/-- What is left of a tree when replacements were to be executed: the tree itself if that failed or
nothing changed, and else the manifest that the replacements make. -/
def Replacement.Leaves (rs : List Replacement) (repo : Path) (t : Tree) :
    Tree × Except Failure (List Change) → Prop
  | (u, .error _) => u = t
  | (u, .ok []) => u = t
  | (u, .ok (change :: changes)) => ∃ doc edited, Manifest.load t repo = .ok doc ∧
      applyAll rs doc = .ok (edited, change :: changes) ∧
      Rewritten (Manifest.pathIn repo) (Json.obj edited).document t u

theorem Replacement.run_leaves (rs : List Replacement) (t : Tree) (repo : Path) :
    Leaves rs repo t (run rs t repo) := by
  unfold run
  split
  · rfl
  · next doc hload =>
    split
    · rfl
    · rfl
    · next edited changes hchanges hall =>
      obtain ⟨change, more, rfl⟩ := List.exists_cons_of_ne_nil hchanges
      have hwrite := Manifest.write_writtenOr t repo edited
      split
      · next hw => exact hwrite.error _ _ hw
      · next hw => exact ⟨doc, edited, hload, hall, hwrite.ok _ hw⟩

/-! ## Registries -/

theorem Registry.save_writtenOr (hg : t.Grounded) (p : Path) (r : Registry) :
    WrittenOr (fun u => t.Admits p → u = t) p r.toJson.document t (r.save t p) := by
  unfold save
  split
  · next hd => exact Tree.writtenOr_of_error (fun hp => Tree.makeDirectories_error hg hp hd) _
  · next hd =>
    have hwrite := Tree.replaceText_writtenOr hg hd r.toJson.document
    split
    · next hw => exact Tree.writtenOr_of_error (hwrite.error _ _ hw) _
    · next hw => exact Tree.writtenOr_of_ok (hwrite.ok _ hw)

/-! ## Histories -/

namespace History

/-- A history of remedies. -/
def OfRemedies (h : History) : Prop := ∀ f ∈ h.fixes, ∀ text, f.remedy ≠ .unknown text

/-- A history with a count that is too long to be written. -/
def IsTooLong (h : History) : Prop := ∃ f ∈ h.fixes, isTooLong f.count = true

theorem isTooLong_countLimit : isTooLong (countLimit : Nat) = true := by
  unfold isTooLong countLimit
  rw [Int.natAbs_natCast, decide_eq_true_iff]

theorem OfRemedies.toJson {h : History} (hh : h.OfRemedies) : ∃ j, h.toJson = .ok j := by
  refine exists_toJson fun f hf => ?_
  have hremedy := hh f hf
  cases hr : f.remedy with
  | unknown text => exact absurd hr (hremedy text)
  | _ => exact ⟨_, rfl⟩

end History

namespace Memory

variable {m m' : Memory} {repo : String} {h : History} {given : Option History} {now : Timestamp}
  {result : Except Failure Unit}

/-- What is left of a tree when a history could not be written: the tree itself, or the directories
that were made for a history with a count that is too long. -/
def Abandoned (h : History) (p : Path) (t u : Tree) : Prop :=
  u = t ∨ h.IsTooLong ∧ t.makeDirectories p.parent = (u, .ok ()) ∧ SameFiles t u

theorem write_writtenOr {j : Json} (hg : t.Grounded) (hj : h.toJson = .ok j) (p : Path) :
    WrittenOr (fun u => t.Admits p → Abandoned h p t u) p j.tagDates.document t (write h t p) := by
  unfold write
  split
  · next hd =>
    exact Tree.writtenOr_of_error (fun hp => .inl (Tree.makeDirectories_error hg hp hd)) _
  · next v hd =>
    rw [History.toText_eq hj]
    by_cases hlong : h.fixes.any (History.isTooLong ·.count) = true
    · rw [if_pos hlong]
      have hsame := Tree.makeDirectories_sameFiles t p.parent
      rw [hd] at hsame
      exact Tree.writtenOr_of_error (fun _ => .inr ⟨List.any_eq_true.mp hlong, hd, hsame⟩) _
    · rw [if_neg hlong]
      have hwrite := Tree.replaceText_writtenOr hg hd j.tagDates.document
      dsimp only
      split
      · next hw => exact Tree.writtenOr_of_error (fun hp => .inl (hwrite.error _ _ hw hp)) _
      · next hw => exact Tree.writtenOr_of_ok (hwrite.ok _ hw)

theorem save_of_error {e : Failure} (hs : m.save t repo given now = (u, m', result))
    (hp : m.path t repo = .error e) : u = t ∧ result = .error e := by
  have hpath : (if given.isSome then m else m.opened repo now).path t repo = .error e :=
    (path_base (by split <;> rfl) t repo).trans hp
  unfold save at hs
  dsimp only at hs
  rw [hpath] at hs
  cases hs
  exact ⟨rfl, rfl⟩

end Memory

/-! ## All of them -/

/-- Nothing is half written into a tree in which everything stands in a directory.
* Where a manifest cannot be saved the tree is as it was. Where it can, the manifest is the text of
  the document and every other file is as it was.
* The same holds of replacements, and those that change nothing leave the tree as it was.
* The same holds of a registry, if its path admits a file and the directories above it.
* The same holds of a history of remedies, if its path does. But a count that is too long to be
  written is found only after the directories above the file were made, and they stay. -/
theorem written_whole (hg : t.Grounded) :
    (∀ repo doc, WrittenOr (· = t) (Manifest.pathIn repo) (Json.obj doc).document t
      (Manifest.write t repo doc)) ∧
    (∀ rs repo u result, Replacement.run rs t repo = (u, result) →
      Replacement.execute rs t repo = result.map (fun changes => (u, changes)) ∧
      Replacement.Leaves rs repo t (u, result)) ∧
    (∀ (r : Registry) path,
      WrittenOr (fun u => t.Admits path → u = t) path r.toJson.document t (r.save t path)) ∧
    ∀ (m : Memory) repo given now u m' result,
      m.save t repo given now = (u, m', result) →
      (given.getD (m.history repo now)).OfRemedies →
      (∀ e, m.path t repo = .error e → u = t ∧ result = .error e) ∧
      ∀ path, m.path t repo = .ok path →
        ∃ j, (given.getD (m.history repo now)).toJson = .ok j ∧
          WrittenOr
            (fun u => t.Admits path → Memory.Abandoned (given.getD (m.history repo now)) path t u)
            path j.tagDates.document t (u, result) := by
  refine ⟨Manifest.write_writtenOr t, ?_, fun r path => r.save_writtenOr hg path, ?_⟩
  · intro rs repo u result hrun
    have hexecute := Replacement.execute_eq_run rs t repo
    have hleaves := Replacement.run_leaves rs t repo
    rw [hrun] at hexecute hleaves
    exact ⟨hexecute, hleaves⟩
  · intro m repo given now u m' result hs hh
    refine ⟨fun e hp => Memory.save_of_error hs hp, ?_⟩
    intro path hpath
    obtain ⟨j, hj⟩ := hh.toJson
    have hwrite := Memory.write_writtenOr hg hj path
    rw [Memory.write_of_save hs hpath] at hwrite
    exact ⟨j, hj, hwrite⟩

/-- A tree with a directory in the place of a registry. -/
def occupied : Tree := { entries := [(["c"], .directory), (["c", "r.json"], .directory)] }

theorem occupied_grounded : occupied.Grounded := by
  refine Tree.grounded_of_entries rfl ?_
  unfold occupied
  simp only [List.forall_mem_cons, List.not_mem_nil, false_imp_iff, implies_true, and_true]
  exact ⟨rfl, rfl⟩

theorem occupied_admits : occupied.Admits ⟨"", ["c", "r.json"]⟩ := by
  refine ⟨⟨by decide, by decide, ⟨by decide, by decide⟩, by decide⟩, ?_, by decide, by decide⟩
  intro name hname
  cases hname
  decide

theorem forced_ofRemedies (repo : String) : (Memory.forced repo).OfRemedies := by
  intro f hf text
  rw [List.mem_singleton.mp hf]
  simp

/-- The registry is not saved there and leaves nothing; a history is saved beside it. -/
theorem written_whole_beside :
    (∃ u e, (Registry.builtIn .default).save occupied ⟨"", ["c", "r.json"]⟩ = (u, .error e) ∧
      u = occupied) ∧
    ∃ u m' j, Memory.shelved.save occupied "a" (some (Memory.forced "a")) .default =
        (u, m', .ok ()) ∧
      (Memory.forced "a").toJson = .ok j ∧
      Rewritten ⟨"", ["h", "a", "fix-history.json"]⟩ j.tagDates.document occupied u := by
  obtain ⟨-, -, hregistry, hhistory⟩ := written_whole occupied_grounded
  constructor
  · have hsave : (Registry.builtIn .default).save occupied ⟨"", ["c", "r.json"]⟩ =
        (occupied, .error (.registryUnsaved (.system .isDirectory "c/r.json"))) := by
      unfold Registry.save
      generalize (Registry.builtIn .default).toJson.document = text
      rfl
    exact ⟨_, _, hsave, (hregistry _ _).error _ _ hsave occupied_admits⟩
  · obtain ⟨text, htext⟩ := Memory.forced_toText "a"
    have hp : Memory.shelved.path occupied "a" = .ok ⟨"", ["h", "a", "fix-history.json"]⟩ := rfl
    have hs := Memory.save_given .default hp rfl htext rfl
    obtain ⟨-, hsaved⟩ := hhistory _ _ _ _ _ _ _ hs (forced_ofRemedies "a")
    obtain ⟨j, hj, hrewritten⟩ := hsaved _ hp
    exact ⟨_, _, j, hs, hj, hrewritten.ok _ rfl⟩

namespace Memory

/-- The history of a fix that succeeded once more than can be written. -/
def overgrown : History :=
  ⟨.str "a", [⟨.str "p", .forceInstall, (History.countLimit : Nat), .default⟩], .default⟩

/-- Such a history is not saved, but leaves the directories that were made for it. -/
theorem save_abandons :
    overgrown.OfRemedies ∧ ({} : Tree).Grounded ∧
    ({} : Tree).Admits ⟨"", ["h", "a", "fix-history.json"]⟩ ∧
    shelved.path {} "a" = .ok ⟨"", ["h", "a", "fix-history.json"]⟩ ∧
    shelved.save {} "a" (some overgrown) .default =
      ({ entries := [(["h"], .directory), (["h", "a"], .directory)] }, shelved,
        .error (.notJson (.integerTooLong none))) := by
  have hremedies : overgrown.OfRemedies := by
    intro f hf text
    rw [List.mem_singleton.mp hf]
    simp
  have hlong : overgrown.fixes.any (History.isTooLong ·.count) = true := by
    show (History.isTooLong (History.countLimit : Nat) || false) = true
    rw [History.isTooLong_countLimit, Bool.true_or]
  have htext : overgrown.toText = .error (.notJson (.integerTooLong none)) := by
    obtain ⟨j, hj⟩ := hremedies.toJson
    rw [History.toText_eq hj, if_pos hlong]
  have hp : shelved.path {} "a" = .ok ⟨"", ["h", "a", "fix-history.json"]⟩ := rfl
  have hd : ({} : Tree).makeDirectories ⟨"", ["h", "a"]⟩ =
      ({ entries := [(["h"], .directory), (["h", "a"], .directory)] }, .ok ()) := rfl
  refine ⟨hremedies, Tree.grounded_of_entries rfl (by simp), ?_, hp, ?_⟩
  · refine ⟨⟨by decide, by decide, ⟨by decide, by decide⟩, by decide⟩, ?_, by decide, by decide⟩
    intro name hname
    cases hname
    decide
  · simp [save, hp, write, Path.parent, hd, htext]

end Memory

end BuildRepair
