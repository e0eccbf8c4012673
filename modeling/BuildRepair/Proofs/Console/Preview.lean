import BuildRepair.Console.Run
import BuildRepair.Proofs.Blocking.Repairing
import BuildRepair.Proofs.Replacement.RoundTrip
import BuildRepair.Proofs.Replacement.Turns

/-
  What a dry run of the command that replaces packages says about the run itself. Both look for the
  replacements that apply (`found`); the dry run lists these and changes nothing, and the run
  executes them, or finds those of the blocking dependencies anew (`executed`). A replacement is
  listed where its old name is declared, before anything changes, but it is applied where the ones
  before it leave its old name. So the two agree where no replacement removes the old name of a
  later one and nothing else gets in the way (`Foreseeable`, `preview_foretells`), but not of any
  registry (`twoForOneCall_differs`).
-/

namespace BuildRepair.Console

open Manifest (dependencies declarations)
open Replacement (Acts)

/-- A call of the command that replaces packages, be it to be dry or not. -/
structure Replacing where
  surroundings : Surroundings
  repo : String
  registry : Option String := none
  arch : Option String := none
  blocking : Bool := false

namespace Replacing

variable {c : Replacing} {doc : Fields} {r : Replacement}

/-- What the dry run leaves. -/
def preview (c : Replacing) : Finished :=
  replace c.surroundings c.repo c.registry c.arch c.blocking true

/-- What the run leaves. -/
def run (c : Replacing) : Finished :=
  replace c.surroundings c.repo c.registry c.arch c.blocking false

/-- The manifest that the command works on. -/
def manifest (c : Replacing) : Except Failure Fields :=
  Manifest.load c.surroundings.tree (.ofString c.repo)

/-! ## Two lists of replacements -/

/-- The detector that finds the blocking dependencies at first. -/
def detector (c : Replacing) : Detector :=
  detectorFor c.surroundings (registryFor c.surroundings c.registry) c.arch

/-- The detector that finds them anew, after the requests of the first one. -/
def laterDetector (c : Replacing) (doc : Fields) : Detector :=
  c.detector.after (c.detector.detect (dependencies (declarations doc))).2

/-- The replacements that apply to a manifest. -/
def found (c : Replacing) (doc : Fields) : List Replacement :=
  matching (registryFor c.surroundings c.registry) c.detector c.blocking
    (dependencies (declarations doc))

/-- The replacements that the run executes. -/
def executed (c : Replacing) (doc : Fields) : List Replacement :=
  if c.blocking then
    Blocked.replacements ((c.laterDetector doc).detect (Detector.declared doc)).1
  else c.found doc

theorem withDependencies_of_load {s : Surroundings} {repo : Path}
    (hload : Manifest.load s.tree repo = .ok doc) (next : List (String × String) → Finished) :
    withDependencies s (Manifest.pathIn repo) next = next (dependencies (declarations doc)) := by
  have hdeps : dependenciesIn s (Manifest.pathIn repo) = .ok (dependencies (declarations doc)) := by
    cases htext : s.tree.readText (Manifest.pathIn repo) with
    | error e =>
      simp only [Manifest.load, htext] at hload
      cases hload
    | ok text =>
      simp only [Manifest.load, htext] at hload
      simp only [dependenciesIn, htext, hload]
  unfold withDependencies
  rw [Manifest.holds_of_load hload]
  dsimp only
  rw [hdeps]

/-- A dry run leaves the tree, whatever becomes of it. -/
theorem preview_tree (c : Replacing) : c.preview.tree = c.surroundings.tree := by
  unfold preview replace withDependencies
  dsimp only
  split
  · rfl
  · rfl
  · split
    · rfl
    · split <;> rfl

/-- A dry run prints the lines of the replacements that apply, if there are any. -/
theorem preview_outputs (hload : c.manifest = .ok doc) (hfound : c.found doc ≠ []) :
    c.preview.outputs =
      (c.found doc).flatMap (previewOutputs (dependencies (declarations doc))) := by
  have hpreview : c.preview = if (c.found doc).isEmpty then
      ⟨c.surroundings.tree, 0, [.text "No replacements apply"], []⟩ else
      ⟨c.surroundings.tree, 0,
        (c.found doc).flatMap (previewOutputs (dependencies (declarations doc))), []⟩ := by
    unfold preview replace
    dsimp only
    rw [withDependencies_of_load hload]
    rfl
  rw [hpreview, if_neg (by simpa using hfound)]

/-- The run executes a list of replacements, those of the blocking dependencies found anew. -/
theorem execute_eq (hload : c.manifest = .ok doc) :
    execute c.surroundings c.detector c.blocking (dependencies (declarations doc)) (c.found doc)
        (.ofString c.repo) =
      Replacement.execute (c.executed doc) c.surroundings.tree (.ofString c.repo) := by
  have hload' : Manifest.load c.surroundings.tree (.ofString c.repo) = .ok doc := hload
  unfold execute executed
  split
  · show ((c.laterDetector doc).replaceIn c.surroundings.tree (.ofString c.repo)).map _ = _
    unfold Detector.replaceIn
    rw [hload']
    dsimp only
    split
    · next hnone =>
      rw [hnone]
      unfold Replacement.execute
      rw [hload']
      rfl
    · cases Replacement.execute _ c.surroundings.tree (.ofString c.repo) <;> rfl
  · rfl

/-- The line at the end of a run. -/
def lastLine (c : Replacing) : Output :=
  .text ("Updated " ++ (Manifest.pathIn (.ofString c.repo)).text)

theorem run_eq (hload : c.manifest = .ok doc) (hfound : c.found doc ≠ []) : c.run =
    match Replacement.execute (c.executed doc) c.surroundings.tree (.ofString c.repo) with
    | .error e => failed c.surroundings e
    | .ok (u, changes) => ⟨u, 0, changes.map changeOutput ++ [c.lastLine], []⟩ := by
  have hrun : c.run = if (c.found doc).isEmpty then
      ⟨c.surroundings.tree, 0, [.text "No replacements apply"], []⟩ else
      match execute c.surroundings c.detector c.blocking (dependencies (declarations doc))
        (c.found doc) (.ofString c.repo) with
      | .error e => failed c.surroundings e
      | .ok (u, changes) => ⟨u, 0, changes.map changeOutput ++ [c.lastLine], []⟩ := by
    unfold run replace
    dsimp only
    rw [withDependencies_of_load hload]
    rfl
  rw [hrun, if_neg (by simpa using hfound), execute_eq hload]

/-! ## Listed and applied -/

/-- Whether the dry run lists a replacement: it prints the lines of the replacements that apply, and
can show them as far as those of this one. -/
def Lists (c : Replacing) (doc : Fields) (r : Replacement) : Prop :=
  ∃ before after, c.found doc = before ++ r :: after ∧
    c.preview.outputs =
      (before ++ r :: after).flatMap (previewOutputs (dependencies (declarations doc))) ∧
    ∀ s ∈ before ++ [r], ∀ o ∈ previewOutputs (dependencies (declarations doc)) s,
      o.seen.isSome = true

/-- Whether the run applies a replacement: it goes through with what it executes, and the
replacement changes some group when its turn comes. -/
def Applies (c : Replacing) (doc : Fields) (r : Replacement) : Prop :=
  ∃ u changes,
    Replacement.execute (c.executed doc) c.surroundings.tree (.ofString c.repo) = .ok (u, changes) ∧
      c.run = ⟨u, 0, changes.map changeOutput ++ [c.lastLine], []⟩ ∧ Acts (c.executed doc) doc r

/-- What it takes for a dry run to foretell the run. -/
structure Foreseeable (c : Replacing) (doc : Fields) : Prop where
  shown : ∀ r ∈ c.found doc, ∀ o ∈ previewOutputs (dependencies (declarations doc)) r,
    o.seen.isSome = true
  /-- No replacement removes the old name of a later one. -/
  apart : (c.found doc).Pairwise fun r s => ¬ r.Removes s.oldName
  /-- No version of a replaced package is an array or object. -/
  mappable : ∀ r ∈ c.found doc, r.Mappable doc
  /-- The manifest can be replaced. -/
  roomy : ¬ c.surroundings.tree.IsCramped (Manifest.pathIn (.ofString c.repo))
  /-- Blocking dependencies are looked for twice, in what both times is the same map. -/
  clear : c.blocking = true →
    ∀ name j, Assoc.find? name (Detector.entries doc) = some j → j.IsClear
  /-- They are the same both times. -/
  steady : c.blocking = true →
    ((c.laterDetector doc).detect (Detector.declared doc)).1 =
      (c.detector.detect (Detector.declared doc)).1

theorem Foreseeable.executed_eq (h : c.Foreseeable doc) : c.executed doc = c.found doc := by
  unfold executed found matching
  split
  · next hblocking =>
    rw [(Detector.dependencies_eq_iff doc).mpr (h.clear hblocking), h.steady hblocking]
  · rfl

/-- What applies to a manifest is declared in some group of it. -/
theorem Foreseeable.declares (h : c.Foreseeable doc) :
    ∀ r ∈ c.found doc, Manifest.Declares doc r.oldName := by
  intro r hr
  refine Detector.declares_of_mem_dependencies ?_
  unfold found matching at hr
  split at hr
  · next hblocking =>
    rw [(Detector.dependencies_eq_iff doc).mpr (h.clear hblocking)] at hr ⊢
    rw [Blocked.replacements_eq (Detector.nodup_oldNames _ doc)] at hr
    obtain ⟨b, hb, hr⟩ := List.mem_filterMap.mp hr
    have hdeps := Detector.nodup_keys_declared doc
    rw [Detector.oldName_of_mem_detect hdeps b hb r hr]
    have hmem := (c.detector.detect_sublist (Detector.declared doc)).subset (List.mem_map_of_mem hb)
    exact List.mem_map.mpr ⟨_, hmem, rfl⟩
  · obtain ⟨-, hdeclared⟩ := List.mem_filter.mp hr
    exact Assoc.find?_isSome_iff.mp hdeclared

/-- A dry run changes nothing. If the run is foreseeable, the dry run lists a replacement exactly if
the run applies it. -/
theorem preview_foretells (c : Replacing) : c.preview.tree = c.surroundings.tree ∧
    ∀ doc, c.manifest = .ok doc → c.Foreseeable doc →
      ∀ r, c.Lists doc r ↔ c.Applies doc r := by
  refine ⟨c.preview_tree, fun doc hload h r => ?_⟩
  have hexecuted := h.executed_eq
  constructor
  · rintro ⟨before, after, hfound, -, -⟩
    have hr : r ∈ c.found doc := by simp [hfound]
    obtain ⟨⟨edited, changes, hall, hdateless⟩, hacts⟩ := Replacement.applyAll_acts
      (Manifest.load_dateless hload) h.mappable h.declares h.apart
    obtain ⟨u, hu⟩ := Replacement.execute_ok hload hall hdateless h.roomy
    rw [← hexecuted] at hu
    refine ⟨u, changes, hu, ?_, hexecuted ▸ hacts r hr⟩
    rw [run_eq hload (List.ne_nil_of_mem hr), hu]
  · rintro ⟨u, changes, -, -, hacts⟩
    have hr : r ∈ c.found doc := hexecuted ▸ hacts.mem
    obtain ⟨before, after, hsplit⟩ := List.append_of_mem hr
    refine ⟨before, after, hsplit, ?_, fun s hs => h.shown s ?_⟩
    · rw [← hsplit]
      exact preview_outputs hload (List.ne_nil_of_mem hr)
    · rw [hsplit]
      rcases List.mem_append.mp hs with hs | hs
      · exact List.mem_append_left _ hs
      · rw [List.mem_singleton.mp hs]
        simp

/-! ## Two calls -/

open Replacement (oneGroup repository)

/-- A call on a tree with a repository, where every request fails. -/
def callOn (tree : Tree) (registry : Option String) (blocking : Bool) : Replacing :=
  { surroundings :=
      { tree, input := "", architecture := "x86_64", network := ⟨fun _ _ => .failed⟩, now := default
        runner := Build.run fun _ => { ending := .notStarted 38 "" none } }
    repo := "repo", registry, blocking }

/-- Dependencies of which the second one blocks installation, and can only be removed. -/
def withFibers : Fields := [("left", .str "1"), ("fibers", .str "5")]

/-- Its removal, as the registry that comes with the program has it. -/
def fibersRemoval : Replacement :=
  { oldName := "fibers", newName := "", versions := [], manual := true
    note := some "fibers does not build on Node 16+; remove it and use async/await" }

/-- A call for what blocks installation. -/
def fibersCall : Replacing := callOn (repository (oneGroup withFibers)) none true

theorem fibersCall_found : fibersCall.found (oneGroup withFibers) = [fibersRemoval] := by
  decide +kernel

theorem withFibers_strings : Manifest.StringVersions (oneGroup withFibers) :=
  Replacement.hasStrings_oneGroup (by simp [Manifest.HasStrings, withFibers])

theorem fibersCall_foreseeable : fibersCall.Foreseeable (oneGroup withFibers) where
  shown := by
    rw [fibersCall_found]
    decide +kernel
  apart := by
    rw [fibersCall_found]
    exact List.pairwise_singleton ..
  mappable := fun r _ => r.mappable_strings withFibers_strings
  roomy := Replacement.repository_not_cramped (oneGroup withFibers)
  clear := fun _ => Detector.clear_of_strings withFibers_strings
  steady := by
    intro _
    decide +kernel

theorem fibersCall_foretold : fibersCall.preview.tree = repository (oneGroup withFibers) ∧
    fibersCall.Lists (oneGroup withFibers) fibersRemoval ∧
    fibersCall.Applies (oneGroup withFibers) fibersRemoval := by
  have hs : Manifest.HasStrings withFibers := by simp [Manifest.HasStrings, withFibers]
  have hload : fibersCall.manifest = .ok (oneGroup withFibers) :=
    Replacement.load_repository (Replacement.lossless_oneGroup hs (by decide))
  obtain ⟨htree, hforetells⟩ := preview_foretells fibersCall
  have hlists : fibersCall.Lists (oneGroup withFibers) fibersRemoval := by
    refine ⟨[], [], fibersCall_found, ?_, ?_⟩
    · rw [preview_outputs hload (by rw [fibersCall_found]; simp), fibersCall_found]
      rfl
    · intro r hr
      obtain rfl : r = fibersRemoval := List.mem_singleton.mp hr
      exact fibersCall_foreseeable.shown _ (by rw [fibersCall_found]; simp)
  exact ⟨htree, hlists, (hforetells _ hload fibersCall_foreseeable _).mp hlists⟩

/-- Two replacements for one package. -/
def twoForOne : List Replacement := [
  { oldName := "left", newName := "right", versions := [] },
  { oldName := "left", newName := "center", versions := [] }]

/-- A manifest that declares the package. -/
def onlyLeft : Fields := oneGroup [("left", .str "1")]

/-- A repository with it, and a file with both replacements. -/
def twoForOneTree : Tree :=
  { entries := [(["repo"], .directory),
      (["repo", "package.json"], .file (.text (Json.obj onlyLeft).document)),
      (["registry.json"],
        .file (.text (Registry.toJson { replacements := twoForOne }).document))] }

/-- A call with that file as the registry. -/
def twoForOneCall : Replacing := callOn twoForOneTree (some "registry.json") false

theorem twoForOneCall_found : twoForOneCall.found onlyLeft = twoForOne := by
  have hconforms : Registry.Conforms { replacements := twoForOne } := ⟨by decide, by decide⟩
  have hstored : Registry.stored? twoForOneTree (Path.ofString "registry.json") =
      some (Registry.reread { replacements := twoForOne }) :=
    Registry.stored?_of_document hconforms rfl
  have hfile : Registry.file? "registry.json" = some (Path.ofString "registry.json") :=
    if_neg (by decide)
  have hregistry : registryFor twoForOneCall.surroundings twoForOneCall.registry =
      { replacements := twoForOne } := by
    unfold twoForOneCall callOn registryFor Registry.loadFrom
    dsimp only
    rw [Option.bind_some, hfile, Option.elim_some, Registry.load_eq, hstored]
    rfl
  unfold found matching
  rw [hregistry]
  decide

/-- The dry run lists the second one, too, but nothing is left for it to replace. -/
theorem twoForOneCall_differs : ∃ r, twoForOneCall.manifest = .ok onlyLeft ∧
    twoForOneCall.Lists onlyLeft r ∧ ¬ twoForOneCall.Applies onlyLeft r := by
  have hs : Manifest.HasStrings [("left", .str "1")] := by simp [Manifest.HasStrings]
  have hload : twoForOneCall.manifest = .ok onlyLeft :=
    Manifest.load_eq_ok.mpr ⟨["repo", "package.json"], _, rfl,
      Manifest.standsAt_of_document (Replacement.lossless_oneGroup hs (by decide)) rfl⟩
  refine ⟨{ oldName := "left", newName := "center", versions := [] }, hload, ?_, ?_⟩
  · refine ⟨[_], [], twoForOneCall_found, ?_, ?_⟩
    · rw [preview_outputs hload (by rw [twoForOneCall_found]; decide), twoForOneCall_found]
      rfl
    · decide +kernel
  · rintro ⟨-, -, -, -, before, after, turn, changes, edited, change, more, hsplit, hbefore,
      hsecond⟩
    have hexecuted : twoForOneCall.executed onlyLeft = twoForOne := twoForOneCall_found
    rw [hexecuted] at hsplit
    -- what is before the second one is the first one, and it takes the package away
    cases before with
    | nil =>
      injection hsplit with hfirst
      revert hfirst
      decide
    | cons first before =>
      injection hsplit with hfirst hsplit
      cases before with
      | nil =>
        subst hfirst
        cases hbefore
        cases hsecond
      | cons second before =>
        injection hsplit with _ hsplit
        cases before <;> cases hsplit

end Replacing
end BuildRepair.Console
