import BuildRepair.Http.Reach
import BuildRepair.Replacement.Registry

/-
  Dependencies that keep a repository from being installed at all: packages known to fail, packages
  without support for the machine, and sources that are gone. `Detector.detect` finds them in the
  order of declaration, `replacements` collects what can be put in their place.
-/

namespace BuildRepair

/-- Why a dependency blocks installation. -/
inductive BlockReason where
  | architecture
  | deadUrl
  | deprecated
  | buildFailure
  | peerConflict
deriving DecidableEq, Repr, Inhabited

namespace BlockReason

/-- The name of a reason in reports. -/
def name : BlockReason → String
  | .architecture => "architecture_incompatible"
  | .deadUrl => "dead_url"
  | .deprecated => "deprecated_no_replacement"
  | .buildFailure => "build_failure"
  | .peerConflict => "peer_conflict"

end BlockReason

/-- A dependency that blocks installation. -/
structure Blocked where
  name : String
  version : String
  reason : BlockReason
  replacement : Option Replacement := none
deriving DecidableEq, Repr

namespace Blocked

/-- Packages that block installation in every version. -/
def known : List (String × BlockReason) := [
  ("node-sass", .architecture),
  ("phantomjs", .architecture),
  ("phantomjs-prebuilt", .architecture),
  ("fibers", .architecture),
  ("deasync", .buildFailure),
  ("node-canvas", .buildFailure),
  ("canvas", .buildFailure)]

/-- Whether a package blocks installation in every version. -/
def isKnown (package : String) : Bool := Assoc.has package known

/-- The first replacement of each package that blocking dependencies carry. -/
def replacements (blocked : List Blocked) : List Replacement :=
  blocked.foldl
    (fun chosen b =>
      match b.replacement with
      | some r => if chosen.any (·.oldName == r.oldName) then chosen else chosen ++ [r]
      | none => chosen)
    []

end Blocked

/-- Whether a version names an archive of sources rather than a range of versions. -/
def isArchiveUrl (version : String) : Bool :=
  Text.holds "/archive/" version.toList || Text.holds "/tarball/" version.toList

/-- What decides whether a dependency blocks installation. -/
structure Detector where
  registry : Option Registry := none
  architecture : String
  /-- Whether archives are asked for, or only looked up in the registry. -/
  checkUrls : Bool := true
  network : Web

namespace Detector

/-- The detector after requests that it has sent. -/
def after (d : Detector) (requests : List String) : Detector :=
  { d with network := ⟨fun sent => d.network.reply (requests ++ sent)⟩ }

/-- The replacement of a package: one of its own, else the one its architecture limit names. -/
def replacementOf (d : Detector) (package : String) : Option Replacement := do
  let registry ← d.registry
  match registry.lookup package with
  | some r => some r
  | none =>
    let limit ← registry.limitOf package
    let newName ← limit.replacement.filter (· != "")
    return {
      oldName := package, newName, versions := [("*", "latest")], manual := true
      note := if limit.reason = "" then none else some limit.reason }

/-- Whether the registry rules a package out on the architecture. -/
def lacksSupport (d : Detector) (package : String) : Bool :=
  (d.registry.bind (·.limitOf package)).any (·.architectures.contains d.architecture)

/-- The replacement that a glob of dead addresses names for a package. -/
def patternReplacement (package : String) (p : DeadPattern) : Option Replacement :=
  (p.replacementPackage.filter (· != "")).map fun newName =>
    { oldName := package, newName
      versions := [("*", (p.replacementVersion.filter (· != "")).getD "latest")]
      note := if p.reason = "" then none else some p.reason }

/-- Whether the registry lists a source as gone, and then the replacement of the package. -/
def listedDead (d : Detector) (name version : String) : Option (Option Replacement) := do
  let registry ← d.registry
  if registry.isDeadUrl version then return d.replacementOf name
  let p ← registry.deadPattern version
  return d.replacementOf name <|> patternReplacement name p

/-- Why a dependency blocks installation and what replaces it, if it blocks, and the requests it
took to find out, after others were sent. -/
def verdict (d : Detector) (sent : List String) (name version : String) :
    Option (BlockReason × Option Replacement) × List String :=
  match Assoc.find? name Blocked.known with
  | some reason => (some (reason, d.replacementOf name), [])
  | none =>
    if d.lacksSupport name then (some (.architecture, d.replacementOf name), [])
    else
      match d.listedDead name version with
      | some r => (some (.deadUrl, r), [])
      | none =>
        if d.checkUrls && isArchiveUrl version then
          let (reachable, requests) := Url.probe d.network sent version
          (if reachable then none else some (.deadUrl, d.replacementOf name), requests)
        else (none, [])

/-- The dependencies that block installation, in order, and the requests that were sent, after
others. -/
def scan (d : Detector) (sent : List String) : List (String × String) → List Blocked × List String
  | [] => ([], [])
  | (name, version) :: rest =>
    let (found, requests) := d.verdict sent name version
    let (blocks, more) := d.scan (sent ++ requests) rest
    ((found.map fun (reason, r) => ⟨name, version, reason, r⟩).toList ++ blocks, requests ++ more)

/-- The dependencies that block installation, in order, and the requests that were sent. -/
def detect (d : Detector) (deps : List (String × String)) : List Blocked × List String :=
  d.scan [] deps

/-- The dependencies of a document by name, each with the version that its first group declares. -/
def declared (doc : Fields) : List (String × String) :=
  ((Manifest.groups doc).flatMap (·.2)).foldl
    (fun known p => Assoc.putNew p.1 (if p.2.truthy then p.2.display else "") known) []

/-- What a run over a repository finds and changes. -/
structure Report where
  blocked : List Blocked
  changes : List Replacement.Change
  requests : List String

/-- Finds the blocking dependencies of a repository and applies every replacement they carry. -/
def replaceIn (d : Detector) (t : Tree) (repo : Path) : Except Failure (Tree × Report) :=
  match Manifest.load t repo with
  | .error e => .error e
  | .ok doc =>
    let (blocked, requests) := d.detect (declared doc)
    match Blocked.replacements blocked with
    | [] => .ok (t, ⟨blocked, [], requests⟩)
    | rs =>
      match Replacement.execute rs t repo with
      | .error e => .error e
      | .ok (t, changes) => .ok (t, ⟨blocked, changes, requests⟩)

/-- Blocking dependencies are found in the order of declaration, with their versions. -/
theorem scan_sublist (d : Detector) (sent : List String) (deps : List (String × String)) :
    ((d.scan sent deps).1.map fun b => (b.name, b.version)).Sublist deps := by
  induction deps generalizing sent with
  | nil => exact .slnil
  | cons p deps ih =>
    obtain ⟨name, version⟩ := p
    cases h : (d.verdict sent name version).1 with
    | none => simpa [scan, h] using (ih _).cons (name, version)
    | some found => simpa [scan, h] using ih _

theorem detect_sublist (d : Detector) (deps : List (String × String)) :
    ((d.detect deps).1.map fun b => (b.name, b.version)).Sublist deps :=
  d.scan_sublist [] deps

end Detector
end BuildRepair
