import BuildRepair.Failure

/-
  Remedies: the closed set of changes that may repair a build. Their fields come from stored
  documents and may hold any JSON value. `key` identifies a remedy, `sameShape` ignores the
  versions it sets, `describe` says in words what it does, `toJson` and `ofJson` are its stored
  form.
-/

namespace BuildRepair

/-- A change to a repository that may repair its build. -/
inductive Remedy where
  | adjustVersion (package version : Json)
  | legacyPeerDeps
  | removeLockfile (lockfile : Json)
  /-- An empty replacement only removes the package. -/
  | substitutePackage (package replacement : Json)
  | removePackage (package : Json)
  | addResolution (package version : Json)
  | forceInstall
  /-- Something that is no remedy, by its text. -/
  | unknown (text : String)
deriving Inhabited, Repr

namespace Remedy

/-- The stored name of a kind of remedy. -/
def kind : Remedy → String
  | .adjustVersion .. => "adjust_version"
  | .legacyPeerDeps => "legacy_peer_deps"
  | .removeLockfile _ => "remove_lockfile"
  | .substitutePackage .. => "substitute_package"
  | .removePackage _ => "remove_package"
  | .addResolution .. => "add_resolution"
  | .forceInstall => "force_install"
  | .unknown text => text

/-- The fields that tell remedies of one kind apart. -/
def target : Remedy → List Json
  | .adjustVersion package version => [package, version]
  | .legacyPeerDeps | .forceInstall | .unknown _ => []
  | .removeLockfile lockfile => [lockfile]
  | .substitutePackage package replacement => [package, replacement]
  | .removePackage package => [package]
  | .addResolution package version => [package, version]

/-- What identifies a remedy: its kind and every distinguishing field. -/
structure Key where
  kind : String
  target : List Json
deriving Repr

instance : BEq Key := ⟨fun a b => a.kind == b.kind && a.target == b.target⟩

/-- The key of a remedy. -/
def key : Remedy → Except Failure Key
  | .unknown text => .error (.notRemedy text)
  | r => .ok ⟨r.kind, r.target⟩

/-- The first field of a key that is an array or object; such a key cannot be looked up. -/
def Key.bad? (k : Key) : Option Json := k.target.find? (!·.isKey)

/-- Whether two remedies are of one kind with the same fields. -/
instance : BEq Remedy := ⟨fun a b => a.kind == b.kind && a.target == b.target⟩

/-- Whether two remedies act on the same target, whatever versions they set. -/
def sameShape : Remedy → Remedy → Bool
  | .adjustVersion p _, .adjustVersion q _ => p.equals q
  | .legacyPeerDeps, .legacyPeerDeps => true
  | .removeLockfile p, .removeLockfile q => p.equals q
  | .substitutePackage p _, .substitutePackage q _ => p.equals q
  | .removePackage p, .removePackage q => p.equals q
  | .addResolution p _, .addResolution q _ => p.equals q
  | .forceInstall, .forceInstall => true
  | .unknown _, .unknown _ => true
  | _, _ => false

/-- What a remedy does, in words. -/
def inWords : Remedy → String
  | .adjustVersion package version => "Set " ++ package.display ++ " to " ++ version.display
  | .legacyPeerDeps => "Enable legacy-peer-deps in .npmrc"
  | .removeLockfile lockfile => "Remove " ++ lockfile.display ++ " for a fresh resolution"
  | .substitutePackage package replacement =>
    if replacement.truthy then
      "Replace " ++ package.display ++ " with " ++ replacement.display
    else "Drop " ++ package.display ++ " (no alternative known)"
  | .removePackage package => "Remove " ++ package.display
  | .addResolution package version =>
    "Pin " ++ package.display ++ " to " ++ version.display ++ " via resolutions/overrides"
  | .forceInstall => "Enable force in .npmrc"
  | .unknown text => text

/-- What a remedy does, in words; something that is no remedy does nothing. -/
def describe : Remedy → Except Failure String
  | .unknown text => .error (.notRemedy text)
  | r => .ok r.inWords

/-- The stored fields of a remedy besides its kind. -/
def storedFields : Remedy → List (String × Json)
  | .adjustVersion package version => [("package", package), ("newVersion", version)]
  | .legacyPeerDeps | .forceInstall | .unknown _ => []
  | .removeLockfile lockfile => [("lockfile", lockfile)]
  | .substitutePackage package replacement =>
    [("original", package), ("replacement", replacement)]
  | .removePackage package => [("package", package)]
  | .addResolution package version => [("package", package), ("version", version)]

/-- The stored form of a remedy: its kind and its fields. -/
def stored (r : Remedy) : Json := .obj (("type", .str r.kind) :: r.storedFields)

/-- The stored form of a remedy; something that is no remedy has none. -/
def toJson : Remedy → Except Failure Json
  | .unknown _ => .error (.lacks "str" "kind")
  | r => .ok r.stored

/-- A field that a stored remedy must have. -/
def required (fields : List (String × Json)) (name : String) : Except Failure Json :=
  match Assoc.find? name fields with
  | some j => .ok j
  | none => .error .wrongKind

/-- The remedy of a kind from stored fields. -/
def ofFields (kind : String) (fields : List (String × Json)) : Except Failure Remedy :=
  match kind with
  | "adjust_version" => do
    return .adjustVersion (← required fields "package") (← required fields "newVersion")
  | "legacy_peer_deps" => return .legacyPeerDeps
  | "remove_lockfile" =>
    return .removeLockfile ((Assoc.find? "lockfile" fields).getD (.str "package-lock.json"))
  | "substitute_package" => do
    return .substitutePackage (← required fields "original") (← required fields "replacement")
  | "remove_package" => do return .removePackage (← required fields "package")
  | "add_resolution" => do
    return .addResolution (← required fields "package") (← required fields "version")
  | "force_install" => return .forceInstall
  | other => .error (.unknownType (.str other))

/-- The remedy of a stored form; fields that its kind does not have are ignored. -/
def ofJson : Json → Except Failure Remedy
  | .obj fields =>
    match Assoc.find? "type" fields with
    | some (.str kind) => ofFields kind fields
    | some type => if type.isKey then .error (.unknownType type) else .error (.notKey type)
    | none => .error (.unknownType .null)
  | j => .error (.lacks j.kindName "get")

/-- Whether every field of a remedy is a string. -/
def IsPlain (r : Remedy) : Prop := ∀ j ∈ r.target, ∃ s, j = .str s

/-- A remedy with string fields is read back from its stored form. -/
theorem ofJson_toJson {r : Remedy} {j : Json} (h : r.toJson = .ok j) : ofJson j = .ok r := by
  cases r <;> cases h <;> rfl

end Remedy
end BuildRepair
