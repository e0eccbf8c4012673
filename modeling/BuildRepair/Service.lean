import BuildRepair.Blocking
import BuildRepair.Diagnosis.Document
import BuildRepair.Diagnosis.Report

/-
  The web service. It classifies the errors of a build and finds the dependencies of a manifest that
  keep it from being installed. Addresses in a request are only looked up, never asked for.
-/

namespace BuildRepair.Service

/-- A request. -/
structure Request where
  method : String
  path : String
  body : Option Json

/-- What the service knows of its surroundings. -/
structure Host where
  /-- The architecture that is assumed where a request names none. -/
  architecture : String

/-- A response. One made before a request reaches its operation has a body of the server's own. -/
structure Response where
  status : Nat
  body : Option Json := none

/-- A response that an operation makes. -/
def ok (body : Json) : Response := ⟨200, some body⟩

/-- The response to a request that an operation cannot work with. -/
def badRequest (detail : String) : Response := ⟨400, some (.obj [("detail", .str detail)])⟩

/-- The response to a request whose body does not have the form its operation needs. -/
def unprocessable : Response := ⟨422, none⟩

/-- An error of a build with what its first remedy does. -/
def errorJson (d : Diagnosis) : Json :=
  .obj (d.fields ++
    [("suggested_fix_description", Diagnosis.textOrNull (d.suggested.map Remedy.inWords))])

/-- How many errors there are of each category, in the order of their first ones. -/
def countJson (ds : List Diagnosis) : Json :=
  .obj (ds.foldl
    (fun counts d =>
      let n := ((Assoc.find? d.category.name counts).bind Json.integer?).getD 0
      Assoc.put d.category.name (.int (n + 1)) counts)
    [])

/-- Classifies the errors of a build by what it printed on its two streams. -/
def analyze (out err : String) : Response :=
  if Text.trimString out = "" ∧ Text.trimString err = "" then badRequest "No build output provided"
  else
    let ds := Diagnosis.ofStreams out err
    ok (.obj [
      ("errors", .arr (ds.map errorJson)), ("error_count", .int ds.length),
      ("errors_by_category", countJson ds)])

/-- A blocking dependency in a response. -/
def blockedJson (b : Blocked) : Json := .obj [
  ("name", .str b.name), ("version", .str b.version), ("reason", .str b.reason.name),
  ("replacement", Diagnosis.textOrNull (b.replacement.map (·.newName))),
  ("requires_code_changes", .bool (b.replacement.any (·.manual)))]

/-- The detector of the service: the registry that comes with the program, and no requests. -/
def detector (h : Host) (arch : Option String) : Detector :=
  { registry := some .bundled
    architecture := (arch.filter (· != "")).getD h.architecture
    checkUrls := false
    network := ⟨fun _ _ => .failed⟩ }

/-- Finds the dependencies of a manifest that keep it from being installed. -/
def scan (h : Host) (content : String) (arch : Option String) : Response :=
  let content := Text.trimString content
  if content = "" then badRequest "No content provided"
  else
    match Manifest.readDocument content with
    | .error e => badRequest ("Invalid package.json: " ++ e.message)
    | .ok doc =>
      let deps := Manifest.dependencies (Manifest.declarations doc)
      let blocked := ((detector h arch).detect deps).1
      ok (.obj [
        ("blocking", .arr (blocked.map blockedJson)), ("has_blocking", .bool (!blocked.isEmpty))])

/-! Requests -/

/-- An operation that a path names. -/
inductive Operation where
  | health
  | analyze
  | scan
deriving DecidableEq, Repr

/-- The operation of each path, with its method. -/
def routes : List (String × String × Operation) := [
  ("/health", "GET", .health), ("/api/analyze", "POST", .analyze), ("/api/scan", "POST", .scan)]

/-- A path without query. -/
def bare (path : String) : String :=
  String.ofList (path.toList.takeWhile fun c => c != '?' && c != '#')

/-- A path without the slashes at its end. -/
def withoutSlashes (path : String) : String :=
  String.ofList ((path.toList.reverse.dropWhile (· == '/')).reverse)

/-- The method and operation of a path; slashes at its end do not count. -/
def route? (path : String) : Option (String × Operation) :=
  Assoc.find? (bare path) routes <|> Assoc.find? (withoutSlashes (bare path)) routes

/-- A text of a body that has a default. -/
def textField (fields : Fields) (name : String) (default : Option String) : Option String :=
  match Assoc.find? name fields with
  | some (.str s) => some s
  | some _ => none
  | none => default

/-- A text of a body that may be null or left out. -/
def optionalField (fields : Fields) (name : String) : Option (Option String) :=
  match Assoc.find? name fields with
  | some (.str s) => some (some s)
  | some .null | none => some none
  | some _ => none

/-- The response of an operation to a body. -/
def perform (h : Host) (op : Operation) (body : Option Json) : Response :=
  match op, body.bind Json.fields? with
  | .health, _ => ok (.obj [("status", .str "ok")])
  | _, none => unprocessable
  | .analyze, some fields =>
    match textField fields "stdout" (some ""), textField fields "stderr" (some "") with
    | some out, some err => analyze out err
    | _, _ => unprocessable
  | .scan, some fields =>
    match textField fields "content" none, optionalField fields "arch" with
    | some content, some arch => scan h content arch
    | _, _ => unprocessable

/-- The response to a request. -/
def respond (h : Host) (r : Request) : Response :=
  match route? r.path with
  | none => ⟨404, none⟩
  | some (method, op) => if r.method = method then perform h op r.body else ⟨405, none⟩

end BuildRepair.Service
