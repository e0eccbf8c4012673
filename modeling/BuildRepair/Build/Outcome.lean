import BuildRepair.Build.Words
import BuildRepair.Settings
import BuildRepair.Text.Sha256
import BuildRepair.Time.Timestamp

/-
  Running a build. `command` is what is started, `BuildResult.ofEnding` what a build amounts to
  for each way in which its process can end, and `Proof` certifies one build by the digest of what
  it printed.
-/

namespace BuildRepair.Build

/-- The package managers that a build command may start with. -/
def packageManagers : List String := ["npm", "yarn", "pnpm"]

/-- The program and arguments for a build command. A command that starts with a package manager
stands as it is; otherwise its first word is a script of the manager, and its further words go to
the script, for npm behind two hyphens. -/
def command (manager buildCommand : String) : Except Failure (List String) :=
  match words buildCommand with
  | .error e => .error e
  | .ok parts =>
    let manager := if manager = "" then "npm" else manager
    match parts with
    | [] => .ok [manager, "run"]
    | first :: rest =>
      if packageManagers.contains first then .ok parts
      else if manager = "npm" ∧ rest ≠ [] then .ok (manager :: "run" :: first :: "--" :: rest)
      else .ok (manager :: "run" :: first :: rest)

/-- Output that a process left when it was stopped. -/
inductive Partial where
  | absent
  | text (s : String)
  | bytes (b : List UInt8)
deriving DecidableEq, Repr

/-- Partial output as text. -/
def Partial.asText : Partial → String
  | .absent => ""
  | .text s => s
  | .bytes b => String.ofList (Text.Utf8.decodeLossy b)

/-- How a process ends. What one that exits has printed is text. -/
inductive Ending where
  | exited (code : Int) (out err : String)
  /-- It was stopped because it took too long. -/
  | timedOut (out err : Partial)
  /-- It could not be started, for a reason that the system numbers and words. -/
  | notStarted (number : Int) (wording : String) (file : Option String)
deriving DecidableEq, Repr

end Build

/-- What a build amounts to. -/
structure BuildResult where
  success : Bool
  exitCode : Int
  out : String
  err : String
deriving DecidableEq, Repr, Inhabited

/-- The status of a build in reports. -/
def BuildResult.status (b : BuildResult) : String := if b.success then "passed" else "failed"

/-- The build that ends in one of the ways a process can; the last line of its errors tells when
it took too long or was not started. -/
def BuildResult.ofEnding (timeout : Seconds) : Build.Ending → BuildResult
  | .exited code out err => ⟨code == 0, code, out, err⟩
  | .timedOut out err =>
    ⟨false, -1, out.asText,
      err.asText ++ "\n[TIMEOUT] Compilation timed out after " ++ timeout.text ++ "s"⟩
  | .notStarted number wording file =>
    ⟨false, -1, "", "[ERROR] " ++ systemMessage number wording file⟩

/-- A certificate of one build. -/
structure BuildProof where
  time : Timestamp
  command : String
  manager : String
  exitCode : Int
  digest : String
  iterations : Int
deriving Repr

/-- The certificate of a build at an iteration; what the build printed must have bytes. -/
def BuildProof.of (time : Timestamp) (b : BuildResult) (manager command : String)
    (iteration : Int) : Except Failure BuildProof :=
  match Text.Sha256.ofString? (b.out ++ b.err) with
  | .error e => .error (.notEncodable e)
  | .ok digest => .ok ⟨time, command, manager, b.exitCode, digest, iteration⟩

end BuildRepair
