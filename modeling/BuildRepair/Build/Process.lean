import BuildRepair.Build.Outcome
import BuildRepair.File.Tree

/-
  Running a program as far as the system goes along. Its arguments and its directory are handed
  over as bytes up to a null byte, so a text with a null character or with halves that stand for no
  byte starts nothing. A process that was started is looked at for the first time when part of its
  timeout may have passed, and what is left is counted in milliseconds; a timeout without such a
  count is a failure of the run, whatever the process does.
-/

namespace BuildRepair.Build

/-- A program to be run: its name and arguments, where, and for how long. -/
structure Launch where
  arguments : List String
  directory : String
  timeout : Seconds
deriving DecidableEq, Repr

/-- The texts of a program that are handed to the system, in order. -/
def Launch.texts (l : Launch) : List String := l.arguments ++ [l.directory]

/-- What the `n`-th program that is run comes to, counted from zero. -/
abbrev Runner := Nat → Launch → Except Failure Ending

/-- A process: what the clock shows when it is started and when it is first looked at, and how it
is found to end by those who wait for it. -/
structure Process where
  started : Binary64 := .ofInt 0
  watched : Binary64 := .ofInt 0
  ending : Ending

/-- Why a text cannot be handed to the system. -/
def refusal? (s : String) : Option FileError :=
  match Text.Utf8.halvesIn? Tree.isByteHalf s.toList with
  | some e => some (.unencodable e)
  | none => if s.toList.contains (Char.ofNat 0) then some .nullCharacter else none

/-- What is left of a timeout when a process is first looked at. -/
def Process.timeLeft (p : Process) (timeout : Binary64) : Binary64 :=
  (p.started.add timeout).add p.watched.neg

/-- The most milliseconds that the system waits. -/
def waitLimit : Int := 2147483647

/-- The most milliseconds that can be counted in nanoseconds. -/
def countLimit : Int := 9223372036854

/-- How a process is found to end when some of its timeout is left; one that has none left is
stopped with nothing read from it. -/
def watch (left : Binary64) (ending : Ending) : Except Failure Ending :=
  if left.isNegative then .ok (.timedOut .absent .absent)
  else
    match left.times 1000 with
    | .nan => .error .undefinedCount
    | .infinite _ => .error .infiniteCount
    | .finite negative m e =>
      let milliseconds := Binary64.ceiling negative m e
      if countLimit < milliseconds then .error .immenseTime
      else if waitLimit < milliseconds then .error .longWait
      else .ok ending

/-- Runs programs by processes. A timeout is of no account for one that is not started. -/
def run (processes : Nat → Process) : Runner := fun n l =>
  match l.texts.findSome? refusal? with
  | some e => .error (.file e)
  | none =>
    let p := processes n
    match p.ending with
    | .notStarted .. => .ok p.ending
    | _ =>
      match l.timeout.toDouble? with
      | none => .error .immenseCount
      | some timeout => watch (p.timeLeft timeout) p.ending

end BuildRepair.Build
