import BuildRepair.Console.Run
import BuildRepair.Proofs.Build.Process
import BuildRepair.Proofs.Build.Words
import BuildRepair.Proofs.Text.LineEnds
import BuildRepair.Proofs.Text.Quoted

/-
  Builds by processes. Every way in which a process can end makes a build: the build passed exactly
  if the process exited with zero, and one that was stopped or never started has a line at the end
  of its errors that tells so (`ofEnding_reports`). Not every call comes to an ending, though. A
  command line with an open quote or an escape at its end is no command, a text that cannot be
  handed to the system starts nothing, and a timeout that the system cannot wait for is found out
  too late. All other calls have a build, and of these it is told in which of the ways each one
  fails (`Console.processBuilder_returns`).
-/

namespace BuildRepair

open Build (Ending Partial)
open Text (Visible isLineEnd lines)

/-! ## What a process came to -/

/-- The line about a build that took too long. -/
def timeoutLine (timeout : Seconds) : String :=
  "[TIMEOUT] Compilation timed out after " ++ timeout.text ++ "s"

/-- Whether a build tells what its process came to. -/
structure BuildResult.Reports (b : BuildResult) (timeout : Seconds) (ending : Ending) : Prop where
  success_iff : b.success = true ↔ ∃ out err, ending = .exited 0 out err
  exited : ∀ code out err, ending = .exited code out err →
    b.exitCode = code ∧ b.out = out ∧ b.err = err
  /-- What was printed so far stays, and the line about it comes last. -/
  timedOut : ∀ out err, ending = .timedOut out err →
    b.exitCode = -1 ∧ b.out = out.asText ∧ err.asText.toList <+: b.err.toList ∧
      (lines b.err.toList).getLast? = some (timeoutLine timeout).toList
  /-- What is told is one line, unless lines end in the wording of the system. -/
  notStarted : ∀ number wording file, ending = .notStarted number wording file →
    b.exitCode = -1 ∧ b.out = "" ∧ b.err = "[ERROR] " ++ systemMessage number wording file ∧
      ((∀ c ∈ wording.toList, isLineEnd c = false) → lines b.err.toList = [b.err.toList])

theorem Seconds.visible_text (s : Seconds) : Visible s.text.toList := by
  cases s with
  | whole n =>
    unfold Seconds.text
    rw [String.toList_ofList]
    exact Text.visible_intText n
  | real x =>
    unfold Seconds.text
    cases x with
    | finite negative m e =>
      obtain ⟨n, hn⟩ := Binary64.textWith_finite "inf" "nan" negative m e
      rw [hn]
      refine .append ?_ (Text.visible_numeral n)
      cases negative <;> decide
    | infinite negative => cases negative <;> decide
    | nan => decide

theorem timeoutLine_ne_nil (timeout : Seconds) : (timeoutLine timeout).toList ≠ [] := by
  unfold timeoutLine
  rw [String.toList_append, String.toList_append]
  exact List.append_ne_nil_of_left_ne_nil (List.append_ne_nil_of_left_ne_nil (by decide) _) _

theorem visible_timeoutLine (timeout : Seconds) : Visible (timeoutLine timeout).toList := by
  unfold timeoutLine
  rw [String.toList_append, String.toList_append]
  exact .append (.append (by decide) timeout.visible_text) (by decide)

/-- A message of the system is one line if its wording is. -/
theorem systemMessage_unbroken (number : Int) {wording : String} (file : Option String)
    (h : ∀ c ∈ wording.toList, isLineEnd c = false) :
    ∀ c ∈ (systemMessage number wording file).toList, isLineEnd c = false := by
  have hnumber : Visible (toString number).toList := by
    rw [Text.toList_toString]
    exact Text.visible_intText number
  have hfile : Visible (file.elim "" fun p => ": " ++ Text.quotedString p).toList := by
    cases file with
    | none => decide
    | some p =>
      rw [Option.elim_some, String.toList_append]
      exact .append (by decide) (Text.visible_quotedString p)
  have hopen : Visible "[Errno ".toList := by decide
  have hclose : Visible "] ".toList := by decide
  unfold systemMessage
  simp only [String.toList_append, List.forall_mem_append]
  exact ⟨⟨⟨⟨hopen.unbroken, hnumber.unbroken⟩, hclose.unbroken⟩, h⟩, hfile.unbroken⟩

theorem toList_err_timedOut (timeout : Seconds) (out err : Partial) :
    (BuildResult.ofEnding timeout (.timedOut out err)).err.toList =
      err.asText.toList ++ '\n' :: (timeoutLine timeout).toList := by
  have hopen : "\n[TIMEOUT] Compilation timed out after ".toList =
      '\n' :: "[TIMEOUT] Compilation timed out after ".toList := rfl
  unfold BuildResult.ofEnding timeoutLine
  dsimp only
  simp only [String.toList_append, List.append_assoc, hopen, List.cons_append]

/-- Every ending of a process makes a build that tells it. -/
theorem BuildResult.ofEnding_reports (timeout : Seconds) (ending : Ending) :
    (BuildResult.ofEnding timeout ending).Reports timeout ending := by
  cases ending with
  | exited code out err =>
    refine ⟨?_, ?_, nofun, nofun⟩
    · simp [BuildResult.ofEnding]
    · rintro _ _ _ ⟨⟩
      exact ⟨rfl, rfl, rfl⟩
  | timedOut out err =>
    refine ⟨by simp [BuildResult.ofEnding], nofun, ?_, nofun⟩
    rintro _ _ ⟨⟩
    refine ⟨rfl, rfl, ?_, ?_⟩
    · rw [toList_err_timedOut]
      exact List.prefix_append _ _
    · rw [toList_err_timedOut, Text.lines_append_newline,
        Text.lines_of_line (timeoutLine_ne_nil timeout) (visible_timeoutLine timeout).unbroken,
        List.getLast?_concat]
  | notStarted number wording file =>
    refine ⟨by simp [BuildResult.ofEnding], nofun, nofun, ?_⟩
    rintro _ _ _ ⟨⟩
    refine ⟨rfl, rfl, rfl, fun h => ?_⟩
    have hopen : Visible "[ERROR] ".toList := by decide
    have herr : (BuildResult.ofEnding timeout (.notStarted number wording file)).err.toList =
        "[ERROR] ".toList ++ (systemMessage number wording file).toList := String.toList_append
    rw [herr]
    refine Text.lines_of_line (by simp) ?_
    exact List.forall_mem_append.mpr ⟨hopen.unbroken, systemMessage_unbroken number file h⟩

/-! ## Commands -/

/-- A command fails as its line does: whatever words there are make a command. -/
theorem Build.command_eq_error {manager command : String} {e : Failure} :
    Build.command manager command = .error e ↔ Build.words command = .error e := by
  unfold Build.command
  cases Build.words command with
  | error _ => exact Iff.rfl
  | ok parts =>
    dsimp only
    generalize (if manager = "" then "npm" else manager) = m
    constructor
    · intro h
      split at h
      · cases h
      · split at h
        · cases h
        · split at h <;> cases h
    · intro h
      cases h

theorem Build.command_isOk_iff {manager command : String} :
    (∃ args, Build.command manager command = .ok args) ↔ Build.Closed command.toList := by
  rw [← Build.words_isOk_iff]
  cases hargs : Build.command manager command with
  | error e => simp [Build.command_eq_error.mp hargs]
  | ok args =>
    cases hwords : Build.words command with
    | error e => cases (Build.command_eq_error.mpr hwords).symm.trans hargs
    | ok ws => simp

namespace Console

open Build (Process Speakable)

variable {processes : Nat → Process} {repo : String} {call : BuildCall} {n : Nat}
  {args : List String} {e : Failure}

/-- What a call for a build comes to, when programs are run by processes. -/
structure Settles (processes : Nat → Process) (repo : String) (call : BuildCall) (n : Nat)
    (result : Except Failure BuildResult) : Prop where
  /-- There is a build exactly if there is a command that can be handed to the system, and a
  process that does not start or can be waited for. -/
  returns_iff : (∃ b, result = .ok b) ↔ Build.Closed call.command.toList ∧
    (∀ args, Build.command call.manager call.command = .ok args →
      ∀ s ∈ args ++ [repo], Speakable s) ∧
    ∃ ending, (processes n).Ends call.timeout ending
  /-- For three weeks at most a process is waited for if it is looked at in time. -/
  returns_within : ∀ args seconds, Build.command call.manager call.command = .ok args →
    (∀ s ∈ args ++ [repo], Speakable s) → Build.IsSeconds call.timeout seconds →
      seconds ≤ 2147483 → (processes n).Starts → (processes n).SeenWithin seconds →
        result = .ok (.ofEnding call.timeout (processes n).ending)
  reports : ∀ b, result = .ok b →
    ∃ ending, (processes n).Ends call.timeout ending ∧ b.Reports call.timeout ending
  unclosedQuote_iff : result = .error .unclosedQuote ↔ Build.LeftOpen call.command.toList
  danglingEscape_iff : result = .error .danglingEscape ↔ Build.EndsInEscape call.command.toList
  /-- There are no other command lines. -/
  line_cases : Build.Closed call.command.toList ∨ Build.LeftOpen call.command.toList ∨
    Build.EndsInEscape call.command.toList
  /-- The first text that cannot be handed to the system is named. -/
  refused_iff : ∀ args, Build.command call.manager call.command = .ok args →
    ∀ r, result = .error (.file r) ↔ (args ++ [repo]).findSome? Build.refusal? = some r
  /-- A process is started for all others, and the timeout may be at fault then. -/
  failed_iff : ∀ args, Build.command call.manager call.command = .ok args →
    (∀ s ∈ args ++ [repo], Speakable s) →
      ∀ e, result = .error e ↔ (processes n).Fails call.timeout e

theorem processBuilder_of_ok (h : Build.command call.manager call.command = .ok args) :
    processBuilder (Build.run processes) repo call n =
      match Build.run processes n ⟨args, repo, call.timeout⟩ with
      | .error e => .error e
      | .ok ending => .ok (.ofEnding call.timeout ending) := by
  unfold processBuilder
  generalize Build.command call.manager call.command = command at h ⊢
  subst h
  rfl

theorem processBuilder_of_error (h : Build.words call.command = .error e) :
    processBuilder (Build.run processes) repo call n = .error e := by
  unfold processBuilder
  rw [Build.command_eq_error.mpr h]

theorem processBuilder_eq_error_of_ok
    (h : Build.command call.manager call.command = .ok args) :
    processBuilder (Build.run processes) repo call n = .error e ↔
      Build.run processes n ⟨args, repo, call.timeout⟩ = .error e := by
  rw [processBuilder_of_ok h]
  cases Build.run processes n ⟨args, repo, call.timeout⟩ <;> simp

theorem processBuilder_eq_ok {b : BuildResult}
    (h : processBuilder (Build.run processes) repo call n = .ok b) :
    ∃ args ending, Build.command call.manager call.command = .ok args ∧
      Build.run processes n ⟨args, repo, call.timeout⟩ = .ok ending ∧
      b = .ofEnding call.timeout ending := by
  unfold processBuilder at h
  split at h
  · cases h
  · next args hargs =>
    split at h
    · cases h
    · next ending hrun =>
      cases h
      exact ⟨args, ending, hargs, hrun, rfl⟩

/-- A command line without words is told apart from everything that goes wrong with a program. -/
theorem processBuilder_eq_lineError (he : e = .unclosedQuote ∨ e = .danglingEscape) :
    processBuilder (Build.run processes) repo call n = .error e ↔
      Build.words call.command = .error e := by
  refine ⟨fun h => ?_, processBuilder_of_error⟩
  cases hargs : Build.command call.manager call.command with
  | error other =>
    have hwords := Build.command_eq_error.mp hargs
    cases (processBuilder_of_error hwords).symm.trans h
    exact hwords
  | ok args =>
    have hrun := (processBuilder_eq_error_of_ok hargs).mp h
    cases hrefusal : (Build.Launch.mk args repo call.timeout).texts.findSome? Build.refusal? with
    | some r =>
      cases (Build.run_of_refusal hrefusal).symm.trans hrun
      rcases he with he | he <;> cases he
    | none =>
      have hcount := ((Build.run_error_iff hrefusal).mp hrun).isCount
      rcases he with rfl | rfl <;> simp at hcount

/-- Whatever its process does, it is settled what a build comes to: it returns exactly if the quotes
of its command line are closed and its escapes keep something, its program can be handed to the
system, and the process does not start or can be waited for, and then it tells how the process was
found to end. -/
theorem processBuilder_returns (processes : Nat → Process) (repo : String) (call : BuildCall)
    (n : Nat) :
    Settles processes repo call n (processBuilder (Build.run processes) repo call n) where
  returns_iff := by
    rw [← Build.command_isOk_iff]
    constructor
    · rintro ⟨b, hb⟩
      obtain ⟨args, ending, hargs, hrun, -⟩ := processBuilder_eq_ok hb
      obtain ⟨hspeak, hends⟩ := Build.run_eq_ok hrun
      refine ⟨⟨args, hargs⟩, fun other hother => ?_, ending, hends⟩
      cases hargs.symm.trans hother
      exact hspeak
    · rintro ⟨⟨args, hargs⟩, hspeak, ending, hends⟩
      have hrun : Build.run processes n ⟨args, repo, call.timeout⟩ = .ok ending :=
        hends.run (Build.refusals_eq_none_iff.mpr (hspeak args hargs))
      rw [processBuilder_of_ok hargs, hrun]
      exact ⟨_, rfl⟩
  returns_within := by
    intro args seconds hargs hspeak htimeout hlimit hstarts hseen
    have hends := Process.ends_of_seenWithin hstarts hseen htimeout hlimit
    have hrun : Build.run processes n ⟨args, repo, call.timeout⟩ = .ok (processes n).ending :=
      hends.run (Build.refusals_eq_none_iff.mpr hspeak)
    rw [processBuilder_of_ok hargs, hrun]
  reports := by
    intro b hb
    obtain ⟨args, ending, -, hrun, rfl⟩ := processBuilder_eq_ok hb
    exact ⟨ending, (Build.run_eq_ok hrun).2, BuildResult.ofEnding_reports call.timeout ending⟩
  unclosedQuote_iff :=
    (processBuilder_eq_lineError (.inl rfl)).trans Build.words_unclosedQuote_iff
  danglingEscape_iff :=
    (processBuilder_eq_lineError (.inr rfl)).trans Build.words_danglingEscape_iff
  line_cases := Build.line_cases _
  refused_iff := by
    intro args hargs r
    rw [processBuilder_eq_error_of_ok hargs]
    exact Build.run_file_iff
  failed_iff := by
    intro args hargs hspeak e
    rw [processBuilder_eq_error_of_ok hargs]
    exact Build.run_error_iff (Build.refusals_eq_none_iff.mpr hspeak)

/-- Calls that keep a build from its process, which would have passed, or leave it there: a quote
that is left open, a null character, and timeouts without an end, without a value and of four
months. -/
theorem openQuote_stops :
    let passes : Nat → Process := fun _ => { ending := .exited 0 "" "" }
    let build (command : String) (timeout : Seconds) :=
      processBuilder (Build.run passes) "repo" ⟨"npm", command, timeout⟩ 0
    build "build 'x" (.whole 300) = .error .unclosedQuote ∧
      build "build \x00" (.whole 300) = .error (.file .nullCharacter) ∧
      build "build" (.real (.infinite false)) = .error .infiniteCount ∧
      build "build" (.real .nan) = .error .undefinedCount ∧
      build "build" (.whole 10000000) = .error .longWait := by
  intro passes build
  have hdays : (Seconds.whole 10000000).toDouble? =
      some (.finite false 5368709120000000 (-29)) := by decide +kernel
  have hleft : (passes 0).timeLeft (.finite false 5368709120000000 (-29)) =
      .finite false 5368709120000000 (-29) := by decide +kernel
  have hms : (Binary64.finite false 5368709120000000 (-29)).times 1000 =
      .finite false 5242880000000000 (-19) := by decide +kernel
  have hlong : (passes 0).Fails (.whole 10000000) .longWait := by
    refine .wait nofun hdays ?_ ?_ <;> rw [hleft]
    · rfl
    · exact .long hms (by decide) (by decide)
  refine ⟨rfl, rfl, rfl, rfl, ?_⟩
  exact (processBuilder_eq_error_of_ok rfl).mpr (hlong.run rfl)

end Console
end BuildRepair
