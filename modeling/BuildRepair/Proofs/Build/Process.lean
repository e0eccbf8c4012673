import BuildRepair.Build.Process
import BuildRepair.Proofs.Decimal.Whole
import BuildRepair.Proofs.File.Plain

/-
  What a program comes to that is run. It is handed to the system if each of its texts has bytes
  without a null byte (`Speakable`), and fails by the first one that has not (`run_file_iff`). Then
  a process that does not start has that for its ending, and one that starts has an ending exactly
  if what is left of its timeout at the first look can be waited for or has passed already
  (`run_ok_iff`); otherwise it is the timeout that fails, in one of five ways (`run_error_iff`). Any
  whole number of seconds up to 2147483 can be waited for, if the first look comes in time
  (`Process.ends_of_seenWithin`).
-/

namespace BuildRepair.Build

variable {p : Process} {processes : Nat → Process} {timeout : Seconds} {ending : Ending}
  {left x : Binary64} {l : Launch} {n : Nat} {e : Failure}

/-! ## Texts -/

/-- A text that can be handed to the system: it has no null character, and each half in it stands
for a byte. -/
def Speakable (s : String) : Prop :=
  ∀ c ∈ s.toList, c ≠ Char.ofNat 0 ∧ ∀ half, Text.half? c = some half → Tree.isByteHalf half = true

theorem refusal?_eq_none_iff {s : String} : refusal? s = none ↔ Speakable s := by
  have hhalves : Text.Utf8.halvesIn? Tree.isByteHalf s.toList = none ↔
      ∀ c ∈ s.toList, ∀ half, Text.half? c = some half → Tree.isByteHalf half = true := by
    rw [Text.halvesIn?_eq_none_iff]
    refine forall₂_congr fun c _ => ?_
    cases Text.half? c <;> simp
  unfold Speakable
  rw [forall₂_and, ← hhalves]
  unfold refusal?
  cases Text.Utf8.halvesIn? Tree.isByteHalf s.toList with
  | some e => simp
  | none =>
    simp only [List.contains_iff_mem, ite_eq_right_iff, reduceCtorEq, imp_false, and_true]
    exact ⟨fun h c hc hnull => h (hnull ▸ hc), fun h hmem => h _ hmem rfl⟩

theorem refusals_eq_none_iff : l.texts.findSome? refusal? = none ↔ ∀ s ∈ l.texts, Speakable s := by
  rw [List.findSome?_eq_none_iff]
  exact forall₂_congr fun s _ => refusal?_eq_none_iff

/-! ## Times -/

/-- A time left that the system can wait: it has not passed, and it has few enough milliseconds. -/
def Waits (left : Binary64) : Prop :=
  left.isNegative = false ∧ ∃ negative m e, left.times 1000 = .finite negative m e ∧
    Binary64.ceiling negative m e ≤ waitLimit

/-- Why a timeout cannot be waited for, when some of it is left. -/
inductive WaitFails (left : Binary64) : Failure → Prop
  | undefined (h : left = .nan) : WaitFails left .undefinedCount
  | infinite {negative : Bool} (h : left.times 1000 = .infinite negative) :
      WaitFails left .infiniteCount
  | immense {negative : Bool} {m : Nat} {e : Int} (h : left.times 1000 = .finite negative m e)
      (hcount : countLimit < Binary64.ceiling negative m e) : WaitFails left .immenseTime
  | long {negative : Bool} {m : Nat} {e : Int} (h : left.times 1000 = .finite negative m e)
      (hwait : waitLimit < Binary64.ceiling negative m e)
      (hcount : Binary64.ceiling negative m e ≤ countLimit) : WaitFails left .longWait

theorem ofRatio_ne_nan (negative : Bool) (num den : Nat) :
    Binary64.ofRatio negative num den ≠ .nan := by
  unfold Binary64.ofRatio
  split
  · nofun
  · dsimp only
    rw [Ne, ite_eq_iff]
    rintro (⟨-, h⟩ | ⟨-, h⟩) <;> cases h

theorem times_eq_nan_iff {k : Nat} : left.times k = .nan ↔ left = .nan := by
  cases left with
  | finite negative m e =>
    exact ⟨fun h => absurd h (ofRatio_ne_nan _ _ _), fun h => Binary64.noConfusion h⟩
  | infinite negative => exact Iff.rfl
  | nan => exact Iff.rfl

/-- Where some of a timeout is left, the process is waited for, or it is said why not. -/
theorem waits_or_fails (h : left.isNegative = false) : Waits left ∨ ∃ e, WaitFails left e := by
  cases hms : left.times 1000 with
  | nan => exact .inr ⟨_, .undefined (times_eq_nan_iff.mp hms)⟩
  | infinite negative => exact .inr ⟨_, .infinite hms⟩
  | finite negative m e =>
    by_cases hwait : Binary64.ceiling negative m e ≤ waitLimit
    · exact .inl ⟨h, negative, m, e, hms, hwait⟩
    · by_cases hcount : Binary64.ceiling negative m e ≤ countLimit
      · exact .inr ⟨_, .long hms (Int.not_le.mp hwait) hcount⟩
      · exact .inr ⟨_, .immense hms (Int.not_le.mp hcount)⟩

theorem Waits.watch (h : Waits left) (ending : Ending) : Build.watch left ending = .ok ending := by
  obtain ⟨hleft, negative, m, e, hms, hwait⟩ := h
  have hlimits : waitLimit ≤ countLimit := by decide
  unfold Build.watch
  rw [if_neg (Bool.eq_false_iff.mp hleft), hms]
  dsimp only
  rw [if_neg (Int.not_lt.mpr (Int.le_trans hwait hlimits)), if_neg (Int.not_lt.mpr hwait)]

theorem WaitFails.watch (h : WaitFails left e) (hleft : left.isNegative = false)
    (ending : Ending) : Build.watch left ending = .error e := by
  unfold Build.watch
  rw [if_neg (Bool.eq_false_iff.mp hleft)]
  cases h with
  | undefined h => rw [times_eq_nan_iff.mpr h]
  | infinite h => rw [h]
  | immense h hcount =>
    rw [h]
    exact if_pos hcount
  | long h hwait hcount =>
    rw [h]
    dsimp only
    rw [if_neg (Int.not_lt.mpr hcount), if_pos hwait]

theorem watch_of_negative (h : left.isNegative = true) (ending : Ending) :
    watch left ending = .ok (.timedOut .absent .absent) := by
  unfold watch
  rw [if_pos h]

/-! ## Processes -/

/-- Whether there is a process at all. -/
def Process.Starts (p : Process) : Prop :=
  ∀ number wording file, p.ending ≠ .notStarted number wording file

/-- How a process is found to end by those who wait for it within a timeout. -/
inductive Process.Ends (p : Process) (timeout : Seconds) : Ending → Prop
  | notStarted {number : Int} {wording : String} {file : Option String}
      (h : p.ending = .notStarted number wording file) :
      p.Ends timeout (.notStarted number wording file)
  | awaited {x : Binary64} (hstarts : p.Starts) (hx : timeout.toDouble? = some x)
      (h : Waits (p.timeLeft x)) : p.Ends timeout p.ending
  /-- The timeout has passed before the first look. -/
  | late {x : Binary64} (hstarts : p.Starts) (hx : timeout.toDouble? = some x)
      (h : (p.timeLeft x).isNegative = true) : p.Ends timeout (.timedOut .absent .absent)

/-- Why a process that was started cannot be waited for within a timeout. -/
inductive Process.Fails (p : Process) (timeout : Seconds) : Failure → Prop
  | immense (hstarts : p.Starts) (hx : timeout.toDouble? = none) : p.Fails timeout .immenseCount
  | wait {x : Binary64} {e : Failure} (hstarts : p.Starts) (hx : timeout.toDouble? = some x)
      (hleft : (p.timeLeft x).isNegative = false) (h : WaitFails (p.timeLeft x) e) :
      p.Fails timeout e

theorem Process.Fails.isCount (h : p.Fails timeout e) :
    e = .immenseCount ∨ e = .undefinedCount ∨ e = .infiniteCount ∨ e = .immenseTime ∨
      e = .longWait := by
  cases h with
  | immense => exact .inl rfl
  | wait hstarts hx hleft h => cases h <;> simp

theorem Process.ends_or_fails (p : Process) (timeout : Seconds) :
    (∃ ending, p.Ends timeout ending) ∨ ∃ e, p.Fails timeout e := by
  by_cases hstarts : p.Starts
  · cases hx : timeout.toDouble? with
    | none => exact .inr ⟨_, .immense hstarts hx⟩
    | some x =>
      cases hleft : (p.timeLeft x).isNegative with
      | true => exact .inl ⟨_, .late hstarts hx hleft⟩
      | false =>
        rcases waits_or_fails hleft with h | ⟨e, h⟩
        · exact .inl ⟨_, .awaited hstarts hx h⟩
        · exact .inr ⟨e, .wait hstarts hx hleft h⟩
  · simp only [Process.Starts, ne_eq, not_forall, not_not] at hstarts
    obtain ⟨number, wording, file, h⟩ := hstarts
    exact .inl ⟨_, .notStarted h⟩

theorem waits_of_denotes {seconds : Int} (h : left.Denotes seconds) (hleft : 0 ≤ seconds)
    (hlimit : seconds ≤ 2147483) : Waits left := by
  have htwoPow : Binary64.twoPow 53 = 9007199254740992 := rfl
  have hms : (left.times 1000).Denotes (seconds * (1000 : Nat)) := h.times (by omega)
  refine ⟨Bool.eq_false_iff.mpr fun hpast => ?_, ?_⟩
  · have hbelow := h.isNegative_iff.mp hpast
    omega
  · generalize hproduct : left.times 1000 = product at hms
    cases hms with
    | @intro negative m k _ hm =>
      refine ⟨negative, m, -k, rfl, ?_⟩
      rw [Binary64.ceiling_eq hm]
      unfold waitLimit
      omega

/-- A process is first looked at before some seconds have passed, by a clock that shows whole
seconds. -/
def Process.SeenWithin (p : Process) (seconds : Int) : Prop :=
  ∃ s w : Nat, p.started = .ofInt s ∧ p.watched = .ofInt w ∧ s ≤ w ∧ w ≤ s + seconds ∧
    s + seconds < Binary64.twoPow 53

/-- A timeout of so many seconds, whether typed as a whole number or as a double. -/
def IsSeconds (timeout : Seconds) (seconds : Int) : Prop :=
  timeout = .whole seconds ∨ timeout = .real (.ofInt seconds)

theorem IsSeconds.toDouble? {seconds : Int} (h : IsSeconds timeout seconds)
    (hlimit : seconds.natAbs < Binary64.twoPow 53) :
    timeout.toDouble? = some (.ofInt seconds) := by
  rcases h with rfl | rfl
  · have hx := Binary64.denotes_ofInt hlimit
    unfold Seconds.toDouble?
    dsimp only
    generalize Binary64.ofInt seconds = x at hx
    cases hx
    rfl
  · rfl

/-- A process that starts and is looked at in time is waited for, for three weeks at most. -/
theorem Process.ends_of_seenWithin {seconds : Int} (hstarts : p.Starts)
    (hseen : p.SeenWithin seconds) (htimeout : IsSeconds timeout seconds)
    (hlimit : seconds ≤ 2147483) : p.Ends timeout p.ending := by
  obtain ⟨s, w, hs, hw, hafter, hbefore, hclock⟩ := hseen
  have htwoPow : Binary64.twoPow 53 = 9007199254740992 := rfl
  have hx : (Binary64.ofInt seconds).Denotes seconds := Binary64.denotes_ofInt (by omega)
  have hleft : (p.timeLeft (.ofInt seconds)).Denotes (s + seconds + -w) := by
    unfold timeLeft
    rw [hs, hw]
    refine ((Binary64.denotes_ofInt ?_).add hx ?_).add (Binary64.denotes_ofInt ?_).neg ?_
    all_goals omega
  exact .awaited hstarts (htimeout.toDouble? (by omega))
    (waits_of_denotes hleft (by omega) (by omega))

/-! ## Runs -/

/-- A program that cannot be handed to the system is not run. -/
theorem run_of_refusal {r : FileError} (h : l.texts.findSome? refusal? = some r) :
    run processes n l = .error (.file r) := by
  unfold run
  rw [h]

theorem run_of_starts (h : l.texts.findSome? refusal? = none) (hstarts : (processes n).Starts) :
    run processes n l =
      match l.timeout.toDouble? with
      | none => .error .immenseCount
      | some x => watch ((processes n).timeLeft x) (processes n).ending := by
  unfold run
  rw [h]
  dsimp only
  split
  · next hending => exact absurd hending (hstarts _ _ _)
  · rfl

theorem Process.Ends.run (h : l.texts.findSome? refusal? = none)
    (hends : (processes n).Ends l.timeout ending) : Build.run processes n l = .ok ending := by
  cases hends with
  | notStarted hending =>
    unfold Build.run
    rw [h]
    dsimp only
    rw [hending]
  | awaited hstarts hx hwaits =>
    rw [run_of_starts h hstarts, hx]
    exact hwaits.watch _
  | late hstarts hx hleft =>
    rw [run_of_starts h hstarts, hx]
    exact watch_of_negative hleft _

theorem Process.Fails.run (h : l.texts.findSome? refusal? = none)
    (hfails : (processes n).Fails l.timeout e) : Build.run processes n l = .error e := by
  cases hfails with
  | immense hstarts hx => rw [run_of_starts h hstarts, hx]
  | wait hstarts hx hleft hwait =>
    rw [run_of_starts h hstarts, hx]
    exact hwait.watch hleft _

/-- A program that can be handed to the system comes to the ending of its process. -/
theorem run_ok_iff (h : l.texts.findSome? refusal? = none) :
    run processes n l = .ok ending ↔ (processes n).Ends l.timeout ending := by
  refine ⟨fun hrun => ?_, Process.Ends.run h⟩
  rcases (processes n).ends_or_fails l.timeout with ⟨other, hends⟩ | ⟨e, hfails⟩
  · cases (hends.run h).symm.trans hrun
    exact hends
  · cases (hfails.run h).symm.trans hrun

/-- It comes to no ending exactly if the timeout cannot be waited for. -/
theorem run_error_iff (h : l.texts.findSome? refusal? = none) :
    run processes n l = .error e ↔ (processes n).Fails l.timeout e := by
  refine ⟨fun hrun => ?_, Process.Fails.run h⟩
  rcases (processes n).ends_or_fails l.timeout with ⟨ending, hends⟩ | ⟨other, hfails⟩
  · cases (hends.run h).symm.trans hrun
  · cases (hfails.run h).symm.trans hrun
    exact hfails

theorem run_eq_ok (h : run processes n l = .ok ending) :
    (∀ s ∈ l.texts, Speakable s) ∧ (processes n).Ends l.timeout ending := by
  cases hrefusal : l.texts.findSome? refusal? with
  | some r => cases (run_of_refusal hrefusal).symm.trans h
  | none => exact ⟨refusals_eq_none_iff.mp hrefusal, (run_ok_iff hrefusal).mp h⟩

/-- A program that cannot be handed to the system fails by the first text at fault. -/
theorem run_file_iff {r : FileError} : run processes n l = .error (.file r) ↔
    l.texts.findSome? refusal? = some r := by
  refine ⟨fun hrun => ?_, run_of_refusal⟩
  cases h : l.texts.findSome? refusal? with
  | some other =>
    cases (run_of_refusal h).symm.trans hrun
    rfl
  | none => simpa using ((run_error_iff h).mp hrun).isCount

end BuildRepair.Build
