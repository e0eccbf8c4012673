import BuildRepair.Proofs.History.Loading
import BuildRepair.Proofs.Json.Closing
import BuildRepair.Proofs.Manifest
import BuildRepair.Proofs.Time.Offset

/-
  The dates of a history file. A file may write each of its dates with the tag of a point in time or
  as a plain text, without an offset, with the mark of universal time, or with an offset of whole
  minutes. `Dates` is a choice of such texts with the points they denote, and `Tells` says which
  history a document tells whose dates are among them. Whatever the layout of the file is, and
  whatever else stands in it, this history is loaded from it (`load_told`).
-/

namespace BuildRepair

open Timestamp (Denotes Offset)

variable {fields : Fields} {j : Json} {text : String}

/-- Texts that denote points in time. -/
structure Dates where
  at? : String → Option Timestamp
  denotes : ∀ s t, at? s = some t → Denotes t s

namespace Dates

variable {dates : Dates} {t : Timestamp} {f : Fix} {h : History}

/-- The point in time that a value is, or is a text of. -/
def time? (dates : Dates) : Json → Option Timestamp
  | .date t => some t
  | .str s => dates.at? s
  | _ => none

/-- What an object stands for: with the tag it holds a point in time and is this point, without the
tag it is itself. -/
def close (dates : Dates) (fields : Fields) : Except Failure Json :=
  match Assoc.find? "__type" fields, Assoc.find? "value" fields with
  | some (.str "Date"), some value =>
    match dates.time? value with
    | some t => .ok (.date t)
    | none => .error .wrongKind
  | _, _ => .ok (.obj fields)

/-- The fields of a stored fix, up to what else stands there. -/
structure TellsFix (dates : Dates) (fields : Fields) (f : Fix) : Prop where
  pattern : Assoc.find? "errorPattern" fields = some f.pattern
  remedy : ∃ j, Assoc.find? "strategy" fields = some j ∧ Remedy.ofJson j = .ok f.remedy
  count : ∃ j, Assoc.find? "successCount" fields = some j ∧ History.readCount j = .ok f.count
  lastUsed : ∃ j, Assoc.find? "lastUsed" fields = some j ∧ dates.time? j = some f.lastUsed

/-- The fields of a stored history, up to what else stands there. -/
structure Tells (dates : Dates) (fields : Fields) (h : History) : Prop where
  repo : Assoc.find? "repoId" fields = some h.repo
  fixes : ∃ items, History.itemsOf ((Assoc.find? "fixes" fields).getD (.arr [])) = .ok items ∧
    List.Forall₂ (fun j f => ∃ fields, j = .obj fields ∧ dates.TellsFix fields f) items h.fixes
  lastRun : ∃ j, Assoc.find? "lastResurrection" fields = some j ∧ dates.time? j = some h.lastRun

/-! ## Reading the dates -/

theorem ofJson_of_time? (h : dates.time? j = some t) : Timestamp.ofJson j = .ok t := by
  cases j with
  | date d =>
    cases h
    rfl
  | str s =>
    show Timestamp.ofText s = .ok t
    unfold Timestamp.ofText
    rw [(dates.denotes s t h).read]
  | _ => cases h

/-- An object is read as what it stands for. -/
theorem ofTagged_of_close (h : dates.close fields = .ok j) : Json.ofTagged fields = .ok j := by
  unfold close at h
  split at h
  · next htype hvalue =>
    split at h
    · next ht =>
      cases h
      simp only [Json.ofTagged, htype, hvalue, ofJson_of_time? ht, Except.map]
    · cases h
  · next hnot =>
    cases h
    refine Json.ofTagged_of_untagged fun htype => ?_
    cases hvalue : Assoc.find? "value" fields with
    | none => rfl
    | some value => exact absurd hvalue (hnot value htype)

theorem TellsFix.readFix (hf : dates.TellsFix fields f) : History.readFix (.obj fields) = .ok f := by
  obtain ⟨strategy, hstrategy, hremedy⟩ := hf.remedy
  obtain ⟨count, hcount, hn⟩ := hf.count
  obtain ⟨lastUsed, hlast, htime⟩ := hf.lastUsed
  simp only [History.readFix, History.fieldsOf, History.required, hf.pattern, hstrategy, hcount,
    hlast, hremedy, hn, ofJson_of_time? htime, bind, Except.bind, pure, Except.pure]

theorem Tells.ofJson (hh : dates.Tells fields h) : History.ofJson (.obj fields) = .ok h := by
  obtain ⟨items, hitems, hall⟩ := hh.fixes
  obtain ⟨lastRun, hlast, htime⟩ := hh.lastRun
  have hfixes : items.mapM History.readFix = .ok h.fixes := by
    generalize h.fixes = fixes at hall
    clear hitems
    induction hall with
    | nil => rfl
    | cons hf _ ih =>
      obtain ⟨fields, rfl, hf⟩ := hf
      exact mapM_cons_eq_ok.mpr ⟨_, _, hf.readFix, ih, rfl⟩
  simp only [History.ofJson, History.fieldsOf, History.required, hh.repo, hitems, hfixes, hlast,
    ofJson_of_time? htime, bind, Except.bind, pure, Except.pure]

/-- A text whose document tells a history is read as this history. -/
theorem ofText_of_tells (hdoc : Json.readWith dates.close .notJson text = .ok (.obj fields))
    (hh : dates.Tells fields h) : History.ofText text = .ok h := by
  unfold History.ofText
  rw [Json.readWith_of_closes (fun _ _ => ofTagged_of_close) hdoc]
  exact hh.ofJson

end Dates

namespace Memory

variable {m : Memory} {t : Tree} {p : Path} {repo : String} {dates : Dates} {h : History}

/-- A history file that tells a history: whichever of the texts of a date stands there, with the tag
or without it, the history is loaded with the point in time that the text denotes. -/
theorem load_told (hfresh : Assoc.find? repo m.histories = none) (hp : m.path t repo = .ok p)
    (hfile : t.readText p = .ok text)
    (hdoc : Json.readWith dates.close .notJson text = .ok (.obj fields))
    (hh : dates.Tells fields h) (hkeys : ∀ f ∈ h.fixes, f.pattern.isKey = true) :
    (m.load t repo).2 = .ok (some h) := by
  obtain ⟨l, content, hl, -⟩ := Manifest.readText_eq_ok.mp hfile
  have hthere : t.holds p = .ok true := Tree.holds_eq_true.mpr ⟨l, _, hl⟩
  exact load_eq_some.mpr
    (.inr ⟨hfresh, ⟨p, text, hp, hthere, hfile, Dates.ofText_of_tells hdoc hh⟩, hkeys⟩)

/-! ## A file with two dates -/

/-- Half past eleven on the last evening of a year, which further east is the next year. -/
def lastEvening : Timestamp := ⟨⟨2023, 12, 31⟩, 23, 30, 0, 0, by decide⟩

def newYear : Timestamp := ⟨⟨2024, 1, 1⟩, 0, 45, 0, 0, by decide⟩

def hoursAhead : Offset := ⟨false, 1, 15, by decide, by decide⟩

/-- A quarter past one on the first of March, which further west is the last of February. -/
def firstOfMarch : Timestamp := ⟨⟨2024, 3, 1⟩, 1, 15, 0, 500000, by decide⟩

def leapDay : Timestamp := ⟨⟨2024, 2, 29⟩, 19, 45, 0, 500000, by decide⟩

def hoursBehind : Offset := ⟨true, 5, 30, by decide, by decide⟩

/-- The texts of both. -/
def twoDates : Dates where
  at? s :=
    if s = newYear.text ++ hoursAhead.text then some lastEvening
    else if s = leapDay.text ++ hoursBehind.text then some firstOfMarch
    else none
  denotes := by
    intro s t h
    split at h
    · next hs =>
      cases h
      rw [hs]
      exact .offset hoursAhead (Timestamp.written_text newYear) (by decide +kernel)
    · split at h
      · next hs =>
        cases h
        rw [hs]
        exact .offset hoursBehind (Timestamp.written_text leapDay) (by decide +kernel)
      · cases h

/-- The fields of a fix with a plain date. -/
def twoDatesFix : Fields := [
  ("errorPattern", .str "p"), ("strategy", .obj [("type", .str "force_install")]),
  ("successCount", .int 3), ("lastUsed", .str (newYear.text ++ hoursAhead.text))]

/-- The document of a history with this fix and a tagged date. -/
def twoDatesFile : Json := .obj [
  ("repoId", .str "a"),
  ("fixes", .arr [.obj twoDatesFix]),
  ("lastResurrection", .obj [
    ("__type", .str "Date"), ("value", .str (leapDay.text ++ hoursBehind.text))])]

/-- A repository with that file. -/
def twoDatesTree : Tree :=
  { entries := [(["a"], .directory), (["a", ".revive"], .directory),
      (["a", ".revive", "fix-history.json"], .file (.text twoDatesFile.document))] }

theorem at?_newYear : twoDates.at? (newYear.text ++ hoursAhead.text) = some lastEvening := by
  unfold twoDates
  dsimp only
  rw [if_pos rfl]

theorem at?_leapDay : twoDates.at? (leapDay.text ++ hoursBehind.text) = some firstOfMarch := by
  have hne : leapDay.text ++ hoursBehind.text ≠ newYear.text ++ hoursAhead.text := by decide +kernel
  unfold twoDates
  dsimp only
  rw [if_neg hne, if_pos rfl]

/-- The tagged date is read as a point in time, and all else as it stands. -/
theorem readWith_twoDates : Json.readWith twoDates.close .notJson twoDatesFile.document =
    .ok (.obj [("repoId", .str "a"), ("fixes", .arr [.obj twoDatesFix]),
      ("lastResurrection", .date firstOfMarch)]) := by
  have hcount : (3 : Int).natAbs < Binary64.tenPow Json.integerDigitLimit := by
    rw [Binary64.tenPow_eq]
    exact Nat.lt_of_lt_of_le (by decide) (Nat.le_self_pow (by decide) 10)
  have hremedy : Json.ReadAs twoDates.close (.obj [("type", .str "force_install")])
      (.obj [("type", .str "force_install")]) :=
    Json.readAs_obj (.cons ⟨rfl, Json.readAs_str _⟩ .nil) (by decide) rfl
  have hfixFields : List.Forall₂ (Json.FieldReadAs twoDates.close) twoDatesFix twoDatesFix :=
    .cons ⟨rfl, Json.readAs_str _⟩ (.cons ⟨rfl, hremedy⟩
      (.cons ⟨rfl, Json.readAs_int hcount⟩ (.cons ⟨rfl, Json.readAs_str _⟩ .nil)))
  have hfix := Json.readAs_obj hfixFields (by decide) rfl
  have htagFields : List.Forall₂ (Json.FieldReadAs twoDates.close)
      [("__type", .str "Date"), ("value", .str (leapDay.text ++ hoursBehind.text))]
      [("__type", .str "Date"), ("value", .str (leapDay.text ++ hoursBehind.text))] :=
    .cons ⟨rfl, Json.readAs_str _⟩ (.cons ⟨rfl, Json.readAs_str _⟩ .nil)
  have htagged := Json.readAs_obj (j := .date firstOfMarch) htagFields (by simp [Assoc.keys])
    (by simp [Dates.close, Assoc.find?, Dates.time?, at?_leapDay])
  have hfields : List.Forall₂ (Json.FieldReadAs twoDates.close)
      [("repoId", .str "a"), ("fixes", .arr [.obj twoDatesFix]), ("lastResurrection", .obj
        [("__type", .str "Date"), ("value", .str (leapDay.text ++ hoursBehind.text))])]
      [("repoId", .str "a"), ("fixes", .arr [.obj twoDatesFix]),
        ("lastResurrection", .date firstOfMarch)] :=
    .cons ⟨rfl, Json.readAs_str _⟩ (.cons ⟨rfl, Json.readAs_arr (.cons hfix .nil)⟩
      (.cons ⟨rfl, htagged⟩ .nil))
  exact Json.readWith_document (Json.readAs_obj hfields (by simp [Assoc.keys]) rfl) .notJson

/-- The history is loaded with the points that both denote in universal time. -/
theorem load_twoDates : (({} : Memory).load twoDatesTree "a").2 =
    .ok (some ⟨.str "a", [⟨.str "p", .forceInstall, 3, lastEvening⟩], firstOfMarch⟩) := by
  have hfile : twoDatesTree.readText ⟨"", ["a", ".revive", "fix-history.json"]⟩ =
      .ok twoDatesFile.document := Tree.readText_document rfl
  have hp : ({} : Memory).path twoDatesTree "a" =
      .ok ⟨"", ["a", ".revive", "fix-history.json"]⟩ := rfl
  have hfix : twoDates.TellsFix twoDatesFix ⟨.str "p", .forceInstall, 3, lastEvening⟩ :=
    ⟨rfl, ⟨_, rfl, rfl⟩, ⟨_, rfl, rfl⟩, ⟨_, rfl, at?_newYear⟩⟩
  refine load_told rfl hp hfile readWith_twoDates ?_ ?_
  · exact ⟨rfl, ⟨_, rfl, .cons ⟨twoDatesFix, rfl, hfix⟩ .nil⟩, ⟨_, rfl, rfl⟩⟩
  · intro f hf
    rw [List.mem_singleton.mp hf]
    rfl

end Memory
end BuildRepair
