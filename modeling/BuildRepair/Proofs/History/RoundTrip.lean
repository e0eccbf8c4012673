import BuildRepair.Proofs.History.Loading
import BuildRepair.Proofs.History.Place

/-
  A history that was saved is loaded again by another memory (`load_saved`), provided that its file
  is looked for where it was written. That can fail: saving may make directories through which the
  name of a repository leads somewhere, and then the name counts as a path (`load_detour`).
-/

namespace BuildRepair

/-- A history in which the repository, the patterns and the fields of the remedies are strings. -/
structure History.IsPlain (h : History) : Prop where
  repo : ∃ s, h.repo = .str s
  pattern : ∀ f ∈ h.fixes, ∃ s, f.pattern = .str s
  remedy : ∀ f ∈ h.fixes, f.remedy.IsPlain

namespace History.IsPlain

variable {h : History}

theorem storable (hh : h.IsPlain) : h.Storable := by
  obtain ⟨s, hs⟩ := hh.repo
  refine ⟨hs ▸ .str s, ?_⟩
  intro f hf
  obtain ⟨s, hs⟩ := hh.pattern f hf
  exact hs ▸ .str s

theorem isKey (hh : h.IsPlain) : ∀ f ∈ h.fixes, f.pattern.isKey = true := by
  intro f hf
  obtain ⟨s, hs⟩ := hh.pattern f hf
  rw [hs]
  rfl

theorem reread_eq (hh : h.IsPlain) : h.reread = h := reread_eq_self hh.repo hh.pattern

end History.IsPlain

namespace Memory

variable {m m' n : Memory} {t u : Tree} {repo : String} {given : Option History}
  {now : Timestamp} {p : Path} {h : History}

theorem path_base (hb : n.base = m.base) (t : Tree) (repo : String) :
    n.path t repo = m.path t repo := by
  unfold path
  rw [hb]

theorem save_given {v : Tree} {text : String} (now : Timestamp) (hp : m.path t repo = .ok p)
    (hd : t.makeDirectories p.parent = (v, .ok ())) (ht : h.toText = .ok text)
    (hw : v.replaceText p text = (u, .ok ())) : m.save t repo (some h) now =
      (u, { m with histories := Assoc.put repo h m.histories }, .ok ()) := by
  simp [save, hp, write, hd, ht, hw]

/-- What a save that went through did. -/
theorem save_ok (hs : m.save t repo given now = (u, m', .ok ())) : ∃ p,
    m.path t repo = .ok p ∧ write (given.getD (m.history repo now)) t p = (u, .ok ()) := by
  have hpath : (if given.isSome then m else m.opened repo now).path t repo = m.path t repo :=
    path_base (by split <;> rfl) t repo
  unfold save at hs
  dsimp only at hs
  rw [hpath] at hs
  split at hs
  · cases hs
  · next p hp =>
    split at hs
    · cases hs
    · next hw =>
      cases hs
      exact ⟨p, hp, hw⟩

/-- The history file of a repository stands where the memory looks for it. -/
def HasFile (m : Memory) (t : Tree) (repo : String) (content : Content) : Prop :=
  ∃ p l, m.path t repo = .ok p ∧ t.locate p = .ok (l, some (.file content))

/-- A history of strings is loaded from a file of its text. -/
theorem load_hasFile {text : String} (hh : h.IsPlain) (ht : h.toText = .ok text)
    (hfresh : Assoc.find? repo n.histories = none) (hfile : n.HasFile t repo (.text text)) :
    (n.load t repo).2 = .ok (some h) := by
  obtain ⟨p, l, hp, hl⟩ := hfile
  have hread : Memory.read t p = .ok h := by
    rw [read_toText hh.storable hh.remedy ht hl, hh.reread_eq]
  obtain ⟨text', htext', hofText⟩ := read_eq_ok.mp hread
  have there : t.holds p = .ok true := Tree.holds_eq_true.mpr ⟨l, _, hl⟩
  exact load_eq_some.mpr (.inr ⟨hfresh, ⟨p, text', hp, there, htext', hofText⟩, hh.isKey⟩)

/-- A history is written to a file of its text. -/
theorem hasFile_of_write (hw : write h t p = (u, .ok ())) (hp : n.path u repo = .ok p) :
    ∃ text, h.toText = .ok text ∧ n.HasFile u repo (.text text) := by
  have hwritten := write_written h t p
  rw [hw] at hwritten
  obtain ⟨text, l, htext, hl, -⟩ := hwritten
  exact ⟨text, htext, p, l, hp, hl⟩

/-- A history of strings that was saved for a repository, and another memory with the same base
directory that has no history of the repository: if the file is looked for where it was written,
the same history is loaded; and it is looked for there if the repository is steady. -/
theorem load_saved (hs : m.save t repo given now = (u, m', .ok ()))
    (hh : (given.getD (m.history repo now)).IsPlain) (hb : n.base = m.base)
    (hfresh : Assoc.find? repo n.histories = none) :
    (n.path u repo = m.path t repo →
      (n.load u repo).2 = .ok (some (given.getD (m.history repo now)))) ∧
    (m.Steady t repo → n.path u repo = m.path t repo) := by
  obtain ⟨p, hp, hw⟩ := save_ok hs
  rw [hp]
  constructor
  · intro hplace
    obtain ⟨text, htext, hfile⟩ := hasFile_of_write hw hplace
    exact load_hasFile hh htext hfresh hfile
  · intro hsteady
    rw [path_base hb]
    exact path_of_write hsteady hp hw

/-- The history of a forced installation. -/
def forced (repo : String) : History :=
  ⟨.str repo, [⟨.str "p", .forceInstall, 1, .default⟩], .default⟩

theorem forced_isPlain (repo : String) : (forced repo).IsPlain := by
  refine ⟨⟨repo, rfl⟩, ?_, ?_⟩
  · intro f hf
    rw [List.mem_singleton.mp hf]
    exact ⟨"p", rfl⟩
  · intro f hf
    rw [List.mem_singleton.mp hf]
    exact Remedy.Proper.forceInstall.isPlain

theorem forced_toText (repo : String) : ∃ text, (forced repo).toText = .ok text := by
  refine History.HasRoom.toText ?_
  intro f hf
  rw [List.mem_singleton.mp hf]
  refine ⟨.forceInstall, ?_⟩
  unfold History.countLimit
  rw [Binary64.tenPow_eq]
  exact Nat.one_lt_pow (by decide) (by decide)

/-- A working directory with one directory in it. -/
def oneDirectory : Tree := { entries := [(["a"], .directory)] }

/-- The history that is saved for the directory is loaded. -/
theorem load_forced : ∃ u m',
    ({} : Memory).save oneDirectory "a" (some (forced "a")) .default = (u, m', .ok ()) ∧
      (({} : Memory).load u "a").2 = .ok (some (forced "a")) := by
  obtain ⟨text, htext⟩ := forced_toText "a"
  have hp : ({} : Memory).path oneDirectory "a" = .ok ⟨"", ["a", ".revive", "fix-history.json"]⟩ :=
    rfl
  have hs := save_given .default hp rfl htext rfl
  refine ⟨_, _, hs, ?_⟩
  obtain ⟨hload, hpath⟩ := load_saved (n := {}) hs (forced_isPlain "a") rfl rfl
  exact hload (hpath (.inr (.inl rfl)))

/-! ## A history that is not found again -/

/-- A name that leads to the directory of histories, once there is one. -/
def detour : String := "a/../.revive"

theorem shortDigest_detour : shortDigest detour = .ok "04437b744661" := by
  have hbytes : Text.Utf8.encode? detour.toList =
      .ok [97, 47, 46, 46, 47, 46, 114, 101, 118, 105, 118, 101] := by rfl
  have hdigest : (Text.Sha256.digest [97, 47, 46, 46, 47, 46, 114, 101, 118, 105, 118, 101]).take 12
      = "04437b744661".toList := by decide +kernel
  unfold shortDigest Text.Sha256.ofString?
  rw [hbytes]
  show Except.ok (String.ofList ((String.ofList (Text.Sha256.digest _)).toList.take 12)) = _
  rw [String.toList_ofList, hdigest, String.ofList_toList]

theorem path_detour : ({} : Memory).path oneDirectory detour =
    .ok ⟨"<cwd>/", [".revive", "04437b744661", ".revive", "fix-history.json"]⟩ := by
  have hq : directoryOf oneDirectory detour =
      .ok ((Path.working.child Settings.default.historyDirectory).child "04437b744661") := by
    rw [directoryOf_missing (by unfold IsMarked; decide) rfl, shortDigest_detour]
    rfl
  exact path_of_directory rfl hq

/-- No history is loaded, although one was saved. -/
theorem load_detour : ∃ u m',
    ({} : Memory).save oneDirectory detour (some (forced detour)) .default = (u, m', .ok ()) ∧
      (({} : Memory).load u detour).2 = .ok none := by
  obtain ⟨text, htext⟩ := forced_toText detour
  have hs := save_given .default path_detour rfl htext rfl
  exact ⟨_, _, hs, rfl⟩

end Memory
end BuildRepair
