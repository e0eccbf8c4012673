import BuildRepair.Proofs.Remedy.Outcome
import BuildRepair.Proofs.Text.LineEnds
import BuildRepair.Proofs.Text.Quoted

/-
  The settings file of a repository. Two remedies set a line of it (`Sets`). Where the file can be
  read, or there is none, applying one of them succeeds: a file that has the line stays as it is,
  and in any other the text is trimmed and the line put behind its last one (`apply_enters`). That
  keeps the line of the other remedy. So each remedy that was applied has its line in the file from
  then on, and applying it again changes nothing (`applyAll_settings`).
-/

namespace BuildRepair.Remedy

open Text (lines trim Trimmed)

variable {r : Remedy} {rs : List Remedy} {t u : Tree} {repo : Path} {l : Place}
  {setting content old new : String} {line : List Char}

/-! ## Lines that are set -/

/-- The remedies that set a line of the settings file, each with its line. -/
inductive Sets : Remedy → String → Prop
  | legacyPeerDeps : Sets .legacyPeerDeps "legacy-peer-deps=true"
  | forceInstall : Sets .forceInstall "force=true"

theorem Sets.attempt (h : r.Sets setting) (t : Tree) (repo : Path) :
    r.attempt t repo = asChosen r (addSetting setting t repo) := by
  cases h <;> rfl

theorem Sets.trimmed (h : r.Sets setting) : Trimmed setting.toList := by
  cases h <;> decide

theorem Sets.visible (h : r.Sets setting) : Text.Visible setting.toList := by
  cases h <;> decide

theorem Sets.unique {other : String} (h : r.Sets setting) (h' : r.Sets other) :
    setting = other := by
  cases h <;> cases h' <;> rfl

theorem Sets.lines_eq (h : r.Sets setting) :
    lines (setting.toList ++ ['\n']) = [setting.toList] := by
  rw [Text.lines_trimmed_newline h.trimmed, Text.lines_of_line h.trimmed.ne_nil h.visible.unbroken]

theorem toList_withSetting (setting content : String) : (withSetting setting content).toList =
    (if trim content.toList = [] then [] else trim content.toList ++ ['\n']) ++
      (setting.toList ++ ['\n']) := by
  have hempty : Text.trimString content = "" ↔ trim content.toList = [] := by
    unfold Text.trimString
    rw [String.ofList_eq_empty_iff]
  unfold withSetting
  dsimp only
  rw [String.toList_append, String.toList_append, List.append_assoc]
  simp only [hempty]
  split
  · rfl
  · rw [String.toList_append, Text.trimString, String.toList_ofList]
    rfl

/-- Trimming ends the last line, and the setting is the line behind it. -/
theorem lines_withSetting (h : r.Sets setting) (content : String) :
    lines (withSetting setting content).toList =
      lines (trim content.toList) ++ [setting.toList] := by
  rw [toList_withSetting]
  split
  · next hnil => rw [hnil, List.nil_append, h.lines_eq, lines, List.nil_append]
  · next hne =>
    rw [List.append_assoc, List.singleton_append, Text.lines_append_newline,
      Text.lines_trimmed_newline (Text.trimmed_trim hne), h.lines_eq]

theorem cr_not_mem_withSetting (h : r.Sets setting) (hc : '\r' ∉ content.toList) :
    '\r' ∉ (withSetting setting content).toList := by
  have htrim : '\r' ∉ trim content.toList := fun hmem => hc (Text.trim_subset _ hmem)
  have hsetting : '\r' ∉ setting.toList := fun hmem => by cases h.visible _ hmem
  rw [toList_withSetting]
  split <;> simp [htrim, hsetting]

/-! ## Adding a setting -/

/-- Whether the settings file of a repository stands at a place, or can stand there, and reads as a
content; the content of a file that is not there is empty. -/
structure ReadsSettings (t : Tree) (repo : Path) (l : Place) (content : String) : Prop where
  place : ∃ e, t.locate (repo.child ".npmrc") = .ok (l, e)
  text : textOrEmpty t (repo.child ".npmrc") = .ok content

/-- What it is to enter a setting. A file that has the line stays as it is. Any other takes a text
whose lines are those of the trimmed old one and the setting behind them. -/
structure Enters (setting : String) (l : Place) (t u : Tree) (old new : String) : Prop where
  kept : setting.toList ∈ lines old.toList → u = t ∧ new = old
  added : setting.toList ∉ lines old.toList → u = t.put l (.file (.text new)) ∧
    lines new.toList = lines (trim old.toList) ++ [setting.toList]

theorem Enters.mem (h : Enters setting l t u old new) : setting.toList ∈ lines new.toList := by
  by_cases hmem : setting.toList ∈ lines old.toList
  · rw [(h.kept hmem).2]
    exact hmem
  · rw [(h.added hmem).2]
    exact List.mem_concat_self

/-- The lines of settings stay when another is entered. -/
theorem Enters.keeps (h : Enters setting l t u old new) (hl : Trimmed line)
    (hmem : line ∈ lines old.toList) : line ∈ lines new.toList := by
  by_cases hset : setting.toList ∈ lines old.toList
  · rw [(h.kept hset).2]
    exact hmem
  · rw [(h.added hset).2]
    exact List.mem_append_left _ (Text.mem_lines_trim hl hmem)

theorem ReadsSettings.not_directory (h : ReadsSettings t repo l content) :
    t.locate (repo.child ".npmrc") ≠ .ok (l, some .directory) := by
  intro hdir
  have htext := h.text
  unfold textOrEmpty Tree.holds Tree.look Tree.readText at htext
  rw [hdir] at htext
  cases htext

theorem ReadsSettings.no_cr (h : ReadsSettings t repo l content) : '\r' ∉ content.toList := by
  have htext := h.text
  unfold textOrEmpty at htext
  split at htext
  · cases htext
  · cases htext
    simp
  · obtain ⟨_, c, -, hread⟩ := Manifest.readText_eq_ok.mp htext
    unfold Content.read at hread
    split at hread
    · cases hread
      rw [String.toList_ofList]
      exact Text.cr_not_mem_unifyLineEnds _
    · split at hread
      · cases hread
        rw [String.toList_ofList]
        exact Text.cr_not_mem_unifyLineEnds _
      · cases hread

/-- A settings file can be written, and what was written is read again. -/
theorem ReadsSettings.write (h : ReadsSettings t repo l old) (hcr : '\r' ∉ new.toList) :
    t.writeText (repo.child ".npmrc") new = .ok (t.put l (.file (.text new))) ∧
      ReadsSettings (t.put l (.file (.text new))) repo l new := by
  obtain ⟨e, hl⟩ := h.place
  have hdir : e ≠ some .directory := by
    rintro rfl
    exact h.not_directory hl
  have hat : t.get? l ≠ some .directory := by
    rw [← Tree.locate_get? hl]
    exact hdir
  have hnew : (t.put l (.file (.text new))).locate (repo.child ".npmrc") =
      .ok (l, some (.file (.text new))) :=
    Tree.locate_of_walk hl (Tree.walk_put hat (Tree.walk_of_locate hl))
  refine ⟨Tree.writeText_eq_ok.mpr ⟨l, e, hl, hdir, rfl⟩, ⟨_, hnew⟩, ?_⟩
  unfold textOrEmpty
  rw [holds_of_hasFile ⟨l, _, hnew⟩]
  refine Manifest.readText_eq_ok.mpr ⟨l, _, hnew, ?_⟩
  unfold Content.read
  dsimp only
  rw [Json.unifyLineEnds_eq_self hcr, String.ofList_toList]

/-- A remedy that sets a line is applied, and enters it. -/
theorem apply_enters (hs : r.Sets setting) (h : ReadsSettings t repo l old) :
    ∃ u new, r.apply t repo = .ok (u, ⟨r, none⟩) ∧ ReadsSettings u repo l new ∧
      Enters setting l t u old new := by
  have happly {u : Tree} (hu : addSetting setting t repo = (u, .ok ())) :
      r.apply t repo = .ok (u, ⟨r, none⟩) := by
    refine apply_of_attempt ?_
    rw [hs.attempt, hu]
    rfl
  by_cases hmem : setting.toList ∈ lines old.toList
  · refine ⟨t, old, happly ?_, h, fun _ => ⟨rfl, rfl⟩, fun hnot => absurd hmem hnot⟩
    unfold addSetting
    simp only [h.text, List.contains_iff_mem, if_pos hmem]
  · obtain ⟨hwrite, hreads⟩ := h.write (cr_not_mem_withSetting hs h.no_cr)
    refine ⟨_, _, happly ?_, hreads, fun hset => absurd hset hmem, fun _ => ⟨rfl, ?_⟩⟩
    · unfold addSetting
      simp only [h.text, List.contains_iff_mem, if_neg hmem, hwrite]
    · exact lines_withSetting hs old

/-! ## Adding settings in turn -/

/-- Whether the settings that some remedies set are lines of a content. -/
def HasSettings (content : String) (rs : List Remedy) : Prop :=
  ∀ r ∈ rs, ∀ setting, r.Sets setting → setting.toList ∈ lines content.toList

theorem Enters.hasSettings (h : Enters setting l t u old new) (hr : r.Sets setting)
    (hold : HasSettings old rs) : HasSettings new (rs ++ [r]) := by
  unfold HasSettings at *
  rw [List.forall_mem_append, List.forall_mem_singleton]
  constructor
  · intro s hs line hline
    exact h.keeps hline.trimmed (hold s hs line hline)
  · intro line hline
    obtain rfl := hline.unique hr
    exact h.mem

/-- Remedies that set lines leave a settings file that can be read and has all of these. -/
theorem applyAll_reads (h : ReadsSettings t repo l content)
    (hrs : ∀ s ∈ rs, ∃ setting, s.Sets setting) :
    ∃ new, ReadsSettings (applyAll repo t rs) repo l new ∧ HasSettings new rs := by
  induction rs using List.reverseRecOn with
  | nil => exact ⟨content, h, by simp [HasSettings]⟩
  | append_singleton rs r ih =>
    rw [List.forall_mem_append, List.forall_mem_singleton] at hrs
    obtain ⟨hrs, setting, hr⟩ := hrs
    obtain ⟨old, hold, hsettings⟩ := ih hrs
    obtain ⟨u, new, happly, hnew, henters⟩ := apply_enters hr hold
    exact ⟨new, applyAll_append rs happly ▸ hnew, henters.hasSettings hr hsettings⟩

/-- A settings file that can be read, or is not there yet, can be read after each remedy that sets a
line. The remedy succeeds: a file that has its line stays, and any other is trimmed and gets the line
behind its last one. The lines of all remedies so far are in the file then, and a remedy that was
among the earlier ones changes nothing. -/
theorem applyAll_settings (h : ReadsSettings t repo l content)
    (hrs : ∀ s ∈ rs, ∃ line, s.Sets line) (hr : r.Sets setting) :
    ∃ old new, ReadsSettings (applyAll repo t rs) repo l old ∧
      r.apply (applyAll repo t rs) repo = .ok (applyAll repo t (rs ++ [r]), ⟨r, none⟩) ∧
      ReadsSettings (applyAll repo t (rs ++ [r])) repo l new ∧
      Enters setting l (applyAll repo t rs) (applyAll repo t (rs ++ [r])) old new ∧
      HasSettings new (rs ++ [r]) ∧
      (r ∈ rs → applyAll repo t (rs ++ [r]) = applyAll repo t rs) := by
  obtain ⟨old, hold, hsettings⟩ := applyAll_reads h hrs
  obtain ⟨u, new, happly, hnew, henters⟩ := apply_enters hr hold
  obtain rfl := applyAll_append rs happly
  refine ⟨old, new, hold, happly, hnew, henters, henters.hasSettings hr hsettings, ?_⟩
  intro hmem
  exact (henters.kept (hsettings r hmem setting hr)).1

/-- A settings file with carriage returns and a form feed; the blanks behind its last line are not
part of a setting. -/
def blankEnded : Tree :=
  { entries := [(["repo"], .directory),
      (["repo", ".npmrc"], .file (.text "registry=a\r\nforce=true \r\n\x0c"))] }

/-- There neither setting is a line at first. -/
theorem blankEnded_settings : ∃ old new,
    apply .legacyPeerDeps (applyAll (Path.ofString "repo") blankEnded [.forceInstall])
        (Path.ofString "repo") =
      .ok (applyAll (Path.ofString "repo") blankEnded [.forceInstall, .legacyPeerDeps],
        ⟨.legacyPeerDeps, none⟩) ∧
    old = "registry=a\nforce=true\nforce=true\n" ∧
    new = "registry=a\nforce=true\nforce=true\nlegacy-peer-deps=true\n" ∧
    Enters "legacy-peer-deps=true" ["repo", ".npmrc"]
      (applyAll (Path.ofString "repo") blankEnded [.forceInstall])
      (applyAll (Path.ofString "repo") blankEnded [.forceInstall, .legacyPeerDeps]) old new ∧
    HasSettings new [.forceInstall, .legacyPeerDeps] := by
  have hreads : ReadsSettings blankEnded (Path.ofString "repo") ["repo", ".npmrc"]
      "registry=a\nforce=true \n\x0c" := ⟨⟨_, rfl⟩, rfl⟩
  have hrs : ∀ s ∈ [forceInstall], ∃ line, s.Sets line := by
    rw [List.forall_mem_singleton]
    exact ⟨_, .forceInstall⟩
  obtain ⟨old, new, hold, happly, hnew, henters, hsettings, -⟩ :=
    applyAll_settings hreads hrs .legacyPeerDeps
  refine ⟨old, new, happly, ?_, ?_, henters, hsettings⟩
  · exact (Except.ok.inj hold.text).symm
  · exact (Except.ok.inj hnew.text).symm

end BuildRepair.Remedy
