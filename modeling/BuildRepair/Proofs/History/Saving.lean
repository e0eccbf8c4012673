import BuildRepair.Proofs.File.Replacing
import BuildRepair.Proofs.Remedy.Proper

/-
  What a memory remembers, and what saving it does to a tree. Two memories that remember the same
  (`Agrees`) still do after one more success (`Agrees.record`) and save the same (`Agrees.save_eq`).
  Saving a history changes what is remembered of no repository (`save_agrees`). If it goes through,
  the history file holds the history and every other file is as before; if it fails, all files are
  (`save_hasSaved`). Directories may be new in both cases.
-/

namespace BuildRepair.Memory

open BuildRepair.Tree (SameFiles)

/-- Two memories with the same histories, the same first remedies and the same place for files. A
repository without a history has the empty one. -/
structure Agrees (now : Timestamp) (m n : Memory) : Prop where
  history : ∀ repo, m.history repo now = n.history repo now
  patterns : m.patterns = n.patterns
  base : m.base = n.base

variable {m n o : Memory} {now : Timestamp} {repo pattern : String} {h : History} {r : Remedy}
  {t u : Tree} {p : Path}

/-! ## What is remembered -/

theorem Agrees.trans (hmn : m.Agrees now n) (hno : n.Agrees now o) : m.Agrees now o :=
  ⟨fun repo => (hmn.history repo).trans (hno.history repo), hmn.patterns.trans hno.patterns,
    hmn.base.trans hno.base⟩

theorem opened_agrees (repo : String) (now : Timestamp) (m : Memory) :
    (m.opened repo now).Agrees now m :=
  ⟨history_opened, rfl, rfl⟩

theorem history_put (other : String) :
    ({ m with histories := Assoc.put repo h m.histories } : Memory).history other now =
      if repo = other then h else m.history other now := by
  unfold history
  dsimp only
  rw [Assoc.find?_put]
  by_cases ho : repo = other
  · simp [ho]
  · simp [ho]

theorem history_record (other : String) :
    (m.record repo pattern r now).history other now =
      if repo = other then (m.history repo now).record pattern r now else m.history other now :=
  history_put other

theorem Agrees.record (hmn : m.Agrees now n) :
    (m.record repo pattern r now).Agrees now (n.record repo pattern r now) := by
  refine ⟨?_, ?_, hmn.base⟩
  · intro other
    rw [history_record, history_record, hmn.history, hmn.history]
  · show Assoc.putNew _ _ m.patterns = Assoc.putNew _ _ n.patterns
    rw [hmn.patterns]

/-! ## What is saved -/

theorem Agrees.path_eq (hmn : m.Agrees now n) (t : Tree) (repo : String) :
    m.path t repo = n.path t repo := by
  unfold path
  rw [hmn.base]

theorem path_opened (t : Tree) (repo other : String) (now : Timestamp) (m : Memory) :
    (m.opened other now).path t repo = m.path t repo :=
  (opened_agrees other now m).path_eq t repo

theorem save_none (m : Memory) (t : Tree) (repo : String) (now : Timestamp) :
    m.save t repo none now =
      match m.path t repo with
      | .error e => (t, m.opened repo now, .error e)
      | .ok p =>
        match write (m.history repo now) t p with
        | (u, .error e) => (u, m.opened repo now, .error e)
        | (u, .ok ()) =>
          (u, { m.opened repo now with
            histories := Assoc.put repo (m.history repo now) (m.opened repo now).histories },
            .ok ()) := by
  rw [← path_opened t repo repo now m]
  rfl

/-- Saving depends on what is remembered only. -/
theorem Agrees.save_eq (hmn : m.Agrees now n) (t : Tree) (repo : String) :
    (m.save t repo none now).1 = (n.save t repo none now).1 ∧
      (m.save t repo none now).2.2 = (n.save t repo none now).2.2 := by
  rw [save_none, save_none, hmn.path_eq, hmn.history]
  split
  · exact ⟨rfl, rfl⟩
  · split <;> exact ⟨rfl, rfl⟩

theorem save_agrees (m : Memory) (t : Tree) (repo : String) (now : Timestamp) :
    (m.save t repo none now).2.1.Agrees now m := by
  have hopened := opened_agrees repo now m
  rw [save_none]
  split
  · exact hopened
  · split
    · exact hopened
    · refine ⟨?_, rfl, rfl⟩
      intro other
      rw [history_put, hopened.history]
      split
      · next ho => rw [ho]
      · rfl

/-- What stands in a tree after a history was to be written to a file. -/
def Written (h : History) (p : Path) (t u : Tree) : Except Failure Unit → Prop
  | .ok () => ∃ text l, h.toText = .ok text ∧ u.locate p = .ok (l, some (.file (.text text))) ∧
      ∀ k ≠ l, ∀ content, u.get? k = some (.file content) ↔ t.get? k = some (.file content)
  | .error _ => SameFiles t u

theorem write_written (h : History) (t : Tree) (p : Path) :
    Written h p t (write h t p).1 (write h t p).2 := by
  have hdirs := Tree.makeDirectories_sameFiles t p.parent
  unfold write
  split
  · next hd =>
    rw [hd] at hdirs
    exact hdirs
  · next hd =>
    rw [hd] at hdirs
    split
    · exact hdirs
    · next text htext =>
      split
      · next hw =>
        rw [Tree.replaceText_error hw]
        exact hdirs
      · next hw =>
        obtain ⟨l, hl, hframe⟩ := Tree.writeText_spec (Tree.replaceText_ok hw)
        refine ⟨text, l, htext, hl, ?_⟩
        intro k hk content
        rw [hframe k hk]
        exact hdirs k content

/-- What stands in a tree after the history of a repository was to be saved. -/
def HasSaved (m : Memory) (repo : String) (now : Timestamp) (t u : Tree) :
    Except Failure Unit → Prop
  | .ok () => ∃ p, m.path t repo = .ok p ∧ Written (m.history repo now) p t u (.ok ())
  | .error _ => SameFiles t u

theorem save_hasSaved (m : Memory) (t : Tree) (repo : String) (now : Timestamp) :
    m.HasSaved repo now t (m.save t repo none now).1 (m.save t repo none now).2.2 := by
  rw [save_none]
  split
  · exact SameFiles.refl t
  · next p hp =>
    have hw := write_written (m.history repo now) t p
    split
    · next hwrite =>
      rw [hwrite] at hw
      exact hw
    · next hwrite =>
      rw [hwrite] at hw
      exact ⟨p, hp, hw⟩

end BuildRepair.Memory
