import BuildRepair.Proofs.History.RoundTrip
import BuildRepair.Proofs.History.Succession

/-
  Histories that outlast the memory they are in. The remedy that a history has for a pattern is of
  the shape of the last success for it, and depends on no other pattern (`remedyFor_record_shape`,
  `remedyFor_record_other`). From the file of a lasting history another memory loads the same
  remedies (`remedyFor_load`). Every history that is read or made by recording can be read back
  (`Memory.Storable`).
-/

namespace BuildRepair

/-! ## What is recorded -/

namespace History

variable {h : History} {pattern other : String} {r : Remedy} {now : Timestamp}

theorem find?_recordIn (pattern : String) (r : Remedy) (now : Timestamp) (fs : List Fix) :
    (recordIn pattern r now fs).find? (·.pattern == .str pattern) =
      some (((fs.find? (·.pattern == .str pattern)).map (·.succeed r now)).getD
        ⟨.str pattern, r, 1, now⟩) := by
  induction fs with
  | nil => simp [recordIn]
  | cons f fs ih =>
    unfold recordIn
    by_cases hf : (f.pattern == .str pattern) = true
    · simp [hf, pattern_succeed]
    · simp [hf, ih]

theorem find?_recordIn_other (hne : other ≠ pattern) (r : Remedy) (now : Timestamp)
    (fs : List Fix) : (recordIn pattern r now fs).find? (·.pattern == .str other) =
      fs.find? (·.pattern == .str other) := by
  induction fs with
  | nil => simp [recordIn, Ne.symm hne]
  | cons f fs ih =>
    unfold recordIn
    by_cases hf : (f.pattern == .str pattern) = true
    · have hother : (f.pattern == .str other) = false := by
        rw [Json.beq_str_iff.mp hf]
        simp [Ne.symm hne]
      simp [hf, hother, pattern_succeed]
    · by_cases ho : (f.pattern == .str other) = true
      · simp [hf, ho]
      · simp [hf, ho, ih]

/-- After a success the remedy for its pattern is of its shape. -/
theorem remedyFor_record_shape (hr : r.Proper) (h : History) : ∃ q,
    (h.record pattern r now).remedyFor pattern = some q ∧ q.sameShape r = true := by
  have hself : r.sameShape r = true := Remedy.sameShape_self hr
  unfold remedyFor record
  dsimp only
  rw [find?_recordIn]
  refine ⟨_, rfl, ?_⟩
  cases h.fixes.find? (·.pattern == .str pattern) with
  | none => exact hself
  | some f =>
    show (f.succeed r now).remedy.sameShape r = true
    unfold Fix.succeed
    split
    · next hsame => exact hsame
    · exact hself

theorem remedyFor_record_other (hne : other ≠ pattern) (h : History) (r : Remedy)
    (now : Timestamp) : (h.record pattern r now).remedyFor other = h.remedyFor other := by
  unfold remedyFor record
  dsimp only
  rw [find?_recordIn_other hne]

/-- A history that can be written and is read back. -/
structure Lasting (h : History) : Prop where
  storable : h.Storable
  proper : ∀ f ∈ h.fixes, f.remedy.Proper

theorem Lasting.record (hh : h.Lasting) (hr : r.Proper) (pattern : String) (now : Timestamp) :
    (h.record pattern r now).Lasting := by
  refine ⟨hh.storable.record pattern r now, ?_⟩
  intro f hf
  rcases mem_recordIn hf with hf | rfl | ⟨g, hg, rfl⟩
  · exact hh.proper f hf
  · exact hr
  · rcases succeed_cases g r now with ⟨hremedy, -⟩ | ⟨hremedy, -⟩
    · rw [hremedy]
      exact hh.proper g hg
    · rw [hremedy]
      exact hr

end History

/-! ## What is loaded -/

namespace Memory

variable {m : Memory} {t : Tree} {repo pattern : String} {now : Timestamp} {h : History}
  {p : Path}

theorem histories_learnAll (m : Memory) (fs : List Fix) :
    (m.learnAll fs).1.histories = m.histories := by
  induction fs generalizing m with
  | nil => rfl
  | cons f fs ih =>
    unfold learnAll
    split
    · exact ih _
    · rfl

theorem histories_adopt (m : Memory) (repo : String) (h : History) :
    (m.adopt repo h).1.histories = Assoc.put repo h m.histories := by
  have hlearn := histories_learnAll { m with histories := Assoc.put repo h m.histories } h.fixes
  unfold adopt
  split
  · next hl =>
    rw [hl] at hlearn
    exact hlearn
  · next hl =>
    rw [hl] at hlearn
    exact hlearn

/-- A history that is read is remembered, whether its remedies can be learnt or not. -/
theorem history_load (hfresh : Assoc.find? repo m.histories = none) (hp : m.path t repo = .ok p)
    (there : t.holds p = .ok true) (hread : read t p = .ok h) :
    (m.load t repo).1.history repo now = h := by
  rw [load_unremembered hfresh, hp]
  dsimp only
  rw [there]
  dsimp only
  rw [hread]
  unfold history
  dsimp only
  rw [histories_adopt, Assoc.find?_put]
  simp

/-- A memory whose histories are read back once they are written. Every history that is read or
made by recording is such a one. -/
def Storable (m : Memory) : Prop := ∀ repo h, Assoc.find? repo m.histories = some h → h.Storable

theorem Storable.history (hm : m.Storable) (repo : String) (now : Timestamp) :
    (m.history repo now).Storable := by
  unfold Memory.history
  cases hfind : Assoc.find? repo m.histories with
  | none => exact .empty repo now
  | some h => exact hm repo h hfind

theorem Storable.put (hm : m.Storable) (hh : h.Storable) (repo : String) :
    Storable { m with histories := Assoc.put repo h m.histories } := by
  intro other k hk
  rw [Assoc.find?_put] at hk
  split at hk
  · cases hk
    exact hh
  · exact hm other k hk

theorem Storable.adopt (hm : m.Storable) (hh : h.Storable) (repo : String) :
    (m.adopt repo h).1.Storable := by
  intro other k hk
  rw [histories_adopt] at hk
  exact hm.put hh repo other k hk

/-- Loading keeps that, even if it fails. -/
theorem Storable.load (hm : m.Storable) (t : Tree) (repo : String) :
    (m.load t repo).1.Storable := by
  cases hfind : Assoc.find? repo m.histories with
  | some h =>
    rw [load_remembered hfind]
    exact hm
  | none =>
    rw [load_unremembered hfind]
    split
    · exact hm
    · split
      · exact hm
      · exact hm
      · split
        · next hread =>
          obtain ⟨text, -, hofText⟩ := read_eq_ok.mp hread
          exact hm.adopt (History.ofText_storable hofText) repo
        · exact hm

/-- From the file of a lasting history the same remedies are loaded. -/
theorem remedyFor_load {text : String} (hh : h.Lasting) (ht : h.toText = .ok text)
    (hfresh : Assoc.find? repo m.histories = none) (hfile : m.HasFile t repo (.text text)) :
    ((m.load t repo).1.history repo now).remedyFor pattern = h.remedyFor pattern := by
  obtain ⟨p, l, hp, hl⟩ := hfile
  have there : t.holds p = .ok true := Tree.holds_eq_true.mpr ⟨l, _, hl⟩
  have hread := read_toText hh.storable (fun f hf => (hh.proper f hf).isPlain) ht hl
  rw [history_load hfresh hp there hread, History.remedyFor_reread]

end Memory
end BuildRepair
