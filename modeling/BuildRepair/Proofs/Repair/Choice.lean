import BuildRepair.Proofs.Remedy.Proper
import BuildRepair.Repair.Iteration

/-
  The choice of a remedy, in three layers. The rotation takes the first untried remedy of a list
  (`firstUntried_spec`), its `select` falls back on the last resort (`select_spec`), and a run asks
  its memory for the best remedy before it asks the rotation (`choose_spec`). All three amount to
  one rule: of the `candidates` for a fault take the first one not tried for it yet.

  Only proper remedies are considered. For others the question whether they were tried may have no
  answer.
-/

namespace BuildRepair

/-! ## The first untried remedy of a list -/

namespace Rotation

/-- The first of some remedies without an entry for a fault among those tried; none if all of them
have one. -/
def IsFirstUntried (tried : List Entry) (d : Diagnosis) (rs : List Remedy) : Option Remedy → Prop
  | some r => ∃ before after, rs = before ++ r :: after ∧ (∀ q ∈ before, entry d q ∈ tried) ∧
      entry d r ∉ tried
  | none => ∀ r ∈ rs, entry d r ∈ tried

variable {s : Rotation} {tried tried' : List Entry} {d : Diagnosis} {q r : Remedy}
  {qs rs : List Remedy} {chosen : Option Remedy}

theorem IsFirstUntried.head (h : entry d r ∉ tried) : IsFirstUntried tried d (r :: rs) (some r) :=
  ⟨[], rs, rfl, by simp, h⟩

theorem IsFirstUntried.cons (hq : entry d q ∈ tried) (h : IsFirstUntried tried d rs chosen) :
    IsFirstUntried tried d (q :: rs) chosen := by
  cases chosen with
  | none => exact List.forall_mem_cons.mpr ⟨hq, h⟩
  | some r =>
    obtain ⟨before, after, rfl, hb, hr⟩ := h
    exact ⟨q :: before, after, rfl, List.forall_mem_cons.mpr ⟨hq, hb⟩, hr⟩

theorem IsFirstUntried.append_right (h : IsFirstUntried tried d rs (some r)) :
    IsFirstUntried tried d (rs ++ qs) (some r) := by
  obtain ⟨before, after, rfl, hb, hr⟩ := h
  exact ⟨before, after ++ qs, by simp, hb, hr⟩

theorem IsFirstUntried.append_left (hq : ∀ q ∈ qs, entry d q ∈ tried)
    (h : IsFirstUntried tried d rs chosen) : IsFirstUntried tried d (qs ++ rs) chosen := by
  induction qs with
  | nil => exact h
  | cons q qs ih =>
    rw [List.forall_mem_cons] at hq
    exact (ih hq.2).cons hq.1

theorem IsFirstUntried.mem (h : IsFirstUntried tried d rs (some r)) : r ∈ rs := by
  obtain ⟨before, after, rfl, -, -⟩ := h
  simp

theorem IsFirstUntried.fresh (h : IsFirstUntried tried d rs (some r)) : entry d r ∉ tried := by
  obtain ⟨_, _, -, -, hr⟩ := h
  exact hr

/-- If a remedy is chosen, the first of the list is that one or was tried. -/
theorem IsFirstUntried.head_tried (h : IsFirstUntried tried d (q :: rs) (some r)) :
    entry d q ∈ entry d r :: tried := by
  obtain ⟨before, after, hrs, hb, -⟩ := h
  cases before with
  | nil =>
    cases hrs
    exact List.mem_cons_self ..
  | cons p before =>
    cases hrs
    exact List.mem_cons_of_mem _ (hb _ (List.mem_cons_self ..))

theorem IsFirstUntried.congr (h : ∀ k, k ∈ tried ↔ k ∈ tried')
    (hf : IsFirstUntried tried d rs chosen) : IsFirstUntried tried' d rs chosen := by
  cases chosen with
  | none => exact fun r hr => (h _).mp (hf r hr)
  | some r =>
    obtain ⟨before, after, hrs, hb, hr⟩ := hf
    exact ⟨before, after, hrs, fun q hq => (h _).mp (hb q hq), fun hm => hr ((h _).mpr hm)⟩

theorem firstUntried_spec (h : ∀ r ∈ rs, r.Proper) :
    ∃ chosen, s.firstUntried d rs = .ok chosen ∧ IsFirstUntried s.tried d rs chosen := by
  induction rs with
  | nil => exact ⟨none, rfl, by simp [IsFirstUntried]⟩
  | cons r rs ih =>
    rw [List.forall_mem_cons] at h
    unfold firstUntried
    rcases hasTried_cases (s := s) (d := d) h.1 with ⟨ht, hm⟩ | ⟨ht, hm⟩
    · obtain ⟨chosen, hc, hs⟩ := ih h.2
      rw [ht]
      exact ⟨chosen, hc, hs.cons hm⟩
    · rw [ht]
      exact ⟨some r, rfl, .head hm⟩

theorem firstUntried_known {known : Option Remedy}
    (h : ∀ k, known = some k → k.Proper ∧ entry d k ∈ s.tried) :
    s.firstUntried d (known.toList ++ rs) = s.firstUntried d rs := by
  cases known with
  | none => rfl
  | some k =>
    obtain ⟨hk, hm⟩ := h k rfl
    rcases hasTried_cases (s := s) (d := d) hk with ⟨ht, -⟩ | ⟨-, hn⟩
    · show s.firstUntried d (k :: rs) = _
      rw [firstUntried, ht]
    · exact absurd hm hn

/-- Once the known remedy was tried, the rotation selects the first untried one of those that the
diagnosis calls for and the last resort, or the last resort again when all of them were tried. -/
theorem select_spec (history : Option History)
    (h : ∀ k, history.bind (·.remedyFor d.pattern) = some k → k.Proper ∧ entry d k ∈ s.tried) :
    ∃ r, s.select d history = .ok r ∧ r.Proper ∧
      (entry d r ∉ s.tried →
        IsFirstUntried s.tried d (d.remedies ++ [Remedy.lastResort]) (some r)) ∧
      (entry d r ∈ s.tried →
        IsFirstUntried s.tried d (d.remedies ++ [Remedy.lastResort]) none) := by
  have hremedies : ∀ r ∈ d.remedies, r.Proper := fun _ => Diagnosis.remedies_proper
  obtain ⟨chosen, hc, hs⟩ := firstUntried_spec (s := s) (d := d) hremedies
  have hsel : s.select d history = .ok (chosen.getD Remedy.lastResort) := by
    unfold select
    dsimp only
    rw [firstUntried_known h, hc]
    rfl
  refine ⟨_, hsel, ?_⟩
  cases chosen with
  | some r =>
    refine ⟨Diagnosis.remedies_proper hs.mem, fun _ => hs.append_right, ?_⟩
    exact fun hm => absurd hm hs.fresh
  | none =>
    refine ⟨.forceInstall, fun hn => .append_left hs (.head hn), ?_⟩
    exact fun hm => List.forall_mem_append.mpr ⟨hs, List.forall_mem_singleton.mpr hm⟩

end Rotation

/-! ## The candidates of a run -/

open Rotation (entry IsFirstUntried)

/-- The remedies for a fault in the order in which a run tries them: the best one that its memory
knows, those the diagnosis calls for, and the last resort. -/
def Memory.candidates (m : Memory) (repo : String) (now : Timestamp) (d : Diagnosis) :
    List Remedy :=
  (m.best repo d.pattern now).toList ++ d.remedies ++ [Remedy.lastResort]

variable {m : Memory} {repo : String} {now : Timestamp} {d : Diagnosis} {r : Remedy}

theorem Memory.Proper.candidates (h : m.Proper) : ∀ r ∈ m.candidates repo now d, r.Proper := by
  intro r hr
  simp only [Memory.candidates, List.mem_append, Option.mem_toList, List.mem_singleton] at hr
  rcases hr with (hr | hr) | rfl
  · exact h.best hr
  · exact Diagnosis.remedies_proper hr
  · exact .forceInstall

theorem Memory.candidates_opened (d : Diagnosis) :
    (m.opened repo now).candidates repo now d = m.candidates repo now d := by
  unfold candidates
  rw [best_opened]

namespace RepairState

variable {c : RepairContext} {s : RepairState}

/-- Once the remedy in the history was tried, the rotation gives the first untried remedy of those
that the diagnosis calls for and the last resort. -/
theorem fromRotation_spec (hm : s.memory.Proper)
    (hk : ∀ k, (s.memory.history c.repo c.now).remedyFor d.pattern = some k →
      entry d k ∈ s.rotation.tried) :
    ∃ chosen, s.fromRotation c d = .ok chosen ∧
      IsFirstUntried s.rotation.tried d (d.remedies ++ [Remedy.lastResort]) chosen := by
  obtain ⟨r, hsel, hr, hfresh, htried⟩ := Rotation.select_spec (s := s.rotation) (d := d)
    (some (s.memory.history c.repo c.now)) (fun k h => ⟨hm.remedyFor h, hk k h⟩)
  unfold fromRotation
  rw [hsel]
  dsimp only
  rcases Rotation.hasTried_cases (s := s.rotation) (d := d) hr with ⟨ht, hin⟩ | ⟨ht, hnot⟩
  · rw [ht]
    exact ⟨none, rfl, htried hin⟩
  · rw [ht]
    exact ⟨some r, rfl, hfresh hnot⟩

/-- A run chooses the first untried candidate. -/
theorem choose_spec (hm : s.memory.Proper) (d : Diagnosis) :
    ∃ chosen, s.choose c d = .ok chosen ∧
      IsFirstUntried s.rotation.tried d (s.memory.candidates c.repo c.now d)
        (chosen.map Prod.fst) := by
  have hflag (chosen : Option Remedy) : (chosen.map (·, false)).map Prod.fst = chosen := by
    simp [Option.map_map, Function.comp_def]
  -- the remedy in the history, if there is one, is the best one
  have hbest : ∀ k, (s.memory.history c.repo c.now).remedyFor d.pattern = some k →
      s.memory.best c.repo d.pattern c.now = some k := by
    intro k hk
    rw [Memory.best, hk]
    rfl
  unfold choose Memory.candidates
  cases hb : s.memory.best c.repo d.pattern c.now with
  | none =>
    obtain ⟨chosen, hc, hs⟩ := fromRotation_spec (c := c) (d := d) hm (by
      intro k hk
      cases hb.symm.trans (hbest k hk))
    dsimp only
    rw [hc]
    exact ⟨_, rfl, by rwa [hflag]⟩
  | some r =>
    dsimp only
    rcases Rotation.hasTried_cases (s := s.rotation) (d := d) (hm.best hb) with
      ⟨ht, hin⟩ | ⟨ht, hnot⟩
    · obtain ⟨chosen, hc, hs⟩ := fromRotation_spec (c := c) (d := d) hm (by
        intro k hk
        cases hb.symm.trans (hbest k hk)
        exact hin)
      rw [ht, hc]
      refine ⟨_, rfl, ?_⟩
      rw [hflag]
      exact hs.cons hin
    · rw [ht]
      exact ⟨some (r, true), rfl, .head hnot⟩

end RepairState

end BuildRepair
