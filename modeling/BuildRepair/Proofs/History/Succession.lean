import BuildRepair.Proofs.History.Room
import BuildRepair.Proofs.Lists

/-
  What a history amounts to after any number of successes. The fix for a fault sums up the last run
  of successes for that fault whose remedies are all of one shape (`Fix.SumsUp`): its remedy is the
  first of them, its count their number. A success that is recorded either continues that run or
  starts another one (`Fix.SumsUp.succeed`). Recording compares with the first remedy only; that is
  enough, since having one shape is an equivalence of proper remedies (`sameShape_iff`).
-/

namespace BuildRepair

/-- A remedy that worked for a fault of a repository at some time. -/
structure Success where
  repo : String
  pattern : String
  remedy : Remedy
  time : Timestamp

namespace Remedy

variable {q r s : Remedy}

/-- Remedies are of one shape if they are of one kind and act on one target. -/
theorem sameShape_iff (hq : q.Proper) (hr : r.Proper) :
    q.sameShape r = true ↔ q.kind = r.kind ∧ q.target.head? = r.target.head? := by
  cases hq <;> cases hr <;> simp [sameShape, kind, target, Json.equals, Json.isNan]

theorem sameShape_self (hr : r.Proper) : r.sameShape r = true :=
  (sameShape_iff hr hr).mpr ⟨rfl, rfl⟩

theorem sameShape_comm (hq : q.Proper) (hr : r.Proper) (h : q.sameShape r = true) :
    r.sameShape q = true := by
  rw [sameShape_iff hq hr] at h
  exact (sameShape_iff hr hq).mpr ⟨h.1.symm, h.2.symm⟩

theorem sameShape_trans (hq : q.Proper) (hr : r.Proper) (hs : s.Proper)
    (h : q.sameShape r = true) (h' : r.sameShape s = true) : q.sameShape s = true := by
  rw [sameShape_iff hq hr] at h
  rw [sameShape_iff hr hs] at h'
  exact (sameShape_iff hq hs).mpr ⟨h.1.trans h'.1, h.2.trans h'.2⟩

end Remedy

namespace Success

/-- Successes with remedies of one shape. -/
def Uniform (ss : List Success) : Prop :=
  ∀ a ∈ ss, ∀ b ∈ ss, a.remedy.sameShape b.remedy = true

/-- The longest uniform run that some successes end with. -/
structure IsLastRun (ss run : List Success) : Prop where
  suffix : run <:+ ss
  uniform : Uniform run
  longest : ∀ other, other <:+ ss → Uniform other → other.length ≤ run.length

variable {ss run : List Success} {s first : Success}

theorem filter_concat (key : Success → String) (k : String) : (ss ++ [s]).filter (key · == k) =
    if key s = k then ss.filter (key · == k) ++ [s] else ss.filter (key · == k) := by
  rw [List.filter_append]
  split <;> simp_all

theorem Uniform.left {other : List Success} (h : Uniform (run ++ other)) : Uniform run :=
  fun a ha b hb => h a (List.mem_append_left _ ha) b (List.mem_append_left _ hb)

theorem uniform_singleton (hs : s.remedy.Proper) : Uniform [s] := by
  intro a ha b hb
  rw [List.mem_singleton.mp ha, List.mem_singleton.mp hb]
  exact Remedy.sameShape_self hs

/-- A success of the shape of a run can stand at its end. -/
theorem Uniform.append (hrun : ∀ a ∈ run, a.remedy.Proper) (hs : s.remedy.Proper)
    (h : Uniform run) (hfirst : first ∈ run) (hsame : first.remedy.sameShape s.remedy = true) :
    Uniform (run ++ [s]) := by
  have hlast : ∀ a ∈ run, a.remedy.sameShape s.remedy = true := fun a ha =>
    Remedy.sameShape_trans (hrun a ha) (hrun first hfirst) hs (h a ha first hfirst) hsame
  intro a ha b hb
  rw [List.mem_append, List.mem_singleton] at ha hb
  rcases ha with ha | rfl
  · rcases hb with hb | rfl
    · exact h a ha b hb
    · exact hlast a ha
  · rcases hb with hb | rfl
    · exact Remedy.sameShape_comm (hrun b hb) hs (hlast b hb)
    · exact Remedy.sameShape_self hs

/-- A success of the shape of the last run continues it. -/
theorem IsLastRun.append (hss : ∀ a ∈ ss, a.remedy.Proper) (hs : s.remedy.Proper)
    (h : IsLastRun ss run) (hfirst : first ∈ run)
    (hsame : first.remedy.sameShape s.remedy = true) : IsLastRun (ss ++ [s]) (run ++ [s]) := by
  have hrun : ∀ a ∈ run, a.remedy.Proper := fun a ha => hss a (h.suffix.subset ha)
  refine ⟨?_, h.uniform.append hrun hs hfirst hsame, ?_⟩
  · exact List.suffix_concat_iff.mpr (.inr ⟨run, rfl, h.suffix⟩)
  · intro other hother huniform
    rcases List.suffix_concat_iff.mp hother with rfl | ⟨init, rfl, hinit⟩
    · exact Nat.zero_le _
    · have := h.longest init hinit huniform.left
      simpa using this

/-- A success of another shape starts a run. -/
theorem IsLastRun.restart (hss : ∀ a ∈ ss, a.remedy.Proper) (hs : s.remedy.Proper)
    (h : IsLastRun ss run) (hfirst : first ∈ run)
    (hother : first.remedy.sameShape s.remedy ≠ true) : IsLastRun (ss ++ [s]) [s] := by
  refine ⟨List.suffix_append .., uniform_singleton hs, ?_⟩
  intro other hsuffix huniform
  rcases List.suffix_concat_iff.mp hsuffix with rfl | ⟨init, rfl, hinit⟩
  · exact Nat.zero_le _
  · -- what stands before `s` in the other run would be of both shapes
    have hrun : ∀ a ∈ run, a.remedy.Proper := fun a ha => hss a (h.suffix.subset ha)
    have hle : init.length ≤ run.length := h.longest init hinit huniform.left
    have hpart : init <:+ run := List.suffix_of_suffix_length_le hinit h.suffix hle
    cases init with
    | nil => exact Nat.le_refl _
    | cons a rest =>
      have ha : a ∈ run := hpart.subset (List.mem_cons_self ..)
      have hsame : a.remedy.sameShape s.remedy = true := huniform a (by simp) s (by simp)
      have htrans := Remedy.sameShape_trans (hrun first hfirst) (hrun a ha) hs
        (h.uniform first hfirst a ha) hsame
      exact absurd htrans hother

end Success

open Success (IsLastRun)

/-! ## Fixes -/

namespace Fix

variable {f : Fix} {ss : List Success} {s : Success} {now : Timestamp}

/-- A fix that sums up successes for its fault: it has the remedy of the first success in the last
run of one shape, the length of that run and the time of its last success. -/
def SumsUp (f : Fix) (ss : List Success) : Prop :=
  ∃ first rest, IsLastRun ss (first :: rest) ∧ f.remedy = first.remedy ∧
    f.count = (first :: rest).length ∧
    f.lastUsed = ((first :: rest).getLast (List.cons_ne_nil first rest)).time

/-- The first success for a fault. -/
theorem sumsUp_one (hs : s.remedy.Proper) (pattern : Json) :
    SumsUp ⟨pattern, s.remedy, 1, s.time⟩ [s] := by
  refine ⟨s, [], ⟨List.suffix_rfl, Success.uniform_singleton hs, ?_⟩, rfl, rfl, rfl⟩
  intro other hother _
  exact hother.length_le

/-- One more success for a fault. -/
theorem SumsUp.succeed (hss : ∀ a ∈ ss, a.remedy.Proper) (hs : s.remedy.Proper)
    (h : f.SumsUp ss) : (f.succeed s.remedy s.time).SumsUp (ss ++ [s]) := by
  obtain ⟨first, rest, hrun, hremedy, hcount, -⟩ := h
  have hfirst : first ∈ first :: rest := List.mem_cons_self ..
  unfold Fix.succeed
  rw [hremedy]
  by_cases hsame : first.remedy.sameShape s.remedy = true
  · rw [if_pos hsame]
    refine ⟨first, rest ++ [s], hrun.append hss hs hfirst hsame, rfl, ?_, ?_⟩
    · show f.count + 1 = ((first :: (rest ++ [s])).length : Int)
      rw [hcount]
      simp
    · show s.time = ((first :: rest ++ [s]).getLast (by simp)).time
      rw [List.getLast_concat]
  · rw [if_neg hsame]
    exact ⟨s, [], hrun.restart hss hs hfirst hsame, rfl, rfl, rfl⟩

end Fix

/-! ## Histories -/

namespace History

variable {h : History} {fs : List Fix} {ss : List Success} {s : Success} {pattern : String}
  {r : Remedy} {now : Timestamp}

/-- A success for a fault that has one fix changes that fix. -/
theorem recordIn_of_mem (hmem : .str pattern ∈ fs.map (·.pattern))
    (hdistinct : (fs.map (·.pattern)).Nodup) : recordIn pattern r now fs =
      fs.map fun f => if f.pattern == .str pattern then f.succeed r now else f := by
  induction fs with
  | nil => cases hmem
  | cons f fs ih =>
    rw [List.map_cons, List.nodup_cons] at hdistinct
    rw [recordIn, List.map_cons]
    by_cases hf : (f.pattern == .str pattern) = true
    · have hrest : ∀ g ∈ fs, (if g.pattern == .str pattern then g.succeed r now else g) = g := by
        intro g hg
        refine if_neg fun hpattern => hdistinct.1 ?_
        rw [Json.beq_str_iff] at hf hpattern
        rw [hf, ← hpattern]
        exact List.mem_map_of_mem hg
      rw [if_pos hf, if_pos hf, List.map_congr_left hrest, List.map_id']
    · have hne : .str pattern ≠ f.pattern := fun h => hf (Json.beq_str_iff.mpr h.symm)
      have hrest : .str pattern ∈ fs.map (·.pattern) := (List.mem_cons.mp hmem).resolve_left hne
      rw [if_neg hf, if_neg hf, ih hrest hdistinct.2]

/-- A success for a fault that has no fix adds one. -/
theorem recordIn_of_not_mem (hmem : .str pattern ∉ fs.map (·.pattern)) :
    recordIn pattern r now fs = fs ++ [⟨.str pattern, r, 1, now⟩] := by
  induction fs with
  | nil => rfl
  | cons f fs ih =>
    rw [List.map_cons, List.mem_cons, not_or] at hmem
    have hf : ¬ (f.pattern == .str pattern) = true :=
      fun h => hmem.1 (Json.beq_str_iff.mp h).symm
    rw [recordIn, if_neg hf, ih hmem.2, List.cons_append]

/-- A history that sums up the successes for a repository: it has one fix for each fault, in the
order in which they first had a success, and the time of the last success. -/
structure SumsUp (h : History) (repo : String) (ss : List Success) : Prop where
  repo : h.repo = .str repo
  patterns : h.fixes.map (·.pattern) = (ss.map (·.pattern)).eraseDups.map .str
  fix : ∀ f ∈ h.fixes, ∀ p, f.pattern = .str p → f.SumsUp (ss.filter (·.pattern == p))
  lastRun : ∀ last ∈ ss.getLast?, h.lastRun = last.time

theorem sumsUp_empty (repo : String) (now : Timestamp) : (empty repo now).SumsUp repo [] :=
  ⟨rfl, rfl, by simp [empty], by simp⟩

variable {repo : String}

theorem SumsUp.distinct (hsum : h.SumsUp repo ss) : (h.fixes.map (·.pattern)).Nodup := by
  rw [hsum.patterns]
  exact (nodup_eraseDups _).map fun a b hab => Json.str.inj hab

theorem SumsUp.mem_patterns (hsum : h.SumsUp repo ss) :
    .str pattern ∈ h.fixes.map (·.pattern) ↔ pattern ∈ ss.map (·.pattern) := by
  rw [hsum.patterns]
  simp

/-- The fixes after a success that was recorded sum up the successes for their faults. -/
theorem SumsUp.recordIn_fix (hss : ∀ a ∈ ss, a.remedy.Proper) (hs : s.remedy.Proper)
    (hsum : h.SumsUp repo ss) :
    ∀ f ∈ recordIn s.pattern s.remedy s.time h.fixes, ∀ p, f.pattern = .str p →
      f.SumsUp ((ss ++ [s]).filter (·.pattern == p)) := by
  intro f hf p hp
  have hproper : ∀ a ∈ ss.filter (·.pattern == p), a.remedy.Proper :=
    fun a ha => hss a (List.mem_filter.mp ha).1
  rw [Success.filter_concat Success.pattern]
  by_cases hmem : .str s.pattern ∈ h.fixes.map (·.pattern)
  · rw [recordIn_of_mem hmem hsum.distinct, List.mem_map] at hf
    obtain ⟨g, hg, rfl⟩ := hf
    by_cases hpattern : (g.pattern == .str s.pattern) = true
    · rw [if_pos hpattern] at hp ⊢
      rw [pattern_succeed] at hp
      rw [Json.beq_str_iff, hp] at hpattern
      rw [if_pos (Json.str.inj hpattern).symm]
      exact (hsum.fix g hg p hp).succeed hproper hs
    · rw [if_neg hpattern] at hp ⊢
      rw [Json.beq_str_iff, hp] at hpattern
      rw [if_neg fun h => hpattern (congrArg Json.str h.symm)]
      exact hsum.fix g hg p hp
  · rw [recordIn_of_not_mem hmem, List.mem_append, List.mem_singleton] at hf
    rcases hf with hf | rfl
    · have hother : s.pattern ≠ p := fun h => hmem (h ▸ hp ▸ List.mem_map_of_mem hf)
      rw [if_neg hother]
      exact hsum.fix f hf p hp
    · have hnone : ss.filter (·.pattern == p) = [] := by
        rw [hsum.mem_patterns, Json.str.inj hp] at hmem
        simpa [List.filter_eq_nil_iff] using hmem
      rw [if_pos (Json.str.inj hp), hnone]
      exact Fix.sumsUp_one hs _

/-- One more success for the repository. -/
theorem SumsUp.record (hss : ∀ a ∈ ss, a.remedy.Proper) (hs : s.remedy.Proper)
    (hsum : h.SumsUp repo ss) : (h.record s.pattern s.remedy s.time).SumsUp repo (ss ++ [s]) := by
  refine ⟨hsum.repo, ?_, hsum.recordIn_fix hss hs, by simp [History.record]⟩
  show (recordIn s.pattern s.remedy s.time h.fixes).map (·.pattern) = _
  rw [List.map_append, List.map_singleton, eraseDups_concat]
  by_cases hmem : .str s.pattern ∈ h.fixes.map (·.pattern)
  · rw [if_pos (hsum.mem_patterns.mp hmem), recordIn_of_mem hmem hsum.distinct, ← hsum.patterns,
      List.map_map]
    refine List.map_congr_left fun f _ => ?_
    show (if f.pattern == .str s.pattern then f.succeed s.remedy s.time else f).pattern = f.pattern
    split
    · exact pattern_succeed f s.remedy s.time
    · rfl
  · rw [if_neg (fun hold => hmem (hsum.mem_patterns.mpr hold)), recordIn_of_not_mem hmem,
      List.map_append, List.map_append, hsum.patterns]
    rfl

end History

/-! ## Memories -/

namespace Memory

variable {m : Memory}

/-- The memory after successes were recorded one after the other. -/
def recordEach (m : Memory) (ss : List Success) : Memory :=
  ss.foldl (fun m s => m.record s.repo s.pattern s.remedy s.time) m

theorem recordEach_concat (m : Memory) (ss : List Success) (s : Success) :
    m.recordEach (ss ++ [s]) = (m.recordEach ss).record s.repo s.pattern s.remedy s.time := by
  unfold recordEach
  rw [List.foldl_append]
  rfl

/-- A success for one repository leaves the histories of the others. -/
theorem find?_record (m : Memory) (s : Success) {other : String} (ho : other ≠ s.repo) :
    Assoc.find? other (m.record s.repo s.pattern s.remedy s.time).histories =
      Assoc.find? other m.histories := by
  show Assoc.find? other (Assoc.put s.repo _ m.histories) = _
  rw [Assoc.find?_put]
  simp [Ne.symm ho]

/-- However successes for any repositories and faults are recorded one after the other where no
history is remembered, the history of each repository sums up its own successes. A success for one
repository leaves the history of every other one as it is, whatever is remembered. -/
theorem recordEach_sumsUp (m : Memory) (hm : m.histories = []) (ss : List Success)
    (hss : ∀ s ∈ ss, s.remedy.Proper) :
    (∀ repo now, ((m.recordEach ss).history repo now).SumsUp repo (ss.filter (·.repo == repo))) ∧
    ∀ (n : Memory) (s : Success) (other : String), other ≠ s.repo →
      Assoc.find? other (n.record s.repo s.pattern s.remedy s.time).histories =
        Assoc.find? other n.histories := by
  refine ⟨?_, fun n s other ho => find?_record n s ho⟩
  induction ss using List.reverseRecOn with
  | nil =>
    intro repo now
    have hempty : (m.recordEach []).history repo now = .empty repo now := by
      show (Assoc.find? repo m.histories).getD _ = _
      rw [hm]
      rfl
    rw [hempty]
    exact History.sumsUp_empty repo now
  | append_singleton ss s ih =>
    intro repo now
    rw [List.forall_mem_append, List.forall_mem_singleton] at hss
    have hrecord : ((m.recordEach ss).record s.repo s.pattern s.remedy s.time).history repo now =
        if s.repo = repo then
          ((m.recordEach ss).history s.repo s.time).record s.pattern s.remedy s.time
        else (m.recordEach ss).history repo now := history_put repo
    rw [recordEach_concat, hrecord, Success.filter_concat Success.repo]
    split
    · next hrepo =>
      subst hrepo
      exact (ih hss.1 s.repo s.time).record (fun a ha => hss.1 a (List.mem_filter.mp ha).1) hss.2
    · exact ih hss.1 repo now

/-- Successes for one fault of two repositories. -/
def mixed : List Success := [
  ⟨"a", "p", .removePackage (.str "q"), .default⟩,
  ⟨"b", "p", .forceInstall, .default⟩,
  ⟨"a", "p", .adjustVersion (.str "q") (.str "1"), .default⟩,
  ⟨"a", "p", .adjustVersion (.str "q") (.str "2"), .default⟩]

/-- The first repository has one fix, for the two adjustments. -/
theorem mixed_sumsUp : (∀ s ∈ mixed, s.remedy.Proper) ∧
    ((({} : Memory).recordEach mixed).history "a" .default).fixes.map (·.count) = [2] ∧
    ((({} : Memory).recordEach mixed).history "a" .default).SumsUp "a"
      (mixed.filter (·.repo == "a")) := by
  have hproper : ∀ s ∈ mixed, s.remedy.Proper := by
    unfold mixed
    simp only [List.forall_mem_cons, List.not_mem_nil, false_imp_iff, implies_true, and_true]
    exact ⟨.removePackage "q", .forceInstall, .adjustVersion "q" "1", .adjustVersion "q" "2"⟩
  exact ⟨hproper, by decide, (recordEach_sumsUp {} rfl mixed hproper).1 "a" .default⟩

end Memory
end BuildRepair
