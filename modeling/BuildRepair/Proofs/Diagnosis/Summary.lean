import BuildRepair.Diagnosis.Report
import BuildRepair.Proofs.Lists

/-
  What a report says about a build log (`ofLog_reports`). It has one diagnosis for each pattern that
  a block of the log shows, which is that of the first such block, but with the conflicts of all of
  them. The most urgent come first, those of one priority in the order of their first blocks.

  Merging is followed one diagnosis after the other: each pattern so far has the diagnosis that sums
  up those of this pattern (`SumsUp`), and a later one is absorbed (`SumsUp.absorb`).
-/

namespace BuildRepair.Diagnosis

variable {ds known : List Diagnosis} {d e first later : Diagnosis} {package : String}

/-- The packages that a diagnosis names as in conflict. -/
def conflicting (d : Diagnosis) : List String := d.conflicts.getD []

/-- A diagnosis with the conflicts of another one. -/
def withConflictsOf (d e : Diagnosis) : Diagnosis := { d with conflicts := e.conflicts }

@[simp]
theorem withConflictsOf_pattern (d e : Diagnosis) : (d.withConflictsOf e).pattern = d.pattern := rfl

/-! ## Merging diagnoses of one pattern -/

/-- Packages are added to others unless they are there already. -/
theorem mem_foldl_addNew (more names : List String) :
    package ∈ more.foldl (fun known p => if known.contains p then known else known ++ [p]) names ↔
      package ∈ names ∨ package ∈ more := by
  induction more generalizing names with
  | nil => simp
  | cons p more ih =>
    rw [List.foldl_cons, ih]
    split
    · next hp =>
      rw [List.contains_iff_mem] at hp
      grind
    · simp only [List.mem_append, List.mem_cons]
      tauto

theorem absorb_eq (first later : Diagnosis) :
    absorb first later = first.withConflictsOf (absorb first later) := by
  unfold absorb
  split <;> rfl

theorem absorb_pattern (first later : Diagnosis) :
    (absorb first later).pattern = first.pattern := by
  rw [absorb_eq, withConflictsOf_pattern]

theorem mem_absorb : package ∈ (absorb first later).conflicting ↔
    package ∈ first.conflicting ∨ package ∈ later.conflicting := by
  unfold absorb
  split
  · next hnone => simp [conflicting, hnone]
  · next hnil => simp [conflicting, hnil]
  · next more _ hmore =>
    show package ∈ more.foldl _ first.conflicting ↔ _
    rw [mem_foldl_addNew]
    simp [conflicting, hmore]

/-- A diagnosis that sums up several: the first of them, with the conflicts of all. -/
structure SumsUp (d : Diagnosis) (ds : List Diagnosis) : Prop where
  first : ∃ first ∈ ds.head?, d = first.withConflictsOf d
  conflicts : ∀ package, package ∈ d.conflicting ↔ ∃ e ∈ ds, package ∈ e.conflicting

theorem sumsUp_singleton (d : Diagnosis) : d.SumsUp [d] := ⟨⟨d, rfl, rfl⟩, by simp⟩

theorem SumsUp.absorb (h : d.SumsUp ds) (e : Diagnosis) : (absorb d e).SumsUp (ds ++ [e]) := by
  obtain ⟨first, hfirst, hd⟩ := h.first
  refine ⟨⟨first, ?_, ?_⟩, ?_⟩
  · rw [List.head?_append, Option.mem_def.mp hfirst]
    rfl
  · have hmerged : d.withConflictsOf (Diagnosis.absorb d e) =
        first.withConflictsOf (Diagnosis.absorb d e) := by
      rw [hd]
      rfl
    rw [← hmerged]
    exact absorb_eq d e
  · intro package
    rw [mem_absorb, h.conflicts]
    simp [or_and_right, exists_or]

/-! ## One diagnosis for each pattern -/

/-- The diagnoses of a pattern. -/
def ofPattern (p : String) (ds : List Diagnosis) : List Diagnosis := ds.filter (·.pattern == p)

theorem ofPattern_concat (p : String) (ds : List Diagnosis) (e : Diagnosis) :
    ofPattern p (ds ++ [e]) =
      if e.pattern = p then ofPattern p ds ++ [e] else ofPattern p ds := by
  unfold ofPattern
  rw [List.filter_append]
  split <;> simp_all

theorem merge_patterns (known : List Diagnosis) (e : Diagnosis) :
    (merge known e).map pattern = if e.pattern ∈ known.map pattern then known.map pattern
      else known.map pattern ++ [e.pattern] := by
  have hany : known.any (·.pattern == e.pattern) = true ↔ e.pattern ∈ known.map pattern := by
    simp [List.any_eq_true, List.mem_map]
  unfold merge
  split
  · next h =>
    rw [if_pos (hany.mp h), List.map_map]
    refine List.map_congr_left fun k _ => ?_
    show (if k.pattern == e.pattern then absorb k e else k).pattern = k.pattern
    split
    · exact absorb_pattern k e
    · rfl
  · next h =>
    rw [if_neg fun hmem => h (hany.mpr hmem), List.map_append]
    rfl

theorem distinct_concat (ds : List Diagnosis) (e : Diagnosis) :
    distinct (ds ++ [e]) = merge (distinct ds) e := by
  unfold distinct
  rw [List.foldl_append]
  rfl

theorem distinct_patterns (ds : List Diagnosis) :
    (distinct ds).map pattern = (ds.map pattern).eraseDups := by
  induction ds using List.reverseRecOn with
  | nil => rfl
  | append_singleton ds e ih =>
    rw [distinct_concat, merge_patterns, ih, List.map_append, List.map_singleton, eraseDups_concat]
    simp only [List.mem_eraseDups]

/-- Each diagnosis that is left sums up those of its pattern. -/
theorem distinct_sumsUp (ds : List Diagnosis) :
    ∀ d ∈ distinct ds, d.SumsUp (ofPattern d.pattern ds) := by
  induction ds using List.reverseRecOn with
  | nil => exact fun d hd => absurd hd List.not_mem_nil
  | append_singleton ds e ih =>
    intro d hd
    have hpatterns : ∀ p, p ∈ (distinct ds).map pattern ↔ p ∈ ds.map pattern := by
      intro p
      rw [distinct_patterns, List.mem_eraseDups]
    rw [distinct_concat] at hd
    rw [ofPattern_concat]
    unfold merge at hd
    split at hd
    · obtain ⟨k, hk, rfl⟩ := List.mem_map.mp hd
      by_cases hke : k.pattern = e.pattern
      · have hk' : (if k.pattern == e.pattern then absorb k e else k) = absorb k e :=
          if_pos (beq_iff_eq.mpr hke)
        rw [hk', absorb_pattern, if_pos hke.symm]
        exact (ih k hk).absorb e
      · have hk' : (if k.pattern == e.pattern then absorb k e else k) = k :=
          if_neg (mt beq_iff_eq.mp hke)
        rw [hk', if_neg (Ne.symm hke)]
        exact ih k hk
    · next hnew =>
      have hnone : e.pattern ∉ ds.map pattern := by
        rw [← hpatterns]
        simpa [List.mem_map] using hnew
      rcases List.mem_append.mp hd with hd | hd
      · have hne : e.pattern ≠ d.pattern := by
          intro h
          rw [h, ← hpatterns] at hnone
          exact hnone (List.mem_map_of_mem hd)
        rw [if_neg hne]
        exact ih d hd
      · obtain rfl := List.mem_singleton.mp hd
        have hnil : ofPattern d.pattern ds = [] := by
          unfold ofPattern
          rw [List.filter_eq_nil_iff]
          intro k hk hkd
          exact hnone (List.mem_map.mpr ⟨k, hk, beq_iff_eq.mp hkd⟩)
        rw [if_pos rfl, hnil]
        exact sumsUp_singleton d

/-! ## The report of a log -/

/-- Where the first block of a pattern stands. -/
def firstAt (blocks : List (List Char)) (p : String) : Nat :=
  (blocks.map fun b => (ofMessage b).pattern).idxOf p

/-- What a report says about the blocks of a log. -/
structure IsReportOf (blocks : List (List Char)) (ds : List Diagnosis) : Prop where
  /-- No pattern is reported twice. -/
  distinct : (ds.map pattern).Nodup
  /-- Every pattern of a block is reported, and no other. -/
  complete : ∀ p, p ∈ ds.map pattern ↔ ∃ b ∈ blocks, (ofMessage b).pattern = p
  /-- But for its conflicts, a diagnosis is that of the first block of its pattern. -/
  first : ∀ d ∈ ds, ∃ b ∈ blocks.find? fun b => (ofMessage b).pattern == d.pattern,
    d = (ofMessage b).withConflictsOf d
  /-- A diagnosis has the conflicts of all blocks of its pattern. -/
  conflicts : ∀ d ∈ ds, ∀ package, package ∈ d.conflicting ↔
    ∃ b ∈ blocks, (ofMessage b).pattern = d.pattern ∧ package ∈ (ofMessage b).conflicting
  /-- The most urgent come first, and of those that are as urgent the one with the first block. -/
  ordered : ds.Pairwise fun d e => e.category.priority < d.category.priority ∨
    e.category.priority = d.category.priority ∧ firstAt blocks d.pattern < firstAt blocks e.pattern
  /-- So the first one is that of the first block of the highest priority. -/
  urgent : ∀ d ∈ ds.head?, ∃ before b after, blocks = before ++ b :: after ∧
    d = (ofMessage b).withConflictsOf d ∧
    (∀ c ∈ before, (ofMessage c).priority < d.priority) ∧
    ∀ c ∈ after, (ofMessage c).priority ≤ d.priority

theorem ofMessage_priority (b : List Char) :
    (ofMessage b).priority = (ofMessage b).category.priority := rfl

theorem colon_not_mem_name (c : Category) : ':' ∉ c.name.toList := by
  cases c <;> decide

/-- Diagnoses of one pattern are of one category. -/
theorem category_eq_of_pattern (h : d.pattern = e.pattern) : d.category = e.category := by
  have hname : ∀ d : Diagnosis, d.pattern.toList.takeWhile (· != ':') = d.category.name.toList := by
    intro d
    have hall : ∀ c ∈ d.category.name.toList, (c != ':') = true := by
      intro c hc
      rw [bne_iff_ne]
      rintro rfl
      exact colon_not_mem_name _ hc
    unfold pattern
    rw [String.toList_append, String.toList_append, List.append_assoc,
      List.takeWhile_append_of_pos hall]
    show d.category.name.toList ++ [] = _
    rw [List.append_nil]
  have hnames : d.category.name = e.category.name := by
    rw [← String.toList_inj, ← hname, ← hname, h]
  have hsome := congrArg Category.ofName? hnames
  rw [Category.ofName?_name, Category.ofName?_name] at hsome
  exact Option.some.inj hsome

variable {blocks : List (List Char)}

theorem mem_byPriority : d ∈ byPriority ds ↔ d ∈ ds := List.mem_mergeSort

/-- But for its conflicts, a diagnosis is that of the first block of its pattern. -/
theorem first_of_distinct (hd : d ∈ distinct (blocks.map ofMessage)) :
    ∃ b ∈ blocks.find? fun b => (ofMessage b).pattern == d.pattern,
      d = (ofMessage b).withConflictsOf d := by
  obtain ⟨first, hfirst, hsum⟩ := (distinct_sumsUp _ d hd).first
  unfold ofPattern at hfirst
  rw [List.head?_filter, List.find?_map, Option.mem_def, Option.map_eq_some_iff] at hfirst
  obtain ⟨b, hb, rfl⟩ := hfirst
  exact ⟨b, hb, hsum⟩

theorem priority_of_distinct (hd : d ∈ distinct (blocks.map ofMessage)) :
    d.priority = d.category.priority := by
  obtain ⟨b, -, hsum⟩ := first_of_distinct hd
  rw [hsum]
  rfl

theorem distinct_firstAt (blocks : List (List Char)) :
    (distinct (blocks.map ofMessage)).Pairwise fun d e =>
      firstAt blocks d.pattern < firstAt blocks e.pattern := by
  have h := pairwise_idxOf_eraseDups ((blocks.map ofMessage).map pattern)
  rw [← distinct_patterns, List.pairwise_map, List.map_map] at h
  exact h

theorem byPriority_ordered (blocks : List (List Char)) :
    (byPriority (distinct (blocks.map ofMessage))).Pairwise fun d e =>
      e.category.priority < d.category.priority ∨
      e.category.priority = d.category.priority ∧
        firstAt blocks d.pattern < firstAt blocks e.pattern := by
  have htrans : ∀ a b c : Diagnosis, decide (b.priority ≤ a.priority) = true →
      decide (c.priority ≤ b.priority) = true → decide (c.priority ≤ a.priority) = true := by
    simp only [decide_eq_true_eq]
    intro a b c hab hbc
    omega
  have htotal : ∀ a b : Diagnosis,
      (decide (b.priority ≤ a.priority) || decide (a.priority ≤ b.priority)) = true := by
    simp only [Bool.or_eq_true, decide_eq_true_eq]
    intro a b
    omega
  have hsorted := pairwise_mergeSort_stable htrans htotal (distinct_firstAt blocks)
  refine hsorted.imp_of_mem ?_
  intro d e hd he hde
  rw [← priority_of_distinct (mem_byPriority.mp hd), ← priority_of_distinct (mem_byPriority.mp he)]
  simp only [decide_eq_true_eq] at hde
  rcases Int.lt_or_eq_of_le hde.1 with hlt | heq
  · exact .inl hlt
  · exact .inr ⟨heq, hde.2 (Int.le_of_eq heq.symm)⟩

/-- Blocks before the first one of a pattern have other patterns, and these stand before it. -/
theorem firstAt_lt {before after : List (List Char)} {b c : List Char} (hc : c ∈ before)
    (hb : ∀ a ∈ before, (ofMessage a).pattern ≠ (ofMessage b).pattern) :
    firstAt (before ++ b :: after) (ofMessage c).pattern <
      firstAt (before ++ b :: after) (ofMessage b).pattern := by
  have hmem : (ofMessage c).pattern ∈ before.map fun b => (ofMessage b).pattern :=
    List.mem_map_of_mem hc
  have hnot : (ofMessage b).pattern ∉ before.map fun b => (ofMessage b).pattern := by
    intro h
    obtain ⟨a, ha, hab⟩ := List.mem_map.mp h
    exact hb a ha hab
  unfold firstAt
  rw [List.map_append, List.idxOf_append_of_mem hmem, List.idxOf_append_of_notMem hnot]
  have := List.idxOf_lt_length_iff.mpr hmem
  omega

/-- The first of an ordered report is the first block of the highest priority. -/
theorem head_urgent (hpatterns : ∀ b ∈ blocks, ∃ e ∈ ds, e.pattern = (ofMessage b).pattern)
    (hfirst : ∀ d ∈ ds, ∃ b ∈ blocks.find? fun b => (ofMessage b).pattern == d.pattern,
      d = (ofMessage b).withConflictsOf d)
    (hordered : ds.Pairwise fun d e => e.category.priority < d.category.priority ∨
      e.category.priority = d.category.priority ∧
        firstAt blocks d.pattern < firstAt blocks e.pattern) (hd : d ∈ ds.head?) :
    ∃ before b after, blocks = before ++ b :: after ∧ d = (ofMessage b).withConflictsOf d ∧
      (∀ c ∈ before, (ofMessage c).priority < d.priority) ∧
      ∀ c ∈ after, (ofMessage c).priority ≤ d.priority := by
  obtain ⟨rest, rfl⟩ : ∃ rest, ds = d :: rest := ⟨_, (List.cons_head?_tail hd).symm⟩
  obtain ⟨b, hb, hdb⟩ := hfirst d (List.mem_cons_self ..)
  obtain ⟨hbd, before, after, hblocks, hbefore⟩ := List.find?_eq_some_iff_append.mp hb
  rw [beq_iff_eq] at hbd
  have hnot : ∀ a ∈ before, (ofMessage a).pattern ≠ (ofMessage b).pattern := by
    intro a ha
    rw [hbd]
    simpa using hbefore a ha
  have hpriority : d.priority = d.category.priority := by
    rw [hdb]
    rfl
  -- the diagnosis of any other block is the first one or comes after it
  have hother : ∀ c ∈ blocks, (ofMessage c).pattern = d.pattern ∨
      (ofMessage c).priority < d.priority ∨ (ofMessage c).priority = d.priority ∧
        firstAt blocks d.pattern < firstAt blocks (ofMessage c).pattern := by
    intro c hc
    obtain ⟨e, he, hec⟩ := hpatterns c hc
    rcases List.mem_cons.mp he with rfl | he
    · exact .inl hec.symm
    · rw [ofMessage_priority, ← category_eq_of_pattern hec, ← hec, hpriority]
      exact .inr (List.rel_of_pairwise_cons hordered he)
  refine ⟨before, b, after, hblocks, hdb, ?_, ?_⟩
  · intro c hc
    have hearlier : firstAt (before ++ b :: after) (ofMessage c).pattern <
        firstAt (before ++ b :: after) (ofMessage b).pattern := firstAt_lt hc hnot
    rw [← hblocks, hbd] at hearlier
    rcases hother c (by simp [hblocks, hc]) with hsame | hlt | ⟨-, hlater⟩
    · exact absurd (hsame.trans hbd.symm) (hnot c hc)
    · exact hlt
    · omega
  · intro c hc
    rcases hother c (by simp [hblocks, hc]) with hsame | hlt | ⟨heq, -⟩
    · have heq : (ofMessage c).priority = d.priority := by
        rw [ofMessage_priority, category_eq_of_pattern hsame, hpriority]
      exact Int.le_of_eq heq
    · exact Int.le_of_lt hlt
    · exact Int.le_of_eq heq

/-- The patterns of a report are those of the blocks that are not mere progress. -/
theorem mem_patterns_ofLog {log : List Char} {p : String} : p ∈ (ofLog log).map pattern ↔
    ∃ b ∈ messages log, isProgress b = false ∧ (ofMessage b).pattern = p := by
  have hperm := (List.mergeSort_perm (distinct (((messages log).filter (!isProgress ·)).map ofMessage))
    fun a b => decide (b.priority ≤ a.priority)).map pattern
  unfold ofLog byPriority
  rw [hperm.mem_iff, distinct_patterns, List.mem_eraseDups, List.map_map, List.mem_map]
  simp only [List.mem_filter, Bool.not_eq_true', Function.comp_apply, and_assoc]

/-- The report of a log has one diagnosis for each pattern of the blocks that are not mere progress,
with what all blocks of this pattern say, the most urgent first. -/
theorem ofLog_reports (log : List Char) :
    IsReportOf ((messages log).filter (!isProgress ·)) (ofLog log) := by
  generalize hblocks : (messages log).filter (!isProgress ·) = blocks
  have hlog : ofLog log = byPriority (distinct (blocks.map ofMessage)) := by
    rw [← hblocks]
    rfl
  have hpatterns : ∀ p, p ∈ (distinct (blocks.map ofMessage)).map pattern ↔
      ∃ b ∈ blocks, (ofMessage b).pattern = p := by
    intro p
    rw [distinct_patterns, List.mem_eraseDups, List.map_map, List.mem_map]
    rfl
  have hperm : (byPriority (distinct (blocks.map ofMessage))).map pattern |>.Perm
      ((distinct (blocks.map ofMessage)).map pattern) := (List.mergeSort_perm _ _).map pattern
  have hfirst : ∀ d ∈ byPriority (distinct (blocks.map ofMessage)), _ :=
    fun d hd => first_of_distinct (mem_byPriority.mp hd)
  have hordered := byPriority_ordered blocks
  rw [hlog]
  refine ⟨?_, ?_, hfirst, ?_, hordered, ?_⟩
  · rw [hperm.nodup_iff, distinct_patterns]
    exact nodup_eraseDups _
  · intro p
    rw [hperm.mem_iff, hpatterns]
  · intro d hd package
    rw [(distinct_sumsUp _ d (mem_byPriority.mp hd)).conflicts]
    simp [ofPattern, and_assoc]
  · intro d hd
    refine head_urgent ?_ hfirst hordered hd
    intro b hb
    obtain ⟨e, he, heb⟩ := List.mem_map.mp ((hpatterns _).mpr ⟨b, hb, rfl⟩)
    exact ⟨e, mem_byPriority.mpr he, heb⟩

end BuildRepair.Diagnosis
