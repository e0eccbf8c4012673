import BuildRepair.Proofs.Diagnosis.MissingModule
import BuildRepair.Proofs.Diagnosis.Summary
import BuildRepair.Proofs.Text.Searching
import Mathlib.Data.Option.Basic

/-
  Which blocks of a log share a diagnosis (`ofLog_merges`). Blocks are merged by their pattern, a text
  made of category and package. No extracted name is empty (`mention_named`), so two patterns agree
  exactly if category and package do, but for one case (`pattern_eq_iff`): a fault of no known package
  has the pattern of a fault of the package called `none` (`noneLog_merged`).

  The blocks that went into a diagnosis are followed beside it (`grouped`), and without them grouping
  is merging (`diagnosis_grouped`).
-/

namespace BuildRepair

open Text

variable {α : Type} {s r name : List Char} {m : PackageMention}

/-! ## Names that are extracted -/

theorem ofList_ne_empty {l : List Char} (h : l ≠ []) : String.ofList l ≠ "" := by
  intro hempty
  exact h (by simpa using congrArg String.toList hempty)

theorem orElse_eq_some {a b : Option α} {x : α} (h : (a <|> b) = some x) :
    a = some x ∨ b = some x := by
  cases a with
  | none => exact .inr h
  | some y => exact .inl h

theorem nameAt_ne_nil (h : nameAt s = some (name, r)) : name ≠ [] := by
  unfold nameAt at h
  split at h
  · obtain ⟨⟨scope, _⟩, -, h⟩ := Option.bind_eq_some_iff.mp h
    obtain ⟨_, -, h⟩ := Option.bind_eq_some_iff.mp h
    obtain ⟨⟨last, _⟩, -, h⟩ := Option.bind_eq_some_iff.mp h
    cases h
    simp
  · exact (run_eq_some h).2

theorem versionedName_named (h : versionedName s = some m) : m.name ≠ "" := by
  obtain ⟨⟨name, _⟩, hname, h⟩ := Option.bind_eq_some_iff.mp h
  obtain ⟨_, -, h⟩ := Option.bind_eq_some_iff.mp h
  obtain ⟨_, -, h⟩ := Option.bind_eq_some_iff.mp h
  cases h
  exact ofList_ne_empty (nameAt_ne_nil hname)

theorem afterPeer_eq_some {scan : List Char → Option α} {a : α} (h : afterPeer scan s = some a) :
    ∃ t, scan t = some a := by
  rcases orElse_eq_some h with h | h
  · obtain ⟨_, -, h⟩ := Option.bind_eq_some_iff.mp h
    obtain ⟨t, -, h⟩ := Option.bind_eq_some_iff.mp h
    exact ⟨t, h⟩
  · exact ⟨s, h⟩

theorem unresolved_eq_some (h : unresolved s = some m) : ∃ t, versionedName t = some m := by
  rcases orElse_eq_some h with h | h
  · obtain ⟨_, -, h⟩ := Option.bind_eq_some_iff.mp h
    rcases orElse_eq_some h with h | h
    · obtain ⟨_, -, h⟩ := Option.bind_eq_some_iff.mp h
      exact afterPeer_eq_some h
    · exact afterPeer_eq_some h
  · obtain ⟨_, -, h⟩ := Option.bind_eq_some_iff.mp h
    exact afterPeer_eq_some h

theorem versionMention_eq_some (h : versionMention s = some m) :
    ∃ t, versionedName t = some m := by
  rcases orElse_eq_some h with h | h
  · obtain ⟨t, -, h⟩ := exists_of_find h
    exact unresolved_eq_some h
  · obtain ⟨t, -, h⟩ := exists_of_find h
    exact ⟨t, h⟩

theorem versionMention_named (h : versionMention s = some m) : m.name ≠ "" := by
  obtain ⟨t, h⟩ := versionMention_eq_some h
  exact versionedName_named h

theorem peerLine_named (h : peerLine s = some m) : m.name ≠ "" := by
  unfold peerLine at h
  simp only [bind, Option.bind_eq_some_iff] at h
  obtain ⟨_, -, _, -, ⟨name, _⟩, hname, _, -, _, -, _, -, _, -, _, -, _, -, _, -, _, -, _, -, h⟩ := h
  cases h
  exact ofList_ne_empty (nameAt_ne_nil hname)

theorem peerMention_named (h : peerMention s = some m) : m.name ≠ "" := by
  rcases orElse_eq_some h with h | h
  · obtain ⟨t, -, h⟩ := exists_of_find h
    exact peerLine_named h
  · obtain ⟨mention, hmention, rfl⟩ := Option.map_eq_some_iff.mp h
    have hname : mention.name ≠ "" := versionMention_named hmention
    exact hname

theorem moduleMention_named (h : moduleMention s = some m) : m.name ≠ "" := by
  unfold moduleMention at h
  simp only [bind, Option.bind_eq_some_iff] at h
  obtain ⟨path, -, name, -, _, hguard, h⟩ := h
  cases h
  have hne : name.isEmpty = false := by
    simpa using (Option.guard_eq_some' _).mp hguard
  exact ofList_ne_empty (List.isEmpty_eq_false_iff.mp hne)

theorem builtName_ne_nil {before : Option Char} (h : builtName before s = some name) :
    name ≠ [] := by
  obtain ⟨_, -, h⟩ := Option.bind_eq_some_iff.mp h
  obtain ⟨word, -, h⟩ := List.exists_of_findSome?_eq_some h
  obtain ⟨_, -, h⟩ := Option.bind_eq_some_iff.mp h
  obtain ⟨_, -, h⟩ := Option.bind_eq_some_iff.mp h
  obtain ⟨⟨taken, _⟩, hrun, h⟩ := Option.bind_eq_some_iff.mp h
  cases h
  exact (run_eq_some hrun).2

theorem builtOnLine_ne_nil {before : Option Char} (h : builtOnLine before s = some name) :
    name ≠ [] := by
  induction s generalizing before with
  | nil => exact builtName_ne_nil h
  | cons c s ih =>
    unfold builtOnLine at h
    split at h
    · next hname =>
      cases h
      exact builtName_ne_nil hname
    · split at h
      · cases h
      · exact ih h

theorem failedFor_ne_nil (h : failedFor s = some name) : name ≠ [] := by
  unfold failedFor at h
  simp only [bind, Option.bind_eq_some_iff] at h
  obtain ⟨_, -, _, -, _, -, _, -, ⟨taken, _⟩, hrun, h⟩ := h
  cases h
  exact (run_eq_some hrun).2

theorem nativeMention_named (h : nativeMention s = some m) : m.name ≠ "" := by
  unfold nativeMention at h
  split at h
  · next name hname =>
    cases h
    rcases orElse_eq_some hname with hname | hname
    · obtain ⟨t, -, hname⟩ := exists_of_find hname
      obtain ⟨tool, -, hname⟩ := List.exists_of_findSome?_eq_some hname
      obtain ⟨_, -, hname⟩ := Option.bind_eq_some_iff.mp hname
      exact ofList_ne_empty (builtOnLine_ne_nil hname)
    · obtain ⟨t, -, hname⟩ := exists_of_find hname
      exact ofList_ne_empty (failedFor_ne_nil hname)
  · obtain ⟨known, hknown, rfl⟩ := Option.map_eq_some_iff.mp h
    have hnamed : ∀ known ∈ nativeModules, known ≠ "" := by decide
    exact hnamed known (List.mem_of_find?_eq_some hknown)

theorem withoutGitEnding_ne_nil (h : name ≠ []) : withoutGitEnding name ≠ [] := by
  unfold withoutGitEnding
  dsimp only
  split
  · next hstem =>
    rw [Bool.and_eq_true, Bool.not_eq_true', List.isEmpty_eq_false_iff] at hstem
    exact hstem.1
  · exact h

theorem hostedRepository_ne_nil (h : hostedRepository s = some name) : name ≠ [] := by
  unfold hostedRepository at h
  simp only [bind, Option.bind_eq_some_iff] at h
  obtain ⟨_, -, _, -, _, -, ⟨taken, _⟩, hrun, _, -, h⟩ := h
  cases h
  exact withoutGitEnding_ne_nil (run_eq_some hrun).2

theorem gitFailedFor_ne_nil (h : gitFailedFor s = some name) : name ≠ [] := by
  unfold gitFailedFor at h
  simp only [bind, Option.bind_eq_some_iff] at h
  obtain ⟨_, -, _, -, _, -, _, -, ⟨taken, _⟩, hrun, h⟩ := h
  cases h
  exact (run_eq_some hrun).2

theorem gitMention_named (h : gitMention s = some m) : m.name ≠ "" := by
  obtain ⟨name, hname, rfl⟩ := Option.map_eq_some_iff.mp h
  rcases orElse_eq_some hname with hname | hname
  · obtain ⟨t, -, hname⟩ := exists_of_find hname
    exact ofList_ne_empty (hostedRepository_ne_nil hname)
  · obtain ⟨t, -, hname⟩ := exists_of_find hname
    exact ofList_ne_empty (gitFailedFor_ne_nil hname)

/-- A message that tells a package names it. -/
theorem mention_named {category : Category} (h : mention category s = some m) : m.name ≠ "" := by
  cases category with
  | notFound => exact moduleMention_named h
  | versionConflict => exact versionMention_named h
  | peerConflict => exact peerMention_named h
  | nativeModule => exact nativeMention_named h
  | gitDependency => exact gitMention_named h
  | lockfileConflict | syntaxFault | typeFault | unknown => cases h

namespace Diagnosis

variable {d e : Diagnosis} {b c : List Char} {blocks : List (List Char)}

theorem ofMessage_named (b : List Char) : (ofMessage b).package ≠ some "" := by
  intro h
  obtain ⟨m, hm, hname⟩ := Option.map_eq_some_iff.mp (show (mention _ b).map _ = some "" from h)
  exact mention_named hm hname

/-! ## Patterns and keys -/

/-- Keys with one pattern: the same key, or a fault of no known package and one of the package called
`none`. -/
def Key.Alike (k l : Key) : Prop :=
  k.category = l.category ∧ (k.package = l.package ∨
    k.package = none ∧ l.package = some "none" ∨ k.package = some "none" ∧ l.package = none)

theorem pattern_eq_iff (hd : d.package ≠ some "") (he : e.package ≠ some "") :
    d.pattern = e.pattern ↔ d.key.Alike e.key := by
  have hnamed : ∀ d : Diagnosis, d.package ≠ some "" → d.namedPackage = d.package := by
    intro d hd
    unfold namedPackage
    cases hpackage : d.package with
    | none => rfl
    | some p =>
      have hp : p ≠ "" := by
        rintro rfl
        exact hd hpackage
      simp [hp]
  have hnames : d.package.getD "none" = e.package.getD "none" ↔ d.package = e.package ∨
      d.package = none ∧ e.package = some "none" ∨ d.package = some "none" ∧ e.package = none := by
    cases d.package <;> cases e.package <;> simp [eq_comm]
  have hpatterns : d.category = e.category →
      (d.pattern = e.pattern ↔ d.package.getD "none" = e.package.getD "none") := by
    intro hcategory
    unfold pattern
    rw [hcategory, hnamed d hd, hnamed e he, ← String.toList_inj, ← String.toList_inj]
    simp only [String.toList_append, List.append_cancel_left_eq]
  have halike : d.key.Alike e.key ↔
      d.category = e.category ∧ d.package.getD "none" = e.package.getD "none" :=
    and_congr_right fun _ => hnames.symm
  rw [halike]
  constructor
  · intro h
    have hcategory := category_eq_of_pattern h
    exact ⟨hcategory, (hpatterns hcategory).mp h⟩
  · rintro ⟨hcategory, h⟩
    exact (hpatterns hcategory).mpr h

/-! ## Diagnoses with their blocks -/

/-- A diagnosis with the blocks that it was made of. -/
structure Group where
  diagnosis : Diagnosis
  blocks : List (List Char)

/-- A block begins a group of its own, or goes into that of its pattern. -/
def Group.add (groups : List Group) (b : List Char) : List Group :=
  if groups.any (·.diagnosis.pattern == (ofMessage b).pattern) then
    groups.map fun g =>
      if g.diagnosis.pattern == (ofMessage b).pattern then
        ⟨absorb g.diagnosis (ofMessage b), g.blocks ++ [b]⟩
      else g
  else groups ++ [⟨ofMessage b, [b]⟩]

/-- Blocks in groups of one diagnosis each. -/
def grouped (blocks : List (List Char)) : List Group := blocks.foldl Group.add []

/-- Two blocks have gone into one diagnosis. -/
def Merged (blocks : List (List Char)) (b c : List Char) : Prop :=
  ∃ g ∈ grouped blocks, b ∈ g.blocks ∧ c ∈ g.blocks

theorem diagnosis_add (groups : List Group) (b : List Char) :
    (Group.add groups b).map (·.diagnosis) =
      merge (groups.map (·.diagnosis)) (ofMessage b) := by
  have hany : (groups.map (·.diagnosis)).any (·.pattern == (ofMessage b).pattern) =
      groups.any (·.diagnosis.pattern == (ofMessage b).pattern) := List.any_map
  unfold Group.add merge
  rw [hany]
  split
  · rw [List.map_map, List.map_map]
    refine List.map_congr_left fun g _ => ?_
    dsimp only [Function.comp_apply]
    split <;> rfl
  · rw [List.map_append]
    rfl

theorem grouped_concat (blocks : List (List Char)) (b : List Char) :
    grouped (blocks ++ [b]) = Group.add (grouped blocks) b := by
  unfold grouped
  rw [List.foldl_append]
  rfl

/-- Grouping blocks merges their diagnoses. -/
theorem diagnosis_grouped (blocks : List (List Char)) :
    (grouped blocks).map (·.diagnosis) = distinct (blocks.map ofMessage) := by
  induction blocks using List.reverseRecOn with
  | nil => rfl
  | append_singleton blocks b ih =>
    rw [grouped_concat, diagnosis_add, ih, List.map_append, List.map_singleton, distinct_concat]

theorem pattern_mem_grouped {p : String} :
    (∃ g ∈ grouped blocks, g.diagnosis.pattern = p) ↔
      ∃ b ∈ blocks, (ofMessage b).pattern = p := by
  have hpatterns : ((grouped blocks).map (·.diagnosis)).map pattern =
      ((blocks.map ofMessage).map pattern).eraseDups := by
    rw [diagnosis_grouped, distinct_patterns]
  have hmem : p ∈ ((grouped blocks).map (·.diagnosis)).map pattern ↔
      p ∈ (blocks.map ofMessage).map pattern := by
    rw [hpatterns, List.mem_eraseDups]
  simpa [List.mem_map] using hmem

/-- The blocks of a group are those of its pattern. -/
theorem mem_blocks_grouped {g : Group} (hg : g ∈ grouped blocks) :
    b ∈ g.blocks ↔ b ∈ blocks ∧ (ofMessage b).pattern = g.diagnosis.pattern := by
  induction blocks using List.reverseRecOn generalizing g with
  | nil => cases hg
  | append_singleton blocks last ih =>
    rw [grouped_concat] at hg
    rw [List.mem_append, List.mem_singleton]
    unfold Group.add at hg
    split at hg
    · obtain ⟨old, hold, rfl⟩ := List.mem_map.mp hg
      by_cases hlast : old.diagnosis.pattern = (ofMessage last).pattern
      · rw [if_pos (beq_iff_eq.mpr hlast)]
        dsimp only
        rw [absorb_pattern, List.mem_append, List.mem_singleton, ih hold]
        grind
      · rw [if_neg (mt beq_iff_eq.mp hlast), ih hold]
        grind
    · next hnew =>
      have hnone : ∀ c ∈ blocks, (ofMessage c).pattern ≠ (ofMessage last).pattern := by
        intro c hc hpattern
        obtain ⟨old, hold, heq⟩ := pattern_mem_grouped.mpr ⟨c, hc, hpattern⟩
        exact hnew (List.any_eq_true.mpr ⟨old, hold, beq_iff_eq.mpr heq⟩)
      rcases List.mem_append.mp hg with hold | hg
      · have hlast : g.diagnosis.pattern ≠ (ofMessage last).pattern := by
          intro heq
          exact hnew (List.any_eq_true.mpr ⟨g, hold, beq_iff_eq.mpr heq⟩)
        rw [ih hold]
        grind
      · obtain rfl := List.mem_singleton.mp hg
        dsimp only
        rw [List.mem_singleton]
        grind

/-- Blocks are merged by their patterns. -/
theorem merged_iff_pattern (hb : b ∈ blocks) (hc : c ∈ blocks) :
    Merged blocks b c ↔ (ofMessage b).pattern = (ofMessage c).pattern := by
  constructor
  · rintro ⟨g, hg, hbg, hcg⟩
    rw [((mem_blocks_grouped hg).mp hbg).2, ((mem_blocks_grouped hg).mp hcg).2]
  · intro hpattern
    obtain ⟨g, hg, hgb⟩ := pattern_mem_grouped.mpr ⟨b, hb, rfl⟩
    exact ⟨g, hg, (mem_blocks_grouped hg).mpr ⟨hb, hgb.symm⟩,
      (mem_blocks_grouped hg).mpr ⟨hc, by rw [hgb, hpattern]⟩⟩

/-! ## The report of a log -/

/-- The blocks of a log that are reported. -/
def reported (log : List Char) : List (List Char) := (messages log).filter (!isProgress ·)

theorem ofLog_named {log : List Char} (hd : d ∈ ofLog log) : d.package ≠ some "" := by
  obtain ⟨b, -, hdb⟩ := first_of_distinct (mem_byPriority.mp hd)
  rw [hdb]
  exact ofMessage_named b

/-- The diagnoses of a report are those of the groups of its blocks. Two blocks are in one group
exactly if they are of one category and of one package, or of none and of one called `none`, and so
it is with the patterns of any two diagnoses that are reported. -/
theorem ofLog_merges (log : List Char) :
    ((grouped (reported log)).map (·.diagnosis)).Perm (ofLog log) ∧
    (∀ b ∈ reported log, ∀ c ∈ reported log,
      Merged (reported log) b c ↔ (ofMessage b).key.Alike (ofMessage c).key) ∧
    ∀ d ∈ ofLog log, ∀ other, ∀ e ∈ ofLog other, d.pattern = e.pattern ↔ d.key.Alike e.key := by
  refine ⟨?_, fun b hb c hc => ?_, fun d hd other e he => ?_⟩
  · rw [diagnosis_grouped]
    exact (List.mergeSort_perm _ _).symm
  · rw [merged_iff_pattern hb hc]
    exact pattern_eq_iff (ofMessage_named b) (ofMessage_named c)
  · exact pattern_eq_iff (ofLog_named hd) (ofLog_named he)

/-- A log with two missing modules. -/
def missingBoth (first second : List Char) : List Char :=
  joinWith ['\n'] ([first, second].map missingLine)

theorem reported_missingBoth (first second : List Char)
    (hpaths : ∀ path ∈ [first, second], isPath path = true) :
    reported (missingBoth first second) = [missingLine first, missingLine second] :=
  messages_missingLines (List.cons_ne_nil first [second]) hpaths

/-- Two paths into one package, in one log and in two. -/
theorem samePackage_merged :
    Merged (reported (missingBoth "a/b".toList "a".toList)) (missingLine "a/b".toList)
      (missingLine "a".toList) ∧
    ∃ d ∈ ofLog (missingLine "a/b".toList), ∃ e ∈ ofLog (missingLine "a".toList),
      d.pattern = e.pattern := by
  have hfirst : (ofMessage (missingLine "a/b".toList)).key = ⟨.notFound, some "a"⟩ :=
    key_missingLine (by decide) (by decide) (by decide) (by decide)
  have hsecond : (ofMessage (missingLine "a".toList)).key = ⟨.notFound, some "a"⟩ :=
    key_missingLine (by decide) (by decide) (by decide) (by decide)
  have halike : (ofMessage (missingLine "a/b".toList)).key.Alike
      (ofMessage (missingLine "a".toList)).key := by
    rw [hfirst, hsecond]
    exact ⟨rfl, .inl rfl⟩
  have hreported := reported_missingBoth "a/b".toList "a".toList (by decide)
  obtain ⟨-, hmerged, -⟩ := ofLog_merges (missingBoth "a/b".toList "a".toList)
  obtain ⟨-, -, hpatterns⟩ := ofLog_merges (missingLine "a/b".toList)
  have hd : ofMessage (missingLine "a/b".toList) ∈ ofLog (missingLine "a/b".toList) := by
    rw [ofLog_missingLine (by decide)]
    exact List.mem_singleton_self _
  have he : ofMessage (missingLine "a".toList) ∈ ofLog (missingLine "a".toList) := by
    rw [ofLog_missingLine (by decide)]
    exact List.mem_singleton_self _
  rw [hreported] at hmerged ⊢
  exact ⟨(hmerged _ (List.mem_cons_self ..) _ (List.mem_cons_of_mem _ (List.mem_cons_self ..))).mpr
    halike, _, hd, _, he, (hpatterns _ hd _ _ he).mpr halike⟩

/-- A fault of no known package and a fault of the package called `none` are reported as one. -/
theorem noneLog_merged :
    reported (missingBoth "./a".toList "none".toList) =
      [missingLine "./a".toList, missingLine "none".toList] ∧
    Merged (reported (missingBoth "./a".toList "none".toList)) (missingLine "./a".toList)
      (missingLine "none".toList) ∧
    (ofMessage (missingLine "./a".toList)).key ≠ (ofMessage (missingLine "none".toList)).key ∧
    (ofLog (missingBoth "./a".toList "none".toList)).length = 1 := by
  have hreported := reported_missingBoth "./a".toList "none".toList (by decide)
  have hfirst : (ofMessage (missingLine "./a".toList)).key = ⟨.notFound, none⟩ :=
    key_missingLine (by decide) (by decide) (by decide) (by decide)
  have hsecond : (ofMessage (missingLine "none".toList)).key = ⟨.notFound, some "none"⟩ :=
    key_missingLine (by decide) (by decide) (by decide) (by decide)
  have hpattern : (ofMessage (missingLine "./a".toList)).pattern =
      (ofMessage (missingLine "none".toList)).pattern := by
    rw [pattern_eq_iff (ofMessage_named _) (ofMessage_named _), hfirst, hsecond]
    exact ⟨rfl, .inr (.inl ⟨rfl, rfl⟩)⟩
  refine ⟨hreported, ?_, ?_, ?_⟩
  · rw [hreported, merged_iff_pattern (by simp) (by simp)]
    exact hpattern
  · rw [hfirst, hsecond]
    decide
  · have hlength := congrArg List.length (distinct_patterns
      ((reported (missingBoth "./a".toList "none".toList)).map ofMessage))
    rw [hreported, List.length_map] at hlength
    show (byPriority (distinct ((reported _).map ofMessage))).length = 1
    unfold byPriority
    rw [(List.mergeSort_perm _ _).length_eq, hreported, hlength]
    have htwice : ∀ q : String, [q, q].eraseDups.length = 1 := by simp [List.eraseDups_cons]
    show [(ofMessage _).pattern, (ofMessage _).pattern].eraseDups.length = 1
    rw [hpattern]
    exact htwice _

end Diagnosis
end BuildRepair
