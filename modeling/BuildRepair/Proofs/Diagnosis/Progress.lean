import BuildRepair.Proofs.Diagnosis.Blocks
import BuildRepair.Proofs.Diagnosis.Summary
import BuildRepair.Proofs.Repair.Ending
import BuildRepair.Proofs.Text.Searching

/-
  Errors that are taken for progress (`ofLog_covers`). A report leaves out a block only if nothing
  tells its kind and it begins as a report of progress does. Of all lines that open a block only one
  with the place of an error in a file can begin so, since such a line begins with the name of the
  file (`fileError_of_isProgress`); whether it does shows in this line alone (`isNoise_iff_of_isPrefix`).
  Every other block has a diagnosis of its pattern, and so has one of these if another block of no
  known kind is reported.

  Such a log may have nothing to report, and a run over it then ends as if its build had printed no
  error (`infoError_unreported`).
-/

namespace BuildRepair

open Text

variable {c : Char} {s t u v line log : List Char} {rest : List (List Char)}

/-! ## What progress begins with -/

/-- What a report of progress begins with. -/
inductive ProgressSign : List Char → Prop
  | word (p : String) : p ∈ ["npm WARN", "Compiling", "Building", "Done in"] →
      ProgressSign p.toList
  | level (p : String) (u : List Char) : p ∈ ["warning", "info", "debug"] →
      ReadsAs p.toList u → ProgressSign u
  | prompt (b : Char) : isBlank b = true → ProgressSign ['>', b]
  | added (digits : List Char) : digits ≠ [] → (∀ d ∈ digits, isDigit d = true) →
      ProgressSign ("added ".toList ++ digits ++ " packages".toList)

theorem isSome_addedPackages_iff : (addedPackages s).isSome = true ↔
    ∃ digits ≠ [], (∀ d ∈ digits, isDigit d = true) ∧
      "added ".toList ++ digits ++ " packages".toList <+: s := by
  have hblank : isDigit ' ' = false := by decide
  unfold addedPackages
  constructor
  · intro h
    obtain ⟨x, h⟩ := Option.isSome_iff_exists.mp h
    obtain ⟨r, hadded, h⟩ := Option.bind_eq_some_iff.mp h
    obtain ⟨r', hskip, h⟩ := Option.bind_eq_some_iff.mp h
    obtain ⟨r'', hpackages, -⟩ := Option.bind_eq_some_iff.mp h
    rw [literal_eq_some_iff] at hadded hpackages
    obtain ⟨digits, rfl, hne, hdigits, -⟩ := skip_eq_some_iff.mp hskip
    exact ⟨digits, hne, hdigits, r'', by rw [hadded, hpackages]; simp⟩
  · rintro ⟨digits, hne, hdigits, r, rfl⟩
    have hskip : skip isDigit (digits ++ (" packages".toList ++ r)) =
        some (" packages".toList ++ r) :=
      skip_eq_some_iff.mpr ⟨digits, rfl, hne, hdigits, fun c hc => by
        obtain rfl : ' ' = c := Option.some.inj hc
        exact hblank⟩
    have hadded : literal "added ".toList
        ("added ".toList ++ (digits ++ (" packages".toList ++ r))) =
          some (digits ++ (" packages".toList ++ r)) := literal_eq_some_iff.mpr rfl
    have hpackages : literal " packages".toList (" packages".toList ++ r) = some r :=
      literal_eq_some_iff.mpr rfl
    simp only [List.append_assoc]
    rw [hadded, Option.bind_eq_bind, Option.bind_some, hskip, Option.bind_some, hpackages]
    rfl

theorem isNoise_iff : isNoise s = true ↔
    (∀ c ∈ s, isBlank c = true) ∨ ∃ u, ProgressSign u ∧ u <+: s := by
  have hprompt : ((literal ['>'] s).bind (one isBlank)).isSome = true ↔
      ∃ b, isBlank b = true ∧ ['>', b] <+: s := by
    simp only [Option.isSome_iff_exists, Option.bind_eq_some_iff, literal_eq_some_iff,
      one_eq_some_iff]
    constructor
    · rintro ⟨r, _, rfl, b, rfl, hb⟩
      exact ⟨b, hb, r, rfl⟩
    · rintro ⟨b, hb, r, rfl⟩
      exact ⟨r, b :: r, rfl, b, rfl, hb⟩
  unfold isNoise
  simp only [Bool.or_eq_true, List.any_eq_true, List.all_eq_true, startsWith_iff,
    startsAnyCase_iff, hprompt, isSome_addedPackages_iff]
  constructor
  · rintro ((((⟨p, hp, h⟩ | ⟨p, hp, u, h, hu⟩) | h) | ⟨b, hb, h⟩) | ⟨digits, hne, hdigits, h⟩)
    · exact .inr ⟨_, .word p hp, h⟩
    · exact .inr ⟨u, .level p u hp hu, h⟩
    · exact .inl h
    · exact .inr ⟨_, .prompt b hb, h⟩
    · exact .inr ⟨_, .added digits hne hdigits, h⟩
  · rintro (h | ⟨u, hu, h⟩)
    · exact .inl (.inl (.inr h))
    · cases hu with
      | word p hp => exact .inl (.inl (.inl (.inl ⟨p, hp, h⟩)))
      | level p u hp hu => exact .inl (.inl (.inl (.inr ⟨p, hp, u, h, hu⟩)))
      | prompt b hb => exact .inl (.inr ⟨b, hb, h⟩)
      | added digits hne hdigits => exact .inr ⟨digits, hne, hdigits, h⟩

/-- A bracket is no part of what progress begins with. -/
theorem ProgressSign.no_bracket (h : ProgressSign u) : '(' ∉ u := by
  cases h with
  | word p hp =>
    have hwords : ∀ p ∈ ["npm WARN", "Compiling", "Building", "Done in"], '(' ∉ p.toList := by
      decide
    exact hwords p hp
  | level p u hp hu =>
    have hlevels : ∀ p ∈ ["warning", "info", "debug"],
        p.toList.all (!sameLetter · '(') = true := by
      decide
    exact hu.not_mem (hlevels p hp)
  | prompt b hb =>
    have hbracket : isBlank '(' = false := by decide
    intro h
    simp only [List.mem_cons, List.not_mem_nil, or_false] at h
    rcases h with h | rfl
    · exact absurd h (by decide)
    · rw [hbracket] at hb
      cases hb
  | added digits hne hdigits =>
    have hbracket : isDigit '(' = false := by decide
    intro h
    rw [List.mem_append, List.mem_append] at h
    rcases h with (h | h) | h
    · exact absurd h (by decide)
    · have hdigit := hdigits _ h
      rw [hbracket] at hdigit
      cases hdigit
    · exact absurd h (by decide)

/-- A text with a bracket in its beginning is noise exactly if this beginning is. -/
theorem isNoise_iff_of_isPrefix (hv : v <+: s) (hbracket : '(' ∈ v) :
    isNoise s = true ↔ isNoise v = true := by
  have hshows : ∀ t : List Char, '(' ∈ t → ¬ ∀ c ∈ t, isBlank c = true := by
    intro t ht hall
    have hblank : isBlank '(' = true := hall _ ht
    revert hblank
    decide
  rw [isNoise_iff, isNoise_iff, or_iff_right (hshows s (hv.subset hbracket)),
    or_iff_right (hshows v hbracket)]
  refine exists_congr fun u => and_congr_right fun hu => ⟨fun hus => ?_, fun huv => huv.trans hv⟩
  rcases List.prefix_or_prefix_of_prefix hus hv with huv | hvu
  · exact huv
  · exact absurd (hvu.subset hbracket) hu.no_bracket

/-- No digit reads as a letter that the name of a level begins with. -/
theorem isDigit_of_sameLetter {a : Char} (ha : a ∈ ['w', 'i', 'd'])
    (h : sameLetter a c = true) : isDigit c = false := by
  have hlower : ['w', 'i', 'd'].map asciiLower = ['w', 'i', 'd'].map id := by decide
  -- the letters, their capitals, and all that reads as a letter beyond ASCII
  have hplace : ∀ n ∈ [119, 105, 100, 87, 73, 68, 0x130, 0x131, 0x17F, 0x212A],
      (digitZeros.find? fun z => z ≤ n && n ≤ z + 9) = none := by
    decide +kernel
  have hc : c.toNat ∈ [119, 105, 100, 87, 73, 68, 0x130, 0x131, 0x17F, 0x212A] := by
    unfold sameLetter at h
    simp only [Bool.or_eq_true, Bool.and_eq_true, beq_iff_eq, or_assoc] at h
    rcases h with h | ⟨-, h | h⟩ | ⟨-, h⟩ | ⟨-, h⟩
    · have hvalue := toNat_of_asciiLower h.symm
      rw [List.map_inj_left.mp hlower a ha, id_eq] at hvalue
      simp only [List.mem_cons, List.not_mem_nil, or_false] at ha ⊢
      rcases ha with rfl | rfl | rfl <;> (simp at hvalue; omega)
    all_goals simp [h]
  unfold isDigit digitValue?
  rw [hplace _ hc]
  rfl

/-- No report of progress begins with a digit. -/
theorem ProgressSign.no_digit (h : ProgressSign u) : ∃ c r, u = c :: r ∧ isDigit c = false := by
  cases h with
  | word p hp =>
    have hwords : ∀ p ∈ ["npm WARN", "Compiling", "Building", "Done in"],
        p.toList.head?.any (!isDigit ·) = true := by
      decide
    obtain ⟨c, hc, hdigit⟩ := (Option.any_eq_true _ _).mp (hwords p hp)
    exact ⟨c, _, (List.cons_head?_tail hc).symm, by simpa using hdigit⟩
  | level p u hp hu =>
    have hlevels : ∀ p ∈ ["warning", "info", "debug"],
        p.toList.head?.any (['w', 'i', 'd'].contains ·) = true := by
      decide
    obtain ⟨a, ha, hletter⟩ := (Option.any_eq_true _ _).mp (hlevels p hp)
    rw [← List.cons_head?_tail ha] at hu
    cases hu with
    | cons hsame hrest => exact ⟨_, _, rfl, isDigit_of_sameLetter (List.contains_iff_mem.mp hletter) hsame⟩
  | prompt b hb => exact ⟨'>', [b], rfl, by decide⟩
  | added digits hne hdigits => exact ⟨'a', _, rfl, by decide⟩

/-! ## Lines that open a block -/

/-- A message begins with the line that opens its block. -/
theorem trim_prefix_blockText (line : List Char) (rest : List (List Char)) :
    trim line <+: blockText (line :: rest) := by
  unfold blockText
  cases rest with
  | nil => exact List.prefix_refl _
  | cons next rest =>
    show trim line <+: trim (line ++ ['\n'] ++ joinWith ['\n'] (next :: rest))
    rw [List.append_assoc]
    exact trim_isPrefix line _

/-- A message is of a category if it shows a sign of it and of none that is tested before. -/
theorem Category.ofMessage_eq_iff {category : Category} : ofMessage s = category ↔
    shows s category = true ∧ ∀ e ∈ all.takeWhile (· != category), shows s e = false := by
  have hsplit : all = all.takeWhile (· != category) ++
      category :: (all.dropWhile (· != category)).tail := by
    cases category <;> rfl
  have hsome : (all.find? (shows s)).isSome = true :=
    List.find?_isSome.mpr ⟨.unknown, by decide, rfl⟩
  obtain ⟨first, hfirst⟩ := Option.isSome_iff_exists.mp hsome
  have heq : ofMessage s = first := by
    unfold ofMessage
    rw [hfirst]
    rfl
  rw [heq]
  constructor
  · rintro rfl
    refine ⟨List.find?_some hfirst, fun e he => ?_⟩
    rw [hsplit, List.find?_append, Option.or_eq_some_iff] at hfirst
    rcases hfirst with hfirst | ⟨hnone, -⟩
    · have := List.mem_takeWhile_imp (List.mem_of_find?_eq_some hfirst)
      simp at this
    · simpa using List.find?_eq_none.mp hnone e he
  · rintro ⟨hshows, hbefore⟩
    have hnone : (all.takeWhile (· != category)).find? (shows s) = none := by
      rw [List.find?_eq_none]
      intro e he
      simp [hbefore e he]
    rw [hsplit, List.find?_append, hnone, Option.none_or, List.find?_cons_of_pos hshows] at hfirst
    exact (Option.some.inj hfirst).symm

theorem Category.ofMessage_ne_unknown (category : Category) (h : shows s category = true)
    (hne : category ≠ unknown) : ofMessage s ≠ unknown := by
  intro hunknown
  have hmem : category ∈ all.takeWhile (· != unknown) := by
    cases category <;> first | decide | exact absurd rfl hne
  rw [(ofMessage_eq_iff.mp hunknown).2 category hmem] at h
  cases h

/-- What begins with the words that open a block is no noise. -/
theorem isNoise_of_words {p : String} (hp : p ∈ ["npm ERR!", "Error:", "SyntaxError:", "TypeError:",
    "Cannot find module", "Module not found"]) (h : p.toList <+: s) : isNoise s = false := by
  obtain ⟨t, rfl⟩ := h
  simp only [List.mem_cons, List.not_mem_nil, or_false] at hp
  rcases hp with rfl | rfl | rfl | rfl | rfl | rfl <;> rfl

/-- What begins with the digits of a place is no noise. -/
theorem isNoise_of_digit (hdigit : isDigit c = true) (hblank : isBlank c = false) :
    isNoise (c :: s) = false := by
  rw [Bool.eq_false_iff, Ne, isNoise_iff]
  rintro (h | ⟨u, hu, hus⟩)
  · rw [h c (List.mem_cons_self ..)] at hblank
    cases hblank
  · obtain ⟨b, r, rfl, hb⟩ := hu.no_digit
    rw [(List.cons_prefix_cons.mp hus).1, hdigit] at hb
    cases hb

/-- The words that open a block wherever they stand tell its kind. -/
theorem ofMessage_of_word {p : String} (hp : p ∈ ["ERESOLVE", "node-gyp", "gyp ERR!"])
    (h : p.toList <:+: s) : Category.ofMessage s ≠ .unknown := by
  simp only [List.mem_cons, List.not_mem_nil, or_false] at hp
  rcases hp with rfl | rfl | rfl
  · refine Category.ofMessage_ne_unknown .versionConflict ?_ (by decide)
    have hholds : holdsAnyCase "ERESOLVE" s = true := holdsAnyCase_iff.mpr ⟨_, h, .refl _⟩
    simp [Category.shows, hholds]
  · refine Category.ofMessage_ne_unknown .nativeModule ?_ (by decide)
    simp [Category.shows, holds_iff.mpr h]
  · refine Category.ofMessage_ne_unknown .nativeModule ?_ (by decide)
    simp [Category.shows, holds_iff.mpr h]

/-- Of the lines that open a block only one with the place of an error can begin as a report of
progress does. -/
theorem fileError_of_isProgress (hopens : opensBlock line = true)
    (h : Diagnosis.isProgress (blockText (line :: rest)) = true) :
    (fileError line).isSome = true := by
  have hline : trim line <+: blockText (line :: rest) := trim_prefix_blockText line rest
  unfold Diagnosis.isProgress at h
  rw [Bool.and_eq_true, beq_iff_eq] at h
  obtain ⟨hunknown, hnoise⟩ := h
  generalize blockText (line :: rest) = message at hline hunknown hnoise
  have hbegins : ∀ p, p <+: trim line → (∀ t, isNoise (p ++ t) = false) → False := by
    intro p hp hnot
    obtain ⟨t, rfl⟩ := hp.trans hline
    rw [hnot t] at hnoise
    cases hnoise
  unfold opensBlock at hopens
  simp only [Bool.or_eq_true, or_assoc] at hopens
  rcases hopens with h | h | h | h | h | h
  · obtain ⟨p, hp, h⟩ := List.any_eq_true.mp h
    have htrimmed : ∀ p ∈ ["npm ERR!", "Error:", "SyntaxError:", "TypeError:",
        "Cannot find module", "Module not found"], Trimmed p.toList := by
      decide
    exact (hbegins _ ((htrimmed p hp).prefix_trim (startsWith_iff.mp h))
      fun t => isNoise_of_words hp (List.prefix_append ..)).elim
  · obtain ⟨rest, h⟩ := Option.isSome_iff_exists.mp h
    obtain ⟨later, herror, -⟩ := Option.bind_eq_some_iff.mp h
    obtain ⟨u, rfl, hu⟩ := anyCase_eq_some_iff.mp herror
    cases hu with
    | @cons _ c _ u hsame hu =>
      have hfirst (hc : Trimmed [c]) : [c] <+: trim (c :: u ++ later) :=
        hc.prefix_trim ⟨u ++ later, rfl⟩
      rcases eq_of_sameLetter hsame with rfl | rfl
      · exact (hbegins ['e'] (hfirst (by decide)) fun t => rfl).elim
      · exact (hbegins ['E'] (hfirst (by decide)) fun t => rfl).elim
  · obtain ⟨p, hp, h⟩ := List.any_eq_true.mp h
    have htrimmed : ∀ p ∈ ["ERESOLVE", "node-gyp", "gyp ERR!"], Trimmed p.toList := by decide
    have hin := ((htrimmed p hp).infix_trim (holds_iff.mp h)).trans hline.isInfix
    exact absurd hunknown (ofMessage_of_word hp hin)
  · obtain ⟨x, h⟩ := Option.isSome_iff_exists.mp h
    obtain ⟨rest, hcode, -⟩ := Option.bind_eq_some_iff.mp h
    rw [literal_eq_some_iff] at hcode
    have htrimmed : Trimmed ['T', 'S'] := by decide
    exact (hbegins ['T', 'S'] (htrimmed.prefix_trim ⟨rest, hcode.symm⟩) fun t => rfl).elim
  · obtain ⟨x, h⟩ := Option.isSome_iff_exists.mp h
    obtain ⟨rest, hskip, -⟩ := Option.bind_eq_some_iff.mp h
    obtain ⟨digits, hdigits, hne, hall, -⟩ := skip_eq_some_iff.mp hskip
    obtain ⟨d, digits, rfl⟩ := List.exists_cons_of_ne_nil hne
    have hblank : isBlank d = false := by
      have hhead := List.head?_dropWhile_not isBlank line
      rwa [hdigits] at hhead
    have htrimmed : Trimmed [d] := ⟨by simp, by simpa using hblank, by simpa using hblank⟩
    have hd : [d] <+: trim line := by
      rw [← trim_trimLeft]
      exact htrimmed.prefix_trim ⟨digits ++ rest, hdigits.symm⟩
    exact (hbegins [d] hd fun t => isNoise_of_digit (hall d (List.mem_cons_self ..)) hblank).elim
  · exact h

/-! ## Blocks that are left out -/

/-- The blocks of a log. -/
def blocksIn (log : List Char) : List (List (List Char)) := blocksOf (splitOn '\n' log)

theorem openings_pos {block : List (List Char)} (h : block ∈ blocksIn log) : 0 < openings log := by
  unfold openings
  rw [← length_blocksOf]
  exact List.length_pos_of_mem h

/-- A block that reads as progress although it reports an error: nothing tells its kind, and its
first line gives the place of an error in a file, but begins as a report of progress does. -/
def ReadsAsProgress (block : List (List Char)) : Prop :=
  ∃ line rest, block = line :: rest ∧ (fileError line).isSome = true ∧
    isNoise (trim line) = true ∧ Category.ofMessage (blockText block) = .unknown

theorem isProgress_blockText {block : List (List Char)} (h : block ∈ blocksIn log) :
    Diagnosis.isProgress (blockText block) = true ↔ ReadsAsProgress block := by
  obtain ⟨line, rest, rfl, hopens, -⟩ := mem_blocksOf h
  have hline : trim line <+: blockText (line :: rest) := trim_prefix_blockText line rest
  have hbracket : (fileError line).isSome = true → '(' ∈ trim line :=
    fun hplace => mem_trim (bracket_mem_of_fileError hplace) (by decide)
  constructor
  · intro hprogress
    have hplace := fileError_of_isProgress hopens hprogress
    unfold Diagnosis.isProgress at hprogress
    rw [Bool.and_eq_true, beq_iff_eq] at hprogress
    exact ⟨line, rest, rfl, hplace,
      (isNoise_iff_of_isPrefix hline (hbracket hplace)).mp hprogress.2, hprogress.1⟩
  · rintro ⟨_, _, heq, hplace, hnoise, hunknown⟩
    obtain ⟨rfl, rfl⟩ := List.cons.inj heq
    unfold Diagnosis.isProgress
    rw [Bool.and_eq_true, beq_iff_eq]
    exact ⟨hunknown, (isNoise_iff_of_isPrefix hline (hbracket hplace)).mpr hnoise⟩

namespace Diagnosis

/-- Whether a report has a diagnosis with the pattern of a block. -/
def Covers (ds : List Diagnosis) (block : List (List Char)) : Prop :=
  ∃ d ∈ ds, d.pattern = (ofMessage (blockText block)).pattern

/-- A message of no known kind names no package. -/
theorem pattern_of_unknown {m : List Char} (h : Category.ofMessage m = .unknown) :
    (ofMessage m).pattern = "unknown:none" := by
  have hcategory : (ofMessage m).category = .unknown := h
  have hpackage : (ofMessage m).package = none := by
    unfold ofMessage
    rw [h]
    rfl
  unfold pattern namedPackage
  rw [hcategory, hpackage]
  rfl

/-- What is reported of a log with blocks are the patterns of those that do not read as progress. -/
theorem covers_iff {block : List (List Char)} (hopens : 0 < openings log) :
    Covers (ofLog log) block ↔ ∃ other ∈ blocksIn log, ¬ ReadsAsProgress other ∧
      (ofMessage (blockText other)).pattern = (ofMessage (blockText block)).pattern := by
  have hmem : Covers (ofLog log) block ↔
      (ofMessage (blockText block)).pattern ∈ (ofLog log).map pattern := by
    rw [List.mem_map]
    rfl
  rw [hmem, mem_patterns_ofLog, messages_eq, if_neg hopens.ne']
  constructor
  · rintro ⟨b, hb, hprogress, hpattern⟩
    obtain ⟨other, hother, rfl⟩ := List.mem_map.mp hb
    refine ⟨other, hother, fun hreads => ?_, hpattern⟩
    rw [(isProgress_blockText hother).mpr hreads] at hprogress
    cases hprogress
  · rintro ⟨other, hother, hreads, hpattern⟩
    refine ⟨_, List.mem_map_of_mem hother, ?_, hpattern⟩
    rwa [Bool.eq_false_iff, Ne, isProgress_blockText hother]

theorem ofLog_eq_nil_iff (hopens : 0 < openings log) :
    ofLog log = [] ↔ ∀ block ∈ blocksIn log, ReadsAsProgress block := by
  constructor
  · intro hnil block hblock
    by_contra hreads
    obtain ⟨d, hd, -⟩ := (covers_iff hopens).mpr ⟨block, hblock, hreads, rfl⟩
    rw [hnil] at hd
    cases hd
  · intro hall
    by_contra hne
    obtain ⟨d, ds, hds⟩ := List.exists_cons_of_ne_nil hne
    have hd : d.pattern ∈ (ofLog log).map pattern := by simp [hds]
    rw [mem_patterns_ofLog, messages_eq, if_neg hopens.ne'] at hd
    obtain ⟨b, hb, hprogress, -⟩ := hd
    obtain ⟨block, hblock, rfl⟩ := List.mem_map.mp hb
    rw [(isProgress_blockText hblock).mpr (hall block hblock)] at hprogress
    cases hprogress

end Diagnosis

/-! ## Runs that end without an error to work on -/

/-- What a build printed, as one log. -/
def BuildResult.printed (b : BuildResult) : List Char := (b.out ++ "\n" ++ b.err).toList

/-- A run that ends so had a last build that failed without an error that could be told apart. -/
theorem RepairState.run_unclear {c : RepairContext} {s : RepairState} {report : RepairReport}
    (h : (s.run c).result = .ok report) (hout : report.outcome = .unparsable) :
    ∃ build n, c.builder c.call n = .ok build ∧ report.iterations = n + 1 ∧
      build.success = false ∧ build.errors = [] := by
  unfold run at h
  split at h
  · cases h
    cases hout
  · next v hi =>
    cases h
    rcases iterate_cases c c.limit.toNat s with
      ⟨u, hu, -⟩ | ⟨k, -, u, w, ending, -, hw, -, hiter⟩
    · rw [hu] at hi
      cases hi
    · rw [hiter] at hi
      cases hi
      cases stepped_of_step hw with
      | unclear build hc _ hbuild hfail herrors _ =>
        exact ⟨build, u.iteration, hbuild, hc.iteration, hfail, herrors⟩
  · next u build hi =>
    unfold succeed at h
    split at h
    · cases h
    · split at h
      · cases h
      · cases h
        cases hout
  · cases h

theorem repair_unclear {repo : String} {o : RepairOptions} {builder : Builder} {now : Timestamp}
    {t : Tree} {m : Memory} {report : RepairReport}
    (h : (repair repo o builder now t m).result = .ok report)
    (hout : report.outcome = .unparsable) :
    ∃ call build n, builder call n = .ok build ∧ report.iterations = n + 1 ∧
      build.success = false ∧ build.errors = [] := by
  rcases repair_ok_cases h with hrun | ⟨manager, command, hrun⟩
  · rw [hrun] at h
    cases h
    cases hout
  · rw [hrun] at h
    exact ⟨_, RepairState.run_unclear h hout⟩

namespace Diagnosis

/-- A block is reported unless it reads as progress and so do all blocks of no known kind. A log with
blocks has nothing to report only if all of them read as progress, and a run ends without an error
to work on only after a build that failed with such a log or with one without blocks. -/
theorem ofLog_covers (log : List Char) :
    (∀ block ∈ blocksIn log, Covers (ofLog log) block ↔ ¬ ReadsAsProgress block ∨
      ∃ other ∈ blocksIn log, ¬ ReadsAsProgress other ∧
        Category.ofMessage (blockText other) = .unknown) ∧
    (0 < openings log → (ofLog log = [] ↔ ∀ block ∈ blocksIn log, ReadsAsProgress block)) ∧
    ∀ repo o builder now t m report, (repair repo o builder now t m).result = .ok report →
      report.outcome = .unparsable → ∃ call build n, builder call n = .ok build ∧
        report.iterations = n + 1 ∧ build.success = false ∧
        ∀ block ∈ blocksIn build.printed, ReadsAsProgress block := by
  refine ⟨fun block hblock => ?_, ofLog_eq_nil_iff, ?_⟩
  · rw [covers_iff (openings_pos hblock)]
    constructor
    · rintro ⟨other, hother, hreads, hpattern⟩
      by_cases hblockReads : ReadsAsProgress block
      · obtain ⟨_, _, _, -, -, hunknown⟩ := id hblockReads
        exact .inr ⟨other, hother, hreads, (category_eq_of_pattern hpattern).trans hunknown⟩
      · exact .inl hblockReads
    · rintro (hreads | ⟨other, hother, hreads, hunknown⟩)
      · exact ⟨block, hblock, hreads, rfl⟩
      · by_cases hblockReads : ReadsAsProgress block
        · obtain ⟨_, _, _, -, -, hblockUnknown⟩ := id hblockReads
          refine ⟨other, hother, hreads, ?_⟩
          rw [pattern_of_unknown hunknown, pattern_of_unknown hblockUnknown]
        · exact ⟨block, hblock, hblockReads, rfl⟩
  · intro repo o builder now t m report h hout
    obtain ⟨call, build, n, hbuild, hiter, hfail, herrors⟩ := repair_unclear h hout
    refine ⟨call, build, n, hbuild, hiter, hfail, fun block hblock => ?_⟩
    exact (ofLog_eq_nil_iff (openings_pos hblock)).mp herrors block hblock

/-- An error in a file whose name begins as a report of progress does. -/
def infoError : String := "Info.cs(1,2): error CS1002"

/-- This error and one in another file. -/
def twoFiles : List Char := (infoError ++ "\nMain.cs(3,4): error CS1002").toList

/-- A run over builds that fail with this error alone. -/
def infoRun : RepairRun :=
  repair "app" fiveBuilds (.scripted fun _ => ⟨false, 1, "", infoError⟩) default appTree {}

theorem infoError_reads : ReadsAsProgress [infoError.toList] :=
  ⟨_, _, rfl, by decide +kernel, by decide +kernel, by decide +kernel⟩

theorem infoRun_unparsable :
    infoRun.result.toOption.map (·.outcome) = some .unparsable := by decide +kernel

/-- One of two errors reads as progress, and both are covered by the other one. A run over the first
error alone ends without an error to work on, and all that was printed reads as progress. -/
theorem twoFiles_covered :
    ([infoError.toList] ∈ blocksIn twoFiles ∧ Covers (ofLog twoFiles) [infoError.toList]) ∧
    (0 < openings twoFiles ∧ ofLog twoFiles ≠ []) ∧
    ∃ report, infoRun.result = .ok report ∧ report.outcome = .unparsable ∧
      ∃ out err, ∀ block ∈ blocksIn (BuildResult.mk false 1 out err).printed,
        ReadsAsProgress block := by
  obtain ⟨hcovers, hnil, hrun⟩ := ofLog_covers twoFiles
  have hfirst : [infoError.toList] ∈ blocksIn twoFiles := by decide +kernel
  have hsecond : ["Main.cs(3,4): error CS1002".toList] ∈ blocksIn twoFiles := by decide +kernel
  have hreads : ¬ ReadsAsProgress ["Main.cs(3,4): error CS1002".toList] := by
    rintro ⟨line, rest, heq, -, hnoise, -⟩
    obtain ⟨rfl, rfl⟩ := List.cons.inj heq
    revert hnoise
    decide +kernel
  have hopens : 0 < openings twoFiles := openings_pos hfirst
  refine ⟨⟨hfirst, (hcovers _ hfirst).mpr (.inr ⟨_, hsecond, hreads, by decide +kernel⟩)⟩,
    ⟨hopens, fun h => hreads ((hnil hopens).mp h _ hsecond)⟩, ?_⟩
  have hout := infoRun_unparsable
  cases hresult : infoRun.result with
  | error e =>
    rw [hresult] at hout
    cases hout
  | ok report =>
    rw [hresult] at hout
    have hout : report.outcome = .unparsable := Option.some.inj hout
    obtain ⟨call, build, n, hbuild, -, -, hblocks⟩ := hrun _ _ _ _ _ _ report hresult hout
    cases hbuild
    exact ⟨report, rfl, hout, _, _, hblocks⟩

/-- An error opens a block and yet is not reported, and a run over it ends as if there were none. -/
theorem infoError_unreported :
    openings infoError.toList = 1 ∧ ofLog infoError.toList = [] ∧
      ¬ (∀ block ∈ blocksIn infoError.toList, Covers (ofLog infoError.toList) block) ∧
      infoRun.result.toOption.map (·.outcome) = some .unparsable := by
  have hblocks : blocksIn infoError.toList = [[infoError.toList]] := by decide +kernel
  have hopens : openings infoError.toList = 1 := by decide +kernel
  have hnil : ofLog infoError.toList = [] := by
    rw [ofLog_eq_nil_iff (by omega), hblocks]
    exact List.forall_mem_singleton.mpr infoError_reads
  refine ⟨hopens, hnil, fun h => ?_, infoRun_unparsable⟩
  rw [hblocks, hnil] at h
  obtain ⟨d, hd, -⟩ := h _ (List.mem_singleton_self _)
  cases hd

end Diagnosis
end BuildRepair
