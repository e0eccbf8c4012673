import BuildRepair.Diagnosis.Block
import BuildRepair.Proofs.Text.Lines

/-
  The messages of a build log (`messages_blocks`). A line that opens a block is not blank, whatever
  opens it (`shows_of_opensBlock`), so no block is blank and each of them is a message. Blocks are
  made of all lines from the first opening one on (`takeWhile_append_flatten_blocksOf`), and end
  where the next one opens, so a log can be cut there (`blocksOf_append`). The log as a whole is a
  message only if nothing opens a block.
-/

namespace BuildRepair

open Text

variable {c : Char} {s t line log : List Char} {lines more : List (List Char)} {p : Char → Bool}

/-! ## Lines that open a block -/

/-- A line with something in it that is not blank. -/
def Shows (line : List Char) : Prop := ∃ c ∈ line, isBlank c = false

theorem shows_iff : Shows s ↔ (s.any fun c => !isBlank c) = true := by simp [Shows]

theorem Shows.of_subset (h : Shows s) (hsub : s ⊆ t) : Shows t := by
  obtain ⟨c, hc, hblank⟩ := h
  exact ⟨c, hsub hc, hblank⟩

theorem shows_of_startsWith {p : String} (hp : Shows p.toList) (h : startsWith p line = true) :
    Shows line := by
  obtain ⟨rest, hrest⟩ := Option.isSome_iff_exists.mp h
  rw [literal_eq_some_iff] at hrest
  exact hp.of_subset (hrest ▸ List.subset_append_left ..)

theorem shows_of_holds {p : String} (hp : Shows p.toList) (h : holds p line = true) : Shows line :=
  hp.of_subset (holds_iff.mp h).subset

/-- What has the small form of an ASCII letter is that letter or its capital. -/
theorem toNat_of_asciiLower {a : Char} (h : asciiLower c = a) :
    c.toNat = a.toNat ∨ c.toNat + 32 = a.toNat := by
  subst h
  unfold asciiLower
  split
  · next hcapital =>
    have hhigh : c.toNat ≤ 90 := hcapital.2
    right
    rw [Char.ofNat, dif_pos (.inl (by omega))]
    rfl
  · exact .inl rfl

/-- Only two characters read as an `e`. -/
theorem eq_of_sameLetter (h : sameLetter 'e' c = true) : c = 'e' ∨ c = 'E' := by
  have hi : (asciiLower 'e' == 'i') = false := by decide
  have hs : (asciiLower 'e' == 's') = false := by decide
  have hk : (asciiLower 'e' == 'k') = false := by decide
  have hlower : asciiLower c = 'e' := by
    unfold sameLetter at h
    simp only [hi, hs, hk, Bool.false_and, Bool.or_false, beq_iff_eq] at h
    exact h.symm
  have hcapital : 'e'.toNat = 'E'.toNat + 32 := rfl
  rcases toNat_of_asciiLower hlower with h | h
  · exact .inl (Char.toNat_inj.mp h)
  · exact .inr (Char.toNat_inj.mp (by omega))

theorem isBlank_of_sameLetter (h : sameLetter 'e' c = true) : isBlank c = false := by
  rcases eq_of_sameLetter h with rfl | rfl <;> decide

theorem exists_sameLetter {a : Char} {p : List Char} (h : anyCase (a :: p) s = some t) :
    ∃ c ∈ s, sameLetter a c = true := by
  cases s with
  | nil => cases h
  | cons c s =>
    unfold anyCase at h
    split at h
    · next hsame => exact ⟨c, List.mem_cons_self .., hsame⟩
    · cases h

theorem skip_suffix (h : skip p s = some t) : t <:+ s := by
  obtain ⟨⟨taken, rest⟩, hrun, rfl⟩ := Option.map_eq_some_iff.mp h
  obtain ⟨rfl, -⟩ := run_eq_some hrun
  exact List.suffix_append taken rest

theorem shows_of_leadingCode (h : (leadingCode line).isSome = true) : Shows line := by
  obtain ⟨u, hu⟩ := Option.isSome_iff_exists.mp h
  obtain ⟨rest, hcode, -⟩ := Option.bind_eq_some_iff.mp hu
  rw [literal_eq_some_iff] at hcode
  exact ⟨'T', by simp [hcode], by decide⟩

theorem shows_of_positionedError (h : (positionedError line).isSome = true) : Shows line := by
  obtain ⟨u, hu⟩ := Option.isSome_iff_exists.mp h
  obtain ⟨rest, hskip, hu⟩ := Option.bind_eq_some_iff.mp hu
  obtain ⟨later, hcolon, -⟩ := Option.bind_eq_some_iff.mp hu
  rw [literal_eq_some_iff] at hcolon
  have hsuffix : rest <:+ line := (skip_suffix hskip).trans (List.dropWhile_suffix isBlank)
  exact ⟨':', hsuffix.subset (by simp [hcolon]), by decide⟩

/-- The place of an error stands in brackets. -/
theorem bracket_mem_of_fileError (h : (fileError line).isSome = true) : '(' ∈ line := by
  induction line with
  | nil => cases h
  | cons c s ih =>
    unfold fileError at h
    split at h
    · cases h
    · cases hplace : bracketedError s with
      | some u =>
        obtain ⟨rest, hbracket, -⟩ := Option.bind_eq_some_iff.mp hplace
        rw [literal_eq_some_iff] at hbracket
        simp [hbracket]
      | none =>
        rw [hplace] at h
        exact List.mem_cons_of_mem c (ih h)

theorem shows_of_fileError (h : (fileError line).isSome = true) : Shows line :=
  ⟨'(', bracket_mem_of_fileError h, by decide⟩

/-- Every way to open a block asks for something that is not blank. -/
theorem shows_of_opensBlock (h : opensBlock line = true) : Shows line := by
  have hstarts : ∀ p ∈ ["npm ERR!", "Error:", "SyntaxError:", "TypeError:", "Cannot find module",
      "Module not found"], Shows p.toList := by
    simp only [shows_iff]
    decide
  have hholds : ∀ p ∈ ["ERESOLVE", "node-gyp", "gyp ERR!"], Shows p.toList := by
    simp only [shows_iff]
    decide
  unfold opensBlock at h
  simp only [Bool.or_eq_true, or_assoc] at h
  rcases h with h | h | h | h | h | h
  · obtain ⟨p, hp, h⟩ := List.any_eq_true.mp h
    exact shows_of_startsWith (hstarts p hp) h
  · obtain ⟨rest, herror⟩ := Option.isSome_iff_exists.mp h
    obtain ⟨later, herror, -⟩ := Option.bind_eq_some_iff.mp herror
    obtain ⟨c, hc, hsame⟩ := exists_sameLetter (a := 'e') (p := ['r', 'r', 'o', 'r']) herror
    exact ⟨c, hc, isBlank_of_sameLetter hsame⟩
  · obtain ⟨p, hp, h⟩ := List.any_eq_true.mp h
    exact shows_of_holds (hholds p hp) h
  · exact shows_of_leadingCode h
  · exact shows_of_positionedError h
  · exact shows_of_fileError h

/-! ## Blocks -/

/-- A log in blocks: lines that open no block, then blocks, each with an opening line and with lines
that open no other one. -/
structure InBlocks (log : List Char) (before : List (List Char))
    (blocks : List (List (List Char))) : Prop where
  lines : splitOn '\n' log = before ++ blocks.flatten
  before : ∀ line ∈ before, opensBlock line = false
  blocks : ∀ block ∈ blocks, ∃ line rest, block = line :: rest ∧ opensBlock line = true ∧
    ∀ line ∈ rest, opensBlock line = false

theorem takeWhile_append_flatten_blocksOf (lines : List (List Char)) :
    lines.takeWhile (fun l => !opensBlock l) ++ (blocksOf lines).flatten = lines := by
  induction lines with
  | nil => rfl
  | cons line rest ih =>
    unfold blocksOf
    by_cases h : opensBlock line = true
    · simp [h, ih]
    · simp [h, ih]

theorem mem_blocksOf {block : List (List Char)} (h : block ∈ blocksOf lines) :
    ∃ line rest, block = line :: rest ∧ opensBlock line = true ∧
      ∀ line ∈ rest, opensBlock line = false := by
  induction lines with
  | nil => cases h
  | cons line rest ih =>
    unfold blocksOf at h
    split at h
    · next hopens =>
      rcases List.mem_cons.mp h with rfl | h
      · refine ⟨line, _, rfl, hopens, fun l hl => ?_⟩
        simpa using List.mem_takeWhile_imp hl
      · exact ih h
    · exact ih h

theorem length_blocksOf (lines : List (List Char)) :
    (blocksOf lines).length = lines.countP opensBlock := by
  induction lines with
  | nil => rfl
  | cons line rest ih =>
    unfold blocksOf
    by_cases h : opensBlock line = true
    · simp [h, ih]
    · simp [h, ih]

/-- A block ends where another one opens. -/
theorem blocksOf_append (h : opensBlock line = true) (lines more : List (List Char)) :
    blocksOf (lines ++ line :: more) = blocksOf lines ++ blocksOf (line :: more) := by
  induction lines with
  | nil => rfl
  | cons first rest ih =>
    rw [List.cons_append, blocksOf, blocksOf, ih]
    have htake : (rest ++ line :: more).takeWhile (fun l => !opensBlock l) =
        rest.takeWhile fun l => !opensBlock l := by
      rw [List.takeWhile_append]
      split
      · next hall =>
        rw [List.takeWhile_cons_of_neg (by simpa using h), List.append_nil]
        exact ((List.takeWhile_prefix _).eq_of_length hall).symm
      · rfl
    rw [htake]
    split <;> rfl

/-! ## Messages -/

/-- The number of lines of a log that open a block. -/
def openings (log : List Char) : Nat := (splitOn '\n' log).countP opensBlock

theorem blocksOf_inBlocks (log : List Char) : InBlocks log
    ((splitOn '\n' log).takeWhile fun l => !opensBlock l) (blocksOf (splitOn '\n' log)) where
  lines := (takeWhile_append_flatten_blocksOf _).symm
  before line hline := by simpa using List.mem_takeWhile_imp hline
  blocks _ := mem_blocksOf

/-- No block is blank. -/
theorem blockText_ne_nil {block : List (List Char)} (h : block ∈ blocksOf lines) :
    blockText block ≠ [] := by
  obtain ⟨line, rest, rfl, hopens, -⟩ := mem_blocksOf h
  obtain ⟨c, hc, hblank⟩ := shows_of_opensBlock hopens
  intro hnil
  have hall := trim_eq_nil_iff.mp hnil c (mem_joinWith _ (List.mem_cons_self ..) hc)
  rw [hblank] at hall
  cases hall

/-- Every block is a message, and if there is none, the whole log is one unless it is blank. -/
theorem messages_eq (log : List Char) : messages log =
    if openings log = 0 then (if log.all isBlank then [] else [trim log])
    else (blocksOf (splitOn '\n' log)).map blockText := by
  have hfilter : ((blocksOf (splitOn '\n' log)).map blockText).filter (!·.isEmpty) =
      (blocksOf (splitOn '\n' log)).map blockText := by
    refine List.filter_eq_self.mpr fun text htext => ?_
    obtain ⟨block, hblock, rfl⟩ := List.mem_map.mp htext
    simpa using blockText_ne_nil hblock
  have hlength : openings log = (blocksOf (splitOn '\n' log)).length :=
    (length_blocksOf _).symm
  have hblank : (trim log).isEmpty = log.all isBlank := by
    rw [Bool.eq_iff_iff, List.isEmpty_iff, trim_eq_nil_iff, List.all_eq_true]
  unfold messages
  rw [hfilter, hlength, hblank]
  cases blocksOf (splitOn '\n' log) <;> rfl

/-- Lines that all open a block are messages of their own. -/
theorem messages_lines (hne : lines ≠ [])
    (h : ∀ line ∈ lines, opensBlock line = true ∧ Trimmed line ∧ '\n' ∉ line) :
    messages (joinWith ['\n'] lines) = lines := by
  have hblocks : ∀ ls ⊆ lines, blocksOf ls = ls.map ([·]) := by
    intro ls hls
    induction ls with
    | nil => rfl
    | cons line ls ih =>
      rw [List.cons_subset] at hls
      have hnext : (ls.takeWhile fun l => !opensBlock l) = [] := by
        cases ls with
        | nil => rfl
        | cons next ls => simp [(h next (hls.2 (List.mem_cons_self ..))).1]
      rw [blocksOf, if_pos (h line hls.1).1, hnext, ih hls.2]
      rfl
  have hsplit : splitOn '\n' (joinWith ['\n'] lines) = lines :=
    splitOn_joinWith hne fun line hline => (h line hline).2.2
  have hall := hblocks lines (List.Subset.refl _)
  have hopens : openings (joinWith ['\n'] lines) ≠ 0 := by
    unfold openings
    rw [hsplit, ← length_blocksOf, hall, List.length_map]
    exact mt List.length_eq_zero_iff.mp hne
  have htexts : lines.map (blockText ∘ ([·])) = lines :=
    (List.map_congr_left fun line hline => (h line hline).2.1.trim_eq).trans (List.map_id lines)
  rw [messages_eq, if_neg hopens, hsplit, hall, List.map_map, htexts]

theorem messages_trimmed {m : List Char} (h : m ∈ messages log) : Trimmed m := by
  rw [messages_eq] at h
  split at h
  · split at h
    · cases h
    · next hblank =>
      obtain rfl := List.mem_singleton.mp h
      refine trimmed_trim fun hnil => hblank ?_
      exact List.all_eq_true.mpr (trim_eq_nil_iff.mp hnil)
  · obtain ⟨block, hblock, rfl⟩ := List.mem_map.mp h
    exact trimmed_trim (blockText_ne_nil hblock)

/-- The messages of a log: one for each line that opens a block, which is the text from that line up
to the next such line, or the log as a whole if there is none, unless it is blank. All of them are
trimmed, and a log that goes on with an opening line has the messages of its two parts. -/
theorem messages_blocks (log : List Char) :
    (0 < openings log → ∃ before blocks, InBlocks log before blocks ∧
        blocks.length = openings log ∧ messages log = blocks.map blockText) ∧
      (openings log = 0 → messages log = if log.all isBlank then [] else [trim log]) ∧
      (∀ m ∈ messages log, Trimmed m) ∧
      ∀ more line rest, 0 < openings log → splitOn '\n' more = line :: rest →
        opensBlock line = true → messages (log ++ '\n' :: more) = messages log ++ messages more := by
  refine ⟨fun hopens => ?_, fun hnone => ?_, fun m => messages_trimmed, ?_⟩
  · refine ⟨_, _, blocksOf_inBlocks log, length_blocksOf _, ?_⟩
    rw [messages_eq, if_neg hopens.ne']
  · rw [messages_eq, if_pos hnone]
  · intro more line rest hopens hmore hline
    have hboth : splitOn '\n' (log ++ '\n' :: more) = splitOn '\n' log ++ line :: rest := by
      rw [splitOn_append, hmore]
    have hopensMore : 0 < openings more := by simp [openings, hmore, hline]
    have hopensBoth : 0 < openings (log ++ '\n' :: more) := by
      unfold openings at hopens ⊢
      rw [hboth, List.countP_append]
      exact Nat.add_pos_left hopens _
    rw [messages_eq, if_neg hopensBoth.ne', messages_eq log, if_neg hopens.ne', messages_eq more,
      if_neg hopensMore.ne', hboth, hmore, blocksOf_append hline, List.map_append]

/-- A log with two errors, one of them with a further line. -/
def twoErrors : List Char := "> build\nnpm ERR! code E404\n  at fetch \n\nerror in build".toList

/-- A log with one error and its place. -/
def placedError : List Char := "main.ts(12,3): error TS2304\n".toList

theorem twoErrors_blocks :
    (∃ before blocks, InBlocks twoErrors before blocks ∧ blocks.length = 2 ∧
        messages twoErrors = blocks.map blockText) ∧
      messages (twoErrors ++ '\n' :: placedError) = messages twoErrors ++ messages placedError := by
  have hopenings : openings twoErrors = 2 := by decide +kernel
  have hline : opensBlock "main.ts(12,3): error TS2304".toList = true := by decide +kernel
  have hopens : 0 < openings twoErrors := by rw [hopenings]; decide
  have hpieces : splitOn '\n' placedError = ["main.ts(12,3): error TS2304".toList, []] := by
    decide +kernel
  obtain ⟨hblocks, -, -, happend⟩ := messages_blocks twoErrors
  obtain ⟨before, blocks, hin, hlength, hmessages⟩ := hblocks hopens
  exact ⟨⟨before, blocks, hin, hlength.trans hopenings, hmessages⟩,
    happend placedError _ _ hopens hpieces hline⟩

end BuildRepair
