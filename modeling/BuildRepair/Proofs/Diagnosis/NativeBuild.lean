import BuildRepair.Proofs.Diagnosis.MissingModule

/-
  The package of a native build that failed (`mention_failedBuild`). Two formats are tried. The
  first one reads a name up to an at sign: a plain name without its version
  (`find_nativeBuild_plain`), and no name in a scope. Its words are followed by a blank, so it finds
  nothing within a name either (`find_nativeBuild_scoped`). The second one has the at sign among its
  characters: it reads a name in a scope, and goes on into the version
  (`find_failedFor_failedBuild`).
-/

namespace BuildRepair

open Text

variable {c : Char} {name version s r : List Char} {before : Option Char}

/-! ## Characters -/

theorem isPartChar_path (h : isPartChar c = true) : isPathChar c = true := by
  unfold isPathChar
  rw [h]
  rfl

theorem isPartChar_native (h : isPartChar c = true) : isNativeNameChar c = true := by
  obtain ⟨-, -, hquote, hblank⟩ := isPathChar_ascii (isPartChar_path h)
  have hat : c ≠ '@' := by
    rintro rfl
    revert h
    decide
  have hcomma : c ≠ ',' := by
    rintro rfl
    revert h
    decide
  simp [isNativeNameChar, hquote, hblank, hat, hcomma]

theorem isPathChar_failed (h : isPathChar c = true) : isFailedNameChar c = true := by
  simp only [isPathChar, isPartChar, Bool.or_eq_true, Bool.and_eq_true, decide_eq_true_eq,
    beq_iff_eq] at h
  rcases h with (((((h | h) | rfl) | rfl) | rfl) | rfl) | rfl
  · simp [isFailedNameChar, readsAsLetter, isAsciiLetter, h]
  · simp [isFailedNameChar, h]
  all_goals decide

/-! ## The name behind a tool -/

/-- The word in front of a name is followed by a blank. -/
theorem builtName_eq_none (h : ∀ c ∈ s, isBlank c = false) : builtName before s = none := by
  refine Option.eq_none_iff_forall_ne_some.mpr fun name hname => ?_
  obtain ⟨_, -, hname⟩ := Option.bind_eq_some_iff.mp hname
  obtain ⟨word, -, hname⟩ := List.exists_of_findSome?_eq_some hname
  obtain ⟨r, hword, hname⟩ := Option.bind_eq_some_iff.mp hname
  obtain ⟨t, hskip, -⟩ := Option.bind_eq_some_iff.mp hname
  obtain ⟨u, rfl, -⟩ := anyCase_eq_some_iff.mp hword
  have hnone : skip isBlank r = none :=
    skip_eq_none fun c hc => h c (List.mem_append_right u (List.mem_of_mem_head? hc))
  rw [hnone] at hskip
  cases hskip

theorem builtOnLine_eq_none (h : ∀ c ∈ s, isBlank c = false) : builtOnLine before s = none := by
  induction s generalizing before with
  | nil => exact builtName_eq_none h
  | cons c s ih =>
    rw [builtOnLine, builtName_eq_none h]
    dsimp only
    split
    · rfl
    · exact ih fun b hb => h b (List.mem_cons_of_mem c hb)

theorem builtOnLine_of_here (h : builtName before s = some name) :
    builtOnLine before s = some name := by
  cases s with
  | nil => exact h
  | cons c s => rw [builtOnLine, h]

/-- A name is read up to the first character that it cannot have. -/
theorem builtName_for (hne : name ≠ []) (hall : ∀ c ∈ name, isPartChar c = true)
    (hr : ∀ c ∈ r.head?, isNativeNameChar c = false) :
    builtName (some ' ') ("for ".toList ++ (name ++ r)) = some name := by
  have hhead : ∀ c ∈ (name ++ r).head?, isPartChar c = true :=
    fun c hc => hall c (mem_of_head_append hne hc)
  have hword : ∀ s, anyCase "for".toList ("for ".toList ++ s) = some (' ' :: s) :=
    fun s => anyCase_of_literal (literal_eq_some_iff.mpr rfl)
  have hblank : skip isBlank (' ' :: (name ++ r)) = some (name ++ r) :=
    skip_cons (by decide) fun c hc => (isPathChar_ascii (isPartChar_path (hhead c hc))).2.2.2
  have hquote : Text.optional isQuote (name ++ r) = name ++ r :=
    optional_eq_self fun c hc => (isPathChar_ascii (isPartChar_path (hhead c hc))).2.2.1
  have hrun : run isNativeNameChar (name ++ r) = some (name, r) :=
    run_eq_some_iff.mpr ⟨rfl, hne, fun c hc => isPartChar_native (hall c hc), hr⟩
  have hstart : ∀ s, atBoundary (some ' ') ("for ".toList ++ s) = true := fun s => rfl
  unfold builtName
  refine Option.bind_eq_some_iff.mpr ⟨(), (Option.guard_eq_some' _).mpr (hstart _), ?_⟩
  simp only [List.findSome?_cons, hword, hblank, hquote, hrun, Option.bind_eq_bind,
    Option.bind_some]
  rfl

theorem nativeBuild_tool (s : List Char) :
    nativeBuild ("node-gyp".toList ++ s) = builtOnLine (some 'p') s := by
  have hfirst : anyCase "node-gyp".toList ("node-gyp".toList ++ s) = some s :=
    anyCase_of_literal (literal_eq_some_iff.mpr rfl)
  have hsecond : anyCase "gyp ERR!".toList ("node-gyp".toList ++ s) = none := rfl
  have hthird : anyCase "prebuild-install".toList ("node-gyp".toList ++ s) = none := rfl
  have hlast : "node-gyp".toList.getLast? = some 'p' := rfl
  unfold nativeBuild
  simp only [List.findSome?_cons, List.findSome?_nil, hfirst, hsecond, hthird, hlast,
    Option.bind_some, Option.bind_none]
  cases builtOnLine (some 'p') s <;> rfl

/-- The tools are followed by words and blanks, so a text without blanks tells no name. -/
theorem nativeBuild_eq_none (h : ∀ c ∈ s, isBlank c = false) : nativeBuild s = none := by
  unfold nativeBuild
  rw [List.findSome?_eq_none_iff]
  intro tool _
  cases htool : anyCase tool.toList s with
  | none => rfl
  | some r =>
    obtain ⟨u, rfl, -⟩ := anyCase_eq_some_iff.mp htool
    exact builtOnLine_eq_none fun c hc => h c (List.mem_append_right u hc)

theorem tool_of_nativeBuild (s name : List Char) (h : nativeBuild s = some name) :
    ∃ w ∈ ["node-gyp", "gyp ERR!", "prebuild-install"].map (·.toList),
      ∃ r, anyCase w s = some r := by
  obtain ⟨tool, htool, hread⟩ := List.exists_of_findSome?_eq_some h
  obtain ⟨r, hr, -⟩ := Option.bind_eq_some_iff.mp hread
  exact ⟨_, List.mem_map_of_mem htool, r, hr⟩

/-! ## The line of a failed build -/

/-- The line about a native build that failed. -/
def failedBuild (s : List Char) : List Char := "npm ERR! node-gyp rebuild failed for ".toList ++ s

theorem find_nativeBuild_failedBuild (s : List Char) :
    find nativeBuild (failedBuild s) =
      (builtOnLine (some 'p') (" rebuild failed for ".toList ++ s)).or (find nativeBuild s) := by
  have hwords : "npm ERR! node-gyp rebuild failed for ".toList =
      "npm ERR! ".toList ++ ("node-gyp".toList ++ " rebuild failed for ".toList) := by decide
  have hline : failedBuild s = "npm ERR! ".toList ++ ("node-gyp".toList ++
      (" rebuild failed for ".toList ++ s)) := by
    unfold failedBuild
    rw [hwords, List.append_assoc, List.append_assoc]
  -- the tool is read at its place in the line, and else only behind the words
  have hrest : find nativeBuild ("ode-gyp rebuild failed for ".toList ++ ([] ++ s)) =
      find nativeBuild ([] ++ s) :=
    find_of_noneBegins tool_of_nativeBuild (by decide) s
  have htool : find nativeBuild ("node-gyp".toList ++ (" rebuild failed for ".toList ++ s)) =
      (nativeBuild ("node-gyp".toList ++ (" rebuild failed for ".toList ++ s))).or
        (find nativeBuild ("ode-gyp rebuild failed for ".toList ++ s)) :=
    find_cons 'n' _
  rw [List.nil_append] at hrest
  rw [hline, find_of_noneBegins tool_of_nativeBuild (by decide), htool, nativeBuild_tool, hrest]

/-- A plain name is found behind the tool, whatever follows it. -/
theorem find_nativeBuild_plain (hne : name ≠ []) (hall : ∀ c ∈ name, isPartChar c = true)
    (hr : ∀ c ∈ r.head?, isNativeNameChar c = false) :
    find nativeBuild (failedBuild (name ++ r)) = some name := by
  have hwords : ∀ s, builtOnLine (some 'p') (" rebuild failed for ".toList ++ s) =
      builtOnLine (some ' ') ("for ".toList ++ s) := fun s => rfl
  rw [find_nativeBuild_failedBuild, hwords, builtOnLine_of_here (builtName_for hne hall hr),
    Option.some_or]

/-- A name in a scope is not found behind the tool. -/
theorem find_nativeBuild_scoped (h : ∀ c ∈ s, isBlank c = false) :
    find nativeBuild (failedBuild ('@' :: s)) = none := by
  have hall : ∀ c ∈ '@' :: s, isBlank c = false :=
    List.forall_mem_cons.mpr ⟨by decide, h⟩
  have hwords : builtOnLine (some 'p') (" rebuild failed for ".toList ++ '@' :: s) =
      builtOnLine (some ' ') ('@' :: s) := rfl
  have hlater : find nativeBuild ('@' :: s) = none :=
    find_eq_none fun t ht => nativeBuild_eq_none fun c hc => hall c (ht.subset hc)
  rw [find_nativeBuild_failedBuild, hwords, builtOnLine_eq_none hall, hlater]
  rfl

/-- The second format reads as far as its characters go. -/
theorem find_failedFor_failedBuild (hne : s.takeWhile isFailedNameChar ≠ [])
    (hhead : ∀ c ∈ s.head?, isBlank c = false ∧ isQuote c = false) :
    find failedFor (failedBuild s) = some (s.takeWhile isFailedNameChar) := by
  have hwords : "npm ERR! node-gyp rebuild failed for ".toList =
      "npm ERR! node-gyp rebuild ".toList ++ ("failed".toList ++ " for ".toList) := by decide
  have hline : failedBuild s = "npm ERR! node-gyp rebuild ".toList ++ ("failed".toList ++
      (" for ".toList ++ s)) := by
    unfold failedBuild
    rw [hwords, List.append_assoc, List.append_assoc]
  have hscan : ∀ t name, failedFor t = some name →
      ∃ w ∈ ["failed".toList], ∃ r, anyCase w t = some r := by
    intro t name hread
    obtain ⟨r, hr, -⟩ := Option.bind_eq_some_iff.mp hread
    exact ⟨_, List.mem_singleton.mpr rfl, r, hr⟩
  have hfailed : ∀ s, anyCase "failed".toList ("failed".toList ++ s) = some s :=
    fun s => anyCase_of_literal (literal_eq_some_iff.mpr rfl)
  have hbefore : skip isBlank (" for ".toList ++ s) = some ("for ".toList ++ s) :=
    skip_cons (by decide) fun c hc => by obtain rfl := Option.some.inj hc; decide
  have hfor : anyCase "for".toList ("for ".toList ++ s) = some (' ' :: s) :=
    anyCase_of_literal (literal_eq_some_iff.mpr rfl)
  have hblank : skip isBlank (' ' :: s) = some s :=
    skip_cons (by decide) fun c hc => (hhead c hc).1
  have hquote : Text.optional isQuote s = s := optional_eq_self fun c hc => (hhead c hc).2
  have hhere : failedFor ("failed".toList ++ (" for ".toList ++ s)) =
      some (s.takeWhile isFailedNameChar) := by
    unfold failedFor
    simp only [hfailed, hbefore, hfor, hblank, hquote, run_takeWhile hne, Option.bind_eq_bind,
      Option.bind_some]
    rfl
  rw [hline, find_of_noneBegins hscan (by decide)]
  exact find_of_here hhere

/-! ## What is told -/

theorem mention_plainBuild (hne : name ≠ []) (hall : ∀ c ∈ name, isPartChar c = true)
    (hr : ∀ c ∈ r.head?, isNativeNameChar c = false) :
    mention .nativeModule (failedBuild (name ++ r)) = some { name := String.ofList name } := by
  show nativeMention _ = _
  unfold nativeMention
  rw [find_nativeBuild_plain hne hall hr]
  rfl

theorem mention_scopedBuild (h : ∀ c ∈ s, isBlank c = false) :
    mention .nativeModule (failedBuild ('@' :: s)) =
      some { name := String.ofList ('@' :: s.takeWhile isFailedNameChar) } := by
  have hat : isFailedNameChar '@' = true := by decide
  have htake : ('@' :: s).takeWhile isFailedNameChar = '@' :: s.takeWhile isFailedNameChar :=
    List.takeWhile_cons_of_pos hat
  have hhead : ∀ c ∈ ('@' :: s).head?, isBlank c = false ∧ isQuote c = false := by
    intro c hc
    obtain rfl : '@' = c := Option.some.inj hc
    decide
  show nativeMention _ = _
  unfold nativeMention
  rw [find_nativeBuild_scoped h, find_failedFor_failedBuild (by rw [htake]; simp) hhead, htake]
  rfl

/-- A native build that failed tells the name of its package, also if a version follows a plain
name. A version behind a name in a scope is taken for a part of the name as far as its characters
go. -/
theorem mention_failedBuild (h : ModuleName name) (hversion : ∀ c ∈ version, isBlank c = false) :
    mention .nativeModule (failedBuild name) = some { name := String.ofList name } ∧
    mention .nativeModule (failedBuild (name ++ '@' :: version)) =
      some { name := String.ofList (if name.head? = some '@' then
        name ++ '@' :: version.takeWhile isFailedNameChar else name) } ∧
    (mention .nativeModule (failedBuild (name ++ '@' :: version)) =
        some { name := String.ofList name } ↔ name.head? ≠ some '@') := by
  by_cases hscope : name.head? = some '@'
  · obtain ⟨s, rfl⟩ : ∃ s, name = '@' :: s := ⟨_, (List.cons_head?_tail hscope).symm⟩
    have hpath : ∀ c ∈ s, isPathChar c = true :=
      fun c hc => isPath_mem h.isPath (List.mem_cons_of_mem _ hc)
    have hblank : ∀ c ∈ s, isBlank c = false := fun c hc => (isPathChar_ascii (hpath c hc)).2.2.2
    have hboth : ∀ c ∈ s ++ '@' :: version, isBlank c = false := by
      intro c hc
      rw [List.mem_append, List.mem_cons] at hc
      rcases hc with hc | rfl | hc
      · exact hblank c hc
      · decide
      · exact hversion c hc
    have hfailed : ∀ c ∈ s, isFailedNameChar c = true := fun c hc => isPathChar_failed (hpath c hc)
    have hbare : s.takeWhile isFailedNameChar = s := List.takeWhile_eq_self_iff.mpr hfailed
    have hon : (s ++ '@' :: version).takeWhile isFailedNameChar =
        s ++ '@' :: version.takeWhile isFailedNameChar := by
      rw [List.takeWhile_append_of_pos hfailed, List.takeWhile_cons_of_pos (by decide)]
    have hversioned := mention_scopedBuild hboth
    rw [hon] at hversioned
    rw [mention_scopedBuild hblank, hbare, List.cons_append, hversioned, if_pos hscope]
    refine ⟨rfl, rfl, iff_of_false ?_ (not_not_intro hscope)⟩
    simp
  · have hall : ∀ c ∈ name, isPartChar c = true := by
      cases h with
      | plain c s hlow hhigh hs =>
        refine List.forall_mem_cons.mpr ⟨?_, List.all_eq_true.mp hs⟩
        simp [isPartChar, hlow, hhigh]
      | inScope => exact absurd rfl hscope
    have hbare := mention_plainBuild h.ne_nil hall (r := []) (by simp)
    have hversioned := mention_plainBuild h.ne_nil hall (r := '@' :: version)
      (fun c hc => by obtain rfl := Option.some.inj hc; decide)
    rw [List.append_nil] at hbare
    rw [if_neg hscope]
    exact ⟨hbare, hversioned, iff_of_true hversioned hscope⟩

/-- A plain name that is itself one of the words in front of names. -/
theorem mention_failedBuild_word :
    mention .nativeModule "npm ERR! node-gyp rebuild failed for building@1.0.0-rc.1".toList =
      some { name := "building" } := by
  have hname : ModuleName "building".toList :=
    .plain 'b' "uilding".toList (by decide) (by decide) (by decide)
  have hline : failedBuild ("building".toList ++ '@' :: "1.0.0-rc.1".toList) =
      "npm ERR! node-gyp rebuild failed for building@1.0.0-rc.1".toList := by
    decide +kernel
  rw [← hline]
  exact (mention_failedBuild hname (eq_false_of_all (by decide))).2.2.mpr (by decide)

/-- A version behind a name in a scope is not told apart from it. -/
theorem mention_scopedBuild_versioned :
    ModuleName "@serialport/bindings".toList ∧
      mention .nativeModule
          (failedBuild ("@serialport/bindings".toList ++ '@' :: "9.2.0".toList)) =
        some { name := "@serialport/bindings@9.2.0" } ∧
      mention .nativeModule
          (failedBuild ("@serialport/bindings".toList ++ '@' :: "9.2.0".toList)) ≠
        some { name := "@serialport/bindings" } := by
  have hname : ModuleName "@serialport/bindings".toList :=
    .inScope "serialport".toList "bindings".toList (by decide) (by decide) (by decide) (by decide)
  have hmention : mention .nativeModule
      (failedBuild ("@serialport/bindings".toList ++ '@' :: "9.2.0".toList)) =
      some { name := "@serialport/bindings@9.2.0" } :=
    mention_scopedBuild (s := "serialport/bindings@9.2.0".toList) (eq_false_of_all (by decide))
  refine ⟨hname, hmention, ?_⟩
  rw [hmention]
  decide

end BuildRepair
