import BuildRepair.Proofs.Diagnosis.Merging
import BuildRepair.Proofs.Diagnosis.Requirement

/-
  Ranges in quotes in reports of unresolved dependencies (`mention_quotedRange`). A version is read
  up to the first blank or comma also where it is quoted, so a range is told as a whole exactly if
  it has neither. What a message about versions tells is what its remedies pin
  (`addResolution_mem_ofMessage`).
-/

namespace BuildRepair

open Text

variable {name range s : List Char} {m : PackageMention}

/-! ## What is pinned -/

/-- Every version that is read has characters of versions only. -/
theorem versionMention_version (h : versionMention s = some m) :
    ∃ v, m.version = some (String.ofList v) ∧ v ≠ [] ∧ ∀ c ∈ v, isVersionChar c = true := by
  obtain ⟨t, ht⟩ := versionMention_eq_some h
  unfold versionedName at ht
  simp only [bind, Option.bind_eq_some_iff] at ht
  obtain ⟨_, -, _, -, ⟨v, _⟩, hversion, heq⟩ := ht
  cases heq
  obtain ⟨-, hne, hall, -⟩ := run_eq_some_iff.mp hversion
  exact ⟨v, rfl, hne, hall⟩

namespace Diagnosis

variable {d : Diagnosis} {p v : Json} {q : String}

/-- A version conflict of a known package calls for four remedies. -/
theorem remedies_versionConflict (h : d.category = .versionConflict)
    (hq : d.namedPackage = some q) :
    d.remedies = [.legacyPeerDeps, .adjustVersion (.str q) (.str d.targetVersion),
      .addResolution (.str q) (d.pinnedVersion (.str "*")), Remedy.defaultLockfile] := by
  have hlatest : d.customize Remedy.toLatest =
      some (.adjustVersion (.str q) (.str d.targetVersion)) := by
    show d.namedPackage.map _ = _
    rw [hq]
    rfl
  have hpin : d.customize Remedy.pinAny =
      some (.addResolution (.str q) (d.pinnedVersion (.str "*"))) := by
    show d.namedPackage.map _ = _
    rw [hq]
    rfl
  unfold remedies
  rw [h]
  simp only [Remedy.templates, List.foldl_cons, List.foldl_nil, hlatest, hpin]
  rfl

/-- A version conflict of an unknown package pins nothing. -/
theorem addResolution_not_mem (h : d.category = .versionConflict) (hq : d.namedPackage = none) :
    .addResolution p v ∉ d.remedies := by
  intro hmem
  obtain ⟨template, ht, hcustom⟩ := mem_remedies hmem
  have hnone : ∀ {f : String → Remedy}, d.namedPackage.map f ≠ some (.addResolution p v) := by
    rw [hq]
    simp
  rw [h] at ht
  simp only [Remedy.templates, List.mem_cons, List.not_mem_nil, or_false] at ht
  rcases ht with rfl | rfl | rfl | rfl
  · cases hcustom
  · exact hnone hcustom
  · exact hnone hcustom
  · cases hcustom

/-- What a message about versions tells is what its remedies pin. -/
theorem addResolution_mem_ofMessage (h : Category.ofMessage s = .versionConflict) :
    .addResolution p v ∈ (ofMessage s).remedies ↔
      ∃ m, mention .versionConflict s = some m ∧ p = .str m.name ∧
        m.version.map Json.str = some v := by
  have hcategory : (ofMessage s).category = .versionConflict := h
  have hpackage : (ofMessage s).package = (mention .versionConflict s).map (·.name) := by
    rw [← h]
    rfl
  have hconstraint : (ofMessage s).constraint = (mention .versionConflict s).bind (·.version) := by
    rw [← h]
    rfl
  cases hm : mention .versionConflict s with
  | none =>
    have hunnamed : (ofMessage s).namedPackage = none := by
      unfold namedPackage
      rw [hpackage, hm]
      rfl
    simpa using addResolution_not_mem hcategory hunnamed
  | some m =>
    obtain ⟨w, hw, hne, -⟩ := versionMention_version hm
    have hnamed : (ofMessage s).namedPackage = some m.name := by
      unfold namedPackage
      rw [hpackage, hm]
      simpa using versionMention_named hm
    have hpinned : (ofMessage s).pinnedVersion (.str "*") = .str (String.ofList w) := by
      unfold pinnedVersion
      rw [hconstraint, hm, Option.bind_some, hw, Option.filter_some,
        if_pos (by simpa using ofList_ne_empty hne)]
    rw [remedies_versionConflict hcategory hnamed, hpinned]
    simp [Remedy.defaultLockfile, hw, @eq_comm _ v]

end Diagnosis

/-! ## The range of an unresolved dependency -/

/-- The line about a dependency that cannot be resolved within a range. -/
def unresolvedRange (name range : List Char) : List Char :=
  "npm ERR! Could not resolve dependency: peer ".toList ++ name ++ '@' :: '"' :: range ++ ['"']

theorem takeWhile_append_quote (range : List Char) :
    (range ++ ['"']).takeWhile isVersionChar = range.takeWhile isVersionChar := by
  rw [List.takeWhile_append]
  split
  · next hlength =>
    have hall : range.takeWhile isVersionChar = range :=
      (List.takeWhile_prefix _).eq_of_length hlength
    rw [hall]
    exact List.append_nil range
  · rfl

/-- A version in quotes is read up to the first character that no version has. -/
theorem versionedName_quoted (h : PackageName name)
    (hne : range.takeWhile isVersionChar ≠ []) :
    versionedName (name ++ '@' :: '"' :: (range ++ ['"'])) =
      some ⟨String.ofList name, some (String.ofList (range.takeWhile isVersionChar)), none⟩ := by
  have hquote : Text.optional (· == '"') ('"' :: (range ++ ['"'])) = range ++ ['"'] := rfl
  have hrun := run_takeWhile (q := isVersionChar) (s := range ++ ['"'])
    (by rwa [takeWhile_append_quote])
  rw [versionedName_append h, hquote, hrun, takeWhile_append_quote]
  rfl

theorem mention_unresolvedRange (h : PackageName name)
    (hne : range.takeWhile isVersionChar ≠ []) :
    mention .versionConflict (unresolvedRange name range) =
      some ⟨String.ofList name, some (String.ofList (range.takeWhile isVersionChar)), none⟩ := by
  have hline : unresolvedRange name range = "npm ERR! ".toList ++
      ("Could not resolve dependency".toList ++
        (": peer ".toList ++ (name ++ '@' :: '"' :: (range ++ ['"'])))) := by
    unfold unresolvedRange
    simp only [List.append_assoc, List.cons_append]
    rfl
  have hword : ∀ s, literal "Could not resolve dependency".toList
      ("Could not resolve dependency".toList ++ s) = some s := fun s => literal_eq_some_iff.mpr rfl
  have hcolon : ∀ s, literal [':'] (": peer ".toList ++ s) = some (" peer ".toList ++ s) :=
    fun s => rfl
  have hblank : ∀ s, (" peer ".toList ++ s).dropWhile isBlank = "peer ".toList ++ s := fun s => rfl
  have hread : unresolved ("Could not resolve dependency".toList ++
        (": peer ".toList ++ (name ++ '@' :: '"' :: (range ++ ['"'])))) =
      some ⟨String.ofList name, some (String.ofList (range.takeWhile isVersionChar)), none⟩ := by
    unfold unresolved
    simp only [hword, hcolon, hblank, afterPeer_peer (h.head_append _),
      versionedName_quoted h hne, Option.bind_eq_bind, Option.bind_some, Option.some_or]
    rfl
  have hfind : find unresolved (unresolvedRange name range) =
      some ⟨String.ofList name, some (String.ofList (range.takeWhile isVersionChar)), none⟩ := by
    rw [hline, find_of_noneBegins words_of_unresolved (by decide)]
    exact find_of_here hread
  show versionMention _ = _
  unfold versionMention
  rw [hfind]
  rfl

/-- Of a range in quotes the part in front of its first blank or comma is told. So the whole range
is told, and pinned by the remedies of a version conflict, exactly if it has neither. -/
theorem mention_quotedRange (hname : PackageName name) (hrange : range ≠ [])
    (hquote : '"' ∉ range) :
    (range.takeWhile isVersionChar ≠ [] →
      mention .versionConflict (unresolvedRange name range) =
        some ⟨String.ofList name, some (String.ofList (range.takeWhile isVersionChar)), none⟩) ∧
    (mention .versionConflict (unresolvedRange name range) =
        some ⟨String.ofList name, some (String.ofList range), none⟩ ↔
      ∀ c ∈ range, isBlank c = false ∧ c ≠ ',') ∧
    (Category.ofMessage (unresolvedRange name range) = .versionConflict →
      (.addResolution (.str (String.ofList name)) (.str (String.ofList range)) ∈
          (Diagnosis.ofMessage (unresolvedRange name range)).remedies ↔
        ∀ c ∈ range, isBlank c = false ∧ c ≠ ',')) := by
  have hchars : (∀ c ∈ range, isBlank c = false ∧ c ≠ ',') ↔
      ∀ c ∈ range, isVersionChar c = true := by
    refine forall₂_congr fun c hc => ?_
    have hc : c ≠ '"' := fun heq => hquote (heq ▸ hc)
    simp [isVersionChar_iff, hc]
  have hwhole : (∀ c ∈ range, isVersionChar c = true) →
      mention .versionConflict (unresolvedRange name range) =
        some ⟨String.ofList name, some (String.ofList range), none⟩ := by
    intro hall
    have htake : range.takeWhile isVersionChar = range := List.takeWhile_eq_self_iff.mpr hall
    have hne : range.takeWhile isVersionChar ≠ [] := by rwa [htake]
    have h := mention_unresolvedRange hname hne
    rwa [htake] at h
  have hversion : ∀ m, mention .versionConflict (unresolvedRange name range) = some m →
      m.version = some (String.ofList range) → ∀ c ∈ range, isVersionChar c = true := by
    intro m hm hrange
    obtain ⟨v, hv, -, hall⟩ := versionMention_version hm
    have heq : v = range := String.ofList_injective (Option.some.inj (hv.symm.trans hrange))
    rwa [← heq]
  rw [hchars]
  refine ⟨mention_unresolvedRange hname, ⟨fun h => hversion _ h rfl, hwhole⟩, fun hcategory => ?_⟩
  rw [Diagnosis.addResolution_mem_ofMessage hcategory]
  constructor
  · rintro ⟨m, hm, -, hpinned⟩
    obtain ⟨v, hv, heq⟩ := Option.map_eq_some_iff.mp hpinned
    cases heq
    exact hversion m hm hv
  · intro hall
    exact ⟨_, hwhole hall, rfl, rfl⟩

/-- A range without blanks of a package in a scope. -/
theorem mention_quotedRange_scoped :
    mention .versionConflict
        "npm ERR! Could not resolve dependency: peer @types/react@\">=16.9||17.x\"".toList =
      some ⟨"@types/react", some ">=16.9||17.x", none⟩ ∧
    .addResolution (.str "@types/react") (.str ">=16.9||17.x") ∈ (Diagnosis.ofMessage
        "npm ERR! Could not resolve dependency: peer @types/react@\">=16.9||17.x\"".toList
      ).remedies := by
  have hname : PackageName "@types/react".toList :=
    .inScope "types".toList "react".toList (by decide) (by decide) (by decide) (by decide)
  have hline : unresolvedRange "@types/react".toList ">=16.9||17.x".toList =
      "npm ERR! Could not resolve dependency: peer @types/react@\">=16.9||17.x\"".toList := by
    decide +kernel
  have hcategory : Category.ofMessage (unresolvedRange "@types/react".toList
      ">=16.9||17.x".toList) = .versionConflict := by
    decide +kernel
  have hcomma : ',' ∉ ">=16.9||17.x".toList := by decide
  have hchars : ∀ c ∈ ">=16.9||17.x".toList, isBlank c = false ∧ c ≠ ',' :=
    fun c hc => ⟨eq_false_of_all (by decide) c hc, fun heq => hcomma (heq ▸ hc)⟩
  have hne : ">=16.9||17.x".toList ≠ [] := by decide
  obtain ⟨-, hmention, hpinned⟩ := mention_quotedRange hname hne (by decide)
  rw [← hline]
  exact ⟨hmention.mpr hchars, (hpinned hcategory).mpr hchars⟩

/-- Two ranges of which one is told and pinned. -/
theorem mention_unresolvedRange_cut :
    PackageName "react".toList ∧ "^16.8.0 || ^17.0.0".toList ≠ [] ∧
      '"' ∉ "^16.8.0 || ^17.0.0".toList ∧
      mention .versionConflict
          (unresolvedRange "react".toList "^16.8.0 || ^17.0.0".toList) ≠
        some ⟨"react", some "^16.8.0 || ^17.0.0", none⟩ ∧
      .addResolution (.str "react") (.str "^16.8.0") ∈ (Diagnosis.ofMessage
        (unresolvedRange "react".toList "^16.8.0 || ^17.0.0".toList)).remedies := by
  have hname : PackageName "react".toList := .plain _ (by decide) (by decide)
  have hmention : mention .versionConflict
      (unresolvedRange "react".toList "^16.8.0 || ^17.0.0".toList) =
      some ⟨"react", some "^16.8.0", none⟩ :=
    mention_unresolvedRange hname (by decide)
  have hcategory : Category.ofMessage
      (unresolvedRange "react".toList "^16.8.0 || ^17.0.0".toList) = .versionConflict := by
    decide +kernel
  refine ⟨hname, by decide, by decide, ?_, ?_⟩
  · rw [hmention]
    decide
  · rw [Diagnosis.addResolution_mem_ofMessage hcategory]
    exact ⟨_, hmention, rfl, rfl⟩

end BuildRepair
