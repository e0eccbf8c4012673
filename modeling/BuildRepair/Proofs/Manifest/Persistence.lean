import BuildRepair.Proofs.Manifest

/-
  Manifests last. Saving a document writes its text (`bears_of_save`), which goes through where
  nothing is in the way (`save_of_accepts`). A manifest that bears the text of a document that loses
  nothing is loaded as that document, with every field in its place (`Bears.load`), so saving what
  was loaded writes the same text again (`Bears.save_same`). `save_lasts` says all of it.
-/

namespace BuildRepair.Manifest

open Json (Lossless)

variable {t u : Tree} {repo : Path} {doc : Fields}

/-- Whether a manifest can be put into a repository: its path leads to a place that no directory
takes, and there is room for a temporary file beside it. -/
structure Accepts (t : Tree) (repo : Path) : Prop where
  place : ∃ l e, t.locate (pathIn repo) = .ok (l, e) ∧ e ≠ some .directory
  room : ¬ t.IsCramped (pathIn repo)

/-- Whether the manifest of a repository is the text of a document and nothing else. -/
def Bears (t : Tree) (repo : Path) (doc : Fields) : Prop :=
  ∃ l, t.locate (pathIn repo) = .ok (l, some (.file (.text (Json.obj doc).document)))

/-- A document without points in time is saved as its text is written. -/
theorem save_eq_ok (h : Lossless (.obj doc)) :
    save t repo doc = .ok u ↔ t.replaceText (pathIn repo) (Json.obj doc).document = (u, .ok ()) := by
  have hdates : Json.fieldsHoldDate doc = false :=
    Json.fieldsHoldDate_eq_false_iff.mpr (Json.dateless_obj_iff.mp h.readable.dateless)
  unfold save write
  rw [hdates, if_neg (by decide)]
  rcases t.replaceText (pathIn repo) (Json.obj doc).document with ⟨w, e | ⟨⟩⟩
  · simp
  · simp

theorem save_of_accepts (ht : Accepts t repo) (h : Lossless (.obj doc)) :
    ∃ u, save t repo doc = .ok u := by
  obtain ⟨l, e, hl, hdir⟩ := ht.place
  obtain ⟨u, hu⟩ := replaceText_of_locate hl hdir ht.room (Json.obj doc).document
  exact ⟨u, (save_eq_ok h).mpr hu⟩

/-- What is saved is the text of the document, and no other place changes. -/
theorem bears_of_save (h : Lossless (.obj doc)) (hsave : save t repo doc = .ok u) :
    ∃ l, u.locate (pathIn repo) = .ok (l, some (.file (.text (Json.obj doc).document))) ∧
      ∀ k, k ≠ l → u.get? k = t.get? k :=
  Tree.writeText_spec (Tree.replaceText_ok ((save_eq_ok h).mp hsave))

/-- The text of a document is loaded as the document, field by field in the order written. -/
theorem Bears.load (hb : Bears t repo doc) (h : Lossless (.obj doc)) :
    Manifest.load t repo = .ok doc := by
  obtain ⟨l, hl⟩ := hb
  exact load_eq_ok.mpr ⟨l, _, hl, standsAt_of_document h (Tree.locate_get? hl).symm⟩

theorem Bears.accepts (hb : Bears t repo doc) (hroom : ¬ t.IsCramped (pathIn repo)) :
    Accepts t repo := by
  obtain ⟨l, hl⟩ := hb
  exact ⟨⟨l, _, hl, by simp⟩, hroom⟩

/-- Writing the text that is there already changes nothing. -/
theorem Bears.save_same (hb : Bears t repo doc) (h : Lossless (.obj doc))
    (hsave : save t repo doc = .ok u) : ∀ k, u.get? k = t.get? k := by
  obtain ⟨l, hl⟩ := hb
  obtain ⟨l', hl', hothers⟩ := bears_of_save h hsave
  have hworking := Tree.writeText_working (Tree.replaceText_ok ((save_eq_ok h).mp hsave))
  obtain rfl : l' = l := Tree.locate_unique hworking.symm hl' hl
  intro k
  by_cases hk : k = l'
  · rw [hk, ← Tree.locate_get? hl', ← Tree.locate_get? hl]
  · exact hothers k hk

/-- Saving what is loaded. -/
def resave (t : Tree) (repo : Path) : Except Failure Tree :=
  match load t repo with
  | .error e => .error e
  | .ok doc => save t repo doc

theorem Bears.resave_eq (hb : Bears t repo doc) (h : Lossless (.obj doc)) :
    resave t repo = save t repo doc := by
  unfold resave
  rw [hb.load h]

/-- A document that loses nothing can be saved wherever a manifest is accepted. Once it is saved,
the manifest is the document's text and is loaded as the document; and in every tree where the
manifest is this text, saving what is loaded goes through where there is room and leaves everything
as it is, the manifest with it. -/
theorem save_lasts (repo : Path) (h : Lossless (.obj doc)) :
    (∀ t, Accepts t repo → ∃ u, save t repo doc = .ok u) ∧
    (∀ t u, save t repo doc = .ok u → Bears u repo doc ∧ load u repo = .ok doc) ∧
    ∀ u, Bears u repo doc →
      (¬ u.IsCramped (pathIn repo) → ∃ v, resave u repo = .ok v) ∧
      ∀ v, resave u repo = .ok v → Bears v repo doc ∧ ∀ k, v.get? k = u.get? k := by
  have hbears {t u : Tree} (hsave : save t repo doc = .ok u) : Bears u repo doc := by
    obtain ⟨l, hl, -⟩ := bears_of_save h hsave
    exact ⟨l, hl⟩
  refine ⟨fun t ht => save_of_accepts ht h, ?_, ?_⟩
  · intro t u hsave
    exact ⟨hbears hsave, (hbears hsave).load h⟩
  · intro u hb
    rw [hb.resave_eq h]
    refine ⟨fun hroom => save_of_accepts (hb.accepts hroom) h, ?_⟩
    intro v hsave
    exact ⟨hbears hsave, hb.save_same h hsave⟩

/-- A document of several levels, with a name and a text that are not ASCII. -/
def nested : Fields :=
  [("z", .obj [("é", .arr [.null, .bool true, .int (-3)]), ("a", .str "\x01😀")]), ("b", .int 7)]

theorem lossless_nested : Lossless (.obj nested) := by
  have hint (n : Int) (hn : n.natAbs < 10) : Lossless (.int n) := by
    refine .int (Nat.lt_of_lt_of_le hn ?_)
    rw [Binary64.tenPow_eq]
    exact Nat.le_self_pow (by decide) 10
  refine .obj ?_ (by decide)
  simp only [nested, List.forall_mem_cons, List.not_mem_nil, false_imp_iff, implies_true, and_true]
  refine ⟨.obj ?_ (by decide), hint 7 (by decide)⟩
  simp only [List.forall_mem_cons, List.not_mem_nil, false_imp_iff, implies_true, and_true]
  refine ⟨.arr ?_, .str _⟩
  simp only [List.forall_mem_cons, List.not_mem_nil, false_imp_iff, implies_true, and_true]
  exact ⟨.null, .bool true, hint (-3) (by decide)⟩

/-- An empty repository. -/
def emptyRepository : Tree := { entries := [(["r"], .directory)] }

/-- Where the manifest is made, there is room for another temporary file. -/
theorem not_cramped_of_save (hsave : save emptyRepository ⟨"", ["r"]⟩ nested = .ok u) :
    ¬ u.IsCramped (pathIn ⟨"", ["r"]⟩) := by
  have hwrite := Tree.replaceText_ok ((save_eq_ok lossless_nested).mp hsave)
  generalize (Json.obj nested).document = text at hwrite
  have hput : emptyRepository.writeText (pathIn ⟨"", ["r"]⟩) text =
      .ok { entries := [(["r"], .directory), (["r", "package.json"], .file (.text text))] } := rfl
  cases hput.symm.trans hwrite
  refine not_or.mpr ⟨by decide, ?_⟩
  show ¬ 16 ^ 8 ≤ 2
  decide

/-- The document is saved there, loaded, and saved again. -/
theorem nested_lasts : ∃ u v, save emptyRepository ⟨"", ["r"]⟩ nested = .ok u ∧
    load u ⟨"", ["r"]⟩ = .ok nested ∧ resave u ⟨"", ["r"]⟩ = .ok v ∧
    Bears v ⟨"", ["r"]⟩ nested ∧ ∀ k, v.get? k = u.get? k := by
  obtain ⟨hsaves, hloads, hagain⟩ := save_lasts ⟨"", ["r"]⟩ lossless_nested
  obtain ⟨u, hu⟩ := hsaves emptyRepository
    ⟨⟨["r", "package.json"], none, rfl, by simp⟩, by decide⟩
  obtain ⟨hb, hload⟩ := hloads _ u hu
  obtain ⟨hresaves, hsame⟩ := hagain u hb
  obtain ⟨v, hv⟩ := hresaves (not_cramped_of_save hu)
  obtain ⟨hbears, hplaces⟩ := hsame v hv
  exact ⟨u, v, hu, hload, hv, hbears, hplaces⟩

end BuildRepair.Manifest
