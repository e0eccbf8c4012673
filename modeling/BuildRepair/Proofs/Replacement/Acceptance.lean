import BuildRepair.Proofs.Replacement.RoundTrip

/-
  Which registries that were saved are accepted again. Adding checks nothing, while loading takes a
  file as a whole or not at all. One replacement without an old name that the schema takes makes it
  refuse what is written of the whole registry (`ofJson?_eq_none`), and such a name stays in the
  registry once it was added (`exists_addAll`). So the replacements that were added are found again
  if all of them were named, and else the built-in entries are loaded (`accepted_of_save`).
-/

namespace BuildRepair

/-- The old name of a replacement has characters, and no half of one among them. -/
def Replacement.IsNamed (x : Replacement) : Prop :=
  x.oldName ≠ "" ∧ Text.holdsHalf x.oldName = false

instance (x : Replacement) : Decidable x.IsNamed := inferInstanceAs (Decidable (_ ∧ _))

namespace Registry

variable {r : Registry} {x : Replacement} {news before after : List Replacement} {t u : Tree}
  {path : Path} {now : Timestamp}

theorem filled_eq_self_iff : filled x.oldName = some x.oldName ↔ x.IsNamed := by
  unfold filled Replacement.IsNamed
  by_cases hempty : x.oldName = ""
  · simp [hempty]
  · by_cases hhalf : Text.holdsHalf x.oldName = true
    · simp [hempty, hhalf]
    · simp [hempty, hhalf]

theorem filled_eq_none (h : ¬ x.IsNamed) : filled x.oldName = none := by
  unfold filled
  refine if_pos ?_
  unfold Replacement.IsNamed at h
  rw [not_and_or, Decidable.not_not, Bool.not_eq_false] at h
  rcases h with hempty | hhalf
  · simp [hempty]
  · simp [hhalf]

/-! ## Documents that are refused -/

theorem isSome_of_mapM {f : α → Option β} {as : List α} {bs : List β} (h : as.mapM f = some bs) :
    ∀ a ∈ as, (f a).isSome = true := by
  induction as generalizing bs with
  | nil => simp
  | cons a as ih =>
    rw [List.mapM_cons] at h
    obtain ⟨b, hb, h⟩ := Option.bind_eq_some_iff.mp h
    obtain ⟨cs, hcs, -⟩ := Option.bind_eq_some_iff.mp h
    exact List.forall_mem_cons.mpr ⟨by rw [hb]; rfl, ih hcs⟩

theorem readReplacement_eq_none (h : ¬ x.IsNamed) : readReplacement (replacementJson x) = none := by
  have hname := filled_eq_none h
  unfold replacementJson
  generalize x.note.filter (· != "") = note
  cases note <;> simp [readReplacement, Json.fields?, named, Assoc.find?, hname]

/-- One replacement that the schema does not take makes it refuse the whole document. -/
theorem ofJson?_eq_none (hx : x ∈ r.replacements) (h : ¬ x.IsNamed) : ofJson? r.toJson = none := by
  have hlist : listOf readReplacement (some (.arr (r.replacements.map replacementJson))) = none := by
    rw [Option.eq_none_iff_forall_not_mem]
    intro read hread
    have hall := isSome_of_mapM hread _ (List.mem_map_of_mem hx)
    rw [readReplacement_eq_none h] at hall
    cases hall
  unfold toJson
  cases r.deadPatterns <;> simp [ofJson?, Json.fields?, named, Assoc.find?, hlist]

/-! ## Replacements that are added -/

/-- The registry with replacements added one after the other. -/
def addAll (r : Registry) (news : List Replacement) : Registry := news.foldl add r

theorem addAll_append_cons (r : Registry) (before after : List Replacement) (x : Replacement) :
    r.addAll (before ++ x :: after) = ((r.addAll before).add x).addAll after := by
  unfold addAll
  rw [List.foldl_append, List.foldl_cons]

theorem lookup_add (r : Registry) (x : Replacement) (package : String) :
    (r.add x).lookup package = if x.oldName = package then some x else r.lookup package := by
  unfold lookup add
  dsimp only
  rw [List.find?_append, List.find?_filter]
  by_cases hname : x.oldName = package
  · have hnone : r.replacements.find? (fun y => decide
        ((y.oldName != x.oldName) = true ∧ (y.oldName == package) = true)) = none := by
      simp [hname]
    rw [hnone, if_pos hname]
    simp [hname]
  · have hsame : (fun y : Replacement => decide
        ((y.oldName != x.oldName) = true ∧ (y.oldName == package) = true)) =
        (·.oldName == package) := by
      funext y
      by_cases hy : y.oldName = package
      · simp [hy, Ne.symm hname]
      · simp [hy]
    rw [hsame, if_neg hname]
    simp [hname]

/-- Of the replacements of a package the last one is found. -/
theorem lookup_addAll (r : Registry) (before : List Replacement)
    (h : ∀ y ∈ after, y.oldName ≠ x.oldName) :
    (r.addAll (before ++ x :: after)).lookup x.oldName = some x := by
  have hlater (s : Registry) : (s.addAll after).lookup x.oldName = s.lookup x.oldName := by
    induction after generalizing s with
    | nil => rfl
    | cons y after ih =>
      rw [List.forall_mem_cons] at h
      refine (ih h.2 (s.add y)).trans ?_
      rw [lookup_add, if_neg h.1]
  rw [addAll_append_cons, hlater, lookup_add, if_pos rfl]

/-- What is in the registry was there or was added. -/
theorem mem_addAll (hx : x ∈ (r.addAll news).replacements) : x ∈ r.replacements ∨ x ∈ news := by
  induction news generalizing r with
  | nil => exact .inl hx
  | cons y news ih =>
    rcases ih hx with hx | hx
    · rcases List.mem_append.mp hx with hx | hx
      · exact .inl (List.mem_filter.mp hx).1
      · rw [List.mem_singleton.mp hx]
        exact .inr (List.mem_cons_self ..)
    · exact .inr (List.mem_cons_of_mem _ hx)

theorem isSome_lookup_addAll {package : String} (h : (r.lookup package).isSome = true)
    (news : List Replacement) : ((r.addAll news).lookup package).isSome = true := by
  induction news generalizing r with
  | nil => exact h
  | cons x news ih =>
    refine ih ?_
    rw [lookup_add]
    split
    · rfl
    · exact h

/-- An old name that was added stays in the registry, with whatever replacement. -/
theorem exists_addAll (r : Registry) (hx : x ∈ news) :
    ∃ y ∈ (r.addAll news).replacements, y.oldName = x.oldName := by
  obtain ⟨before, after, rfl⟩ := List.append_of_mem hx
  have hadded : (((r.addAll before).add x).lookup x.oldName).isSome = true := by
    rw [lookup_add, if_pos rfl]
    rfl
  obtain ⟨y, hy⟩ := Option.isSome_iff_exists.mp (isSome_lookup_addAll hadded after)
  refine ⟨y, ?_, by simpa using List.find?_some hy⟩
  rw [addAll_append_cons]
  exact List.mem_of_find?_eq_some hy

theorem Reached.addAll (h : Reached r) (hnews : ∀ x ∈ news, x.MeetsSchema) :
    Reached (r.addAll news) := by
  induction news generalizing r with
  | nil => exact h
  | cons x news ih =>
    rw [List.forall_mem_cons] at hnews
    exact ih (h.added x hnews.1) hnews.2

/-! ## Saving and loading -/

theorem replacements_stamped (r : Registry) (now : Timestamp) :
    (r.stamped now).replacements = r.replacements := by
  unfold stamped
  rfl

/-- A registry that was saved with a replacement that is not named is refused. -/
theorem stored?_eq_none (hversions : ∀ x ∈ r.replacements, (Assoc.keys x.versions).Nodup)
    (hs : r.save t path = (u, .ok ())) (hx : x ∈ r.replacements) (hname : ¬ x.IsNamed) :
    stored? u path = none := by
  obtain ⟨l, hl⟩ := save_ok hs
  rw [stored?_eq hversions hl]
  exact ofJson?_eq_none hx hname

/-- A registry that the program came to, to which replacements were added and which was saved. Its
file is accepted if and only if all of these have an old name that the schema takes. Then each of
them that no later one took the place of is found in what is loaded, but for an empty note; else
all that is known is the built-in entries. -/
theorem accepted_of_save (h : Reached r)
    (hnews : ∀ x ∈ news, (Assoc.keys x.versions).Nodup)
    (hs : ((r.addAll news).stamped now).save t path = (u, .ok ())) :
    ((stored? u path).isSome = true ↔ ∀ x ∈ news, x.IsNamed) ∧
    ((∀ x ∈ news, x.IsNamed) → ∀ before x after later, news = before ++ x :: after →
      (∀ y ∈ after, y.oldName ≠ x.oldName) →
        (load u path later).lookup x.oldName = some x.reread) ∧
    ((∃ x ∈ news, ¬ x.IsNamed) → ∀ later, load u path later = builtIn later) := by
  have haccepted (hnamed : ∀ x ∈ news, x.IsNamed) :
      stored? u path = some ((r.addAll news).stamped now).reread := by
    have hreached := h.addAll fun x hx => ⟨filled_eq_self_iff.mpr (hnamed x hx), hnews x hx⟩
    exact stored?_of_save (hreached.stamped now).conforms hs
  -- the name that the schema does not take is still there, whatever was added later
  have hrefused {x : Replacement} (hx : x ∈ news) (hname : ¬ x.IsNamed) :
      stored? u path = none := by
    obtain ⟨y, hy, hsame⟩ := exists_addAll r hx
    rw [← replacements_stamped (r.addAll news) now] at hy
    refine stored?_eq_none ?_ hs hy ?_
    · rw [replacements_stamped]
      intro z hz
      rcases mem_addAll hz with hz | hz
      · exact (h.conforms.replacements z hz).versions
      · exact hnews z hz
    · unfold Replacement.IsNamed at hname ⊢
      rwa [hsame]
  refine ⟨⟨?_, ?_⟩, ?_, ?_⟩
  · intro hsome x hx
    by_contra hname
    rw [hrefused hx hname] at hsome
    cases hsome
  · intro hnamed
    rw [haccepted hnamed]
    rfl
  · rintro hnamed before x after later rfl hlast
    rw [load_eq, haccepted hnamed, Option.getD_some, lookup_reread, lookup_addAll r before hlast]
    rfl
  · rintro ⟨x, hx, hname⟩ later
    rw [load_eq, hrefused hx hname, Option.getD_none]

/-! ## A registry in an empty directory -/

/-- The file of a registry. -/
def registryFile : Path := .ofString "registry.json"

/-- In an empty directory every registry can be saved. -/
theorem exists_save (r : Registry) : ∃ u, r.save {} registryFile = (u, .ok ()) := by
  unfold save
  generalize r.toJson.document = text
  exact ⟨_, rfl⟩

/-- Two replacements of one package and another one between them. -/
def twiceAdded : List Replacement := [
  { oldName := "left", newName := "first", versions := [("1", "2")] },
  { oldName := "other", newName := "", versions := [], note := some "" },
  { oldName := "left", newName := "last", versions := [("*", "3")], manual := true }]

/-- The later one is found in what is loaded. -/
theorem twiceAdded_accepted : ∃ u,
    ((bundled.addAll twiceAdded).stamped default).save {} registryFile = (u, .ok ()) ∧
    (stored? u registryFile).isSome = true ∧
    (load u registryFile default).lookup "left" =
      some { oldName := "left", newName := "last", versions := [("*", "3")], manual := true } := by
  obtain ⟨u, hs⟩ := exists_save ((bundled.addAll twiceAdded).stamped default)
  obtain ⟨haccepted, hfound, -⟩ := accepted_of_save (.loaded {} none default) (by decide) hs
  have hnamed : ∀ x ∈ twiceAdded, x.IsNamed := by decide
  refine ⟨u, hs, haccepted.mpr hnamed, ?_⟩
  exact hfound hnamed (twiceAdded.take 2) _ [] default rfl (by simp)

/-- A replacement whose old name is empty. -/
def nameless : Replacement := { oldName := "", newName := "right", versions := [] }

/-- It is added and saved, and with it the file is refused: what is loaded is built in. -/
theorem nameless_refused : ∃ u,
    ((({} : Registry).add nameless).stamped default).save {} registryFile = (u, .ok ()) ∧
    (({} : Registry).add nameless).lookup "" = some nameless ∧
    stored? u registryFile = none ∧ load u registryFile default = builtIn default ∧
    (load u registryFile default).lookup "" = none := by
  obtain ⟨u, hs⟩ := exists_save ((({} : Registry).add nameless).stamped default)
  have hnone : stored? u registryFile = none := by
    refine stored?_eq_none ?_ hs (x := nameless) ?_ (by decide)
    all_goals
      rw [replacements_stamped]
      decide
  have hload : load u registryFile default = builtIn default := by
    rw [load_eq, hnone, Option.getD_none]
  refine ⟨u, hs, by decide, hnone, hload, ?_⟩
  rw [hload]
  rfl

end Registry
end BuildRepair
