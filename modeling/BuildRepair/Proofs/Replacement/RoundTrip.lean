import BuildRepair.Proofs.File.Replacing
import BuildRepair.Proofs.Json.Lossless
import BuildRepair.Proofs.Manifest
import BuildRepair.Replacement.Registry

/-
  A registry that was saved is loaded again. What is written of a registry follows the schema of
  registry files if the registry conforms to it (`ofJson?_toJson`), and is then read as the
  registry, but for an empty note, which is left out. The built-in registries conform, one that was
  read does, and adding a replacement that meets the schema keeps it so (`Reached.conforms`).
-/

namespace BuildRepair

/-- A replacement that may stand in a registry file: its old name is one that the schema takes, and
each version is mapped once. -/
structure Replacement.MeetsSchema (r : Replacement) : Prop where
  oldName : Registry.filled r.oldName = some r.oldName
  versions : (Assoc.keys r.versions).Nodup

instance (r : Replacement) : Decidable r.MeetsSchema :=
  decidable_of_iff (Registry.filled r.oldName = some r.oldName ∧ (Assoc.keys r.versions).Nodup)
    ⟨fun h => ⟨h.1, h.2⟩, fun h => ⟨h.oldName, h.versions⟩⟩

/-- A replacement as it is read where it was written. -/
def Replacement.reread (r : Replacement) : Replacement := { r with note := r.note.filter (· != "") }

namespace Registry

variable {r : Registry} {x : Replacement} {t u : Tree} {path : Path} {j : Json} {fields : Fields}
  {now : Timestamp}

/-- A registry that may stand in a registry file. -/
structure Conforms (r : Registry) : Prop where
  version : filled r.version = some r.version
  replacements : ∀ x ∈ r.replacements, x.MeetsSchema

/-- A registry as it is read where it was written. -/
def reread (r : Registry) : Registry := { r with replacements := r.replacements.map (·.reread) }

/-! ## Reading what was written -/

theorem mapM_map_eq_some {f : β → Option γ} {g : α → β} {e : α → γ} {as : List α}
    (h : ∀ a ∈ as, f (g a) = some (e a)) : (as.map g).mapM f = some (as.map e) := by
  induction as with
  | nil => rfl
  | cons a as ih =>
    rw [List.forall_mem_cons] at h
    rw [List.map_cons, List.mapM_cons, h.1, ih h.2]
    rfl

theorem mapM_map_eq_self {f : β → Option α} {g : α → β} {as : List α}
    (h : ∀ a ∈ as, f (g a) = some a) : (as.map g).mapM f = some as := by
  rw [mapM_map_eq_some (e := id) h, List.map_id]

@[simp]
theorem stringIn_str (s : String) : stringIn (some (.str s)) = some s := rfl

@[simp]
theorem stringOr_str (default s : String) : stringOr default (some (.str s)) = some s := rfl

@[simp]
theorem stringOrNull_orNull (s : Option String) : stringOrNull (some (orNull s)) = some s := by
  cases s <;> rfl

@[simp]
theorem strings_of_texts (xs : List String) :
    listOf (fun j => stringIn (some j)) (some (.arr (xs.map .str))) = some xs :=
  mapM_map_eq_self (g := Json.str) fun _ _ => rfl

@[simp]
theorem stringFields_versions (versions : List (String × String)) :
    stringFields (some (.obj (versions.map fun (k, v) => (k, .str v)))) = some versions :=
  mapM_map_eq_self (g := fun p : String × String => (p.1, Json.str p.2)) fun _ _ => rfl

theorem readReplacement_replacementJson (h : x.MeetsSchema) :
    readReplacement (replacementJson x) = some x.reread := by
  have hname := h.oldName
  unfold replacementJson Replacement.reread
  generalize x.note.filter (· != "") = note
  cases note <;>
    simp [readReplacement, Json.fields?, named, Assoc.find?, stringOrNull, hname]

theorem readLimit_limitJson (l : ArchitectureLimit) : readLimit (limitJson l) = some l := by
  simp [readLimit, limitJson, Json.fields?, named, Assoc.find?]

theorem readPattern_patternJson (p : DeadPattern) : readPattern (patternJson p) = some p := by
  simp [readPattern, patternJson, Json.fields?, named, Assoc.find?]

/-- What is written of a registry that conforms to the schema is read as the registry. -/
theorem ofJson?_toJson (h : r.Conforms) : ofJson? r.toJson = some r.reread := by
  have hversion := h.version
  have hreplacements : listOf readReplacement (some (.arr (r.replacements.map replacementJson))) =
      some (r.replacements.map (·.reread)) :=
    mapM_map_eq_some fun x hx => readReplacement_replacementJson (h.replacements x hx)
  have hlimits : listOf readLimit (some (.arr (r.limits.map limitJson))) = some r.limits :=
    mapM_map_eq_self fun l _ => readLimit_limitJson l
  have hpatterns (ps : List DeadPattern) :
      listOf readPattern (some (.arr (ps.map patternJson))) = some ps :=
    mapM_map_eq_self fun p _ => readPattern_patternJson p
  unfold toJson reread
  -- a registry without a section for globs has none in its document
  cases hp : r.deadPatterns with
  | none => simp [ofJson?, Json.fields?, named, Assoc.find?, hversion, hreplacements, hlimits]
  | some ps =>
    simp [ofJson?, Json.fields?, named, Assoc.find?, hversion, hreplacements, hlimits, hpatterns]

theorem lossless_map {f : α → Json} {as : List α} (h : ∀ a ∈ as, (f a).Lossless) :
    (Json.arr (as.map f)).Lossless :=
  .arr (List.forall_mem_map.mpr h)

theorem lossless_versions {versions : List (String × String)}
    (h : (Assoc.keys versions).Nodup) :
    (Json.obj (versions.map fun (k, v) => (k, .str v))).Lossless := by
  refine .obj (List.forall_mem_map.mpr fun _ _ => .str _) ?_
  unfold Assoc.keys at h ⊢
  rw [List.map_map]
  exact h

theorem lossless_replacementJson (h : (Assoc.keys x.versions).Nodup) :
    (replacementJson x).Lossless := by
  have hversions := lossless_versions h
  unfold replacementJson
  generalize x.note.filter (· != "") = note
  cases note with
  | none =>
    refine .obj ?_ (by simp [Assoc.keys])
    simp only [List.forall_mem_append, List.forall_mem_cons, List.not_mem_nil, false_imp_iff,
      implies_true, and_true]
    exact ⟨.str _, .str _, hversions, .bool _⟩
  | some note =>
    refine .obj ?_ (by simp [Assoc.keys])
    simp only [List.forall_mem_append, List.forall_mem_cons, List.not_mem_nil, false_imp_iff,
      implies_true, and_true]
    exact ⟨⟨.str _, .str _, hversions, .bool _⟩, .str _⟩

theorem lossless_orNull (s : Option String) : (orNull s).Lossless := by
  cases s with
  | none => exact .null
  | some s => exact .str s

theorem lossless_limitJson (l : ArchitectureLimit) : (limitJson l).Lossless := by
  refine .obj ?_ (by simp [Assoc.keys])
  simp only [List.forall_mem_cons, List.not_mem_nil, false_imp_iff, implies_true, and_true]
  exact ⟨.str _, lossless_map fun s _ => .str s, lossless_orNull _, .str _⟩

theorem lossless_patternJson (p : DeadPattern) : (patternJson p).Lossless := by
  refine .obj ?_ (by simp [Assoc.keys])
  simp only [List.forall_mem_cons, List.not_mem_nil, false_imp_iff, implies_true, and_true]
  exact ⟨.str _, lossless_orNull _, lossless_orNull _, .str _⟩

/-- What is written of a registry is read as it was written, whether it follows the schema or not. -/
theorem lossless_toJson (h : ∀ x ∈ r.replacements, (Assoc.keys x.versions).Nodup) :
    r.toJson.Lossless := by
  have hreplacements := lossless_map fun x hx => lossless_replacementJson (h x hx)
  have hlimits := lossless_map fun l (_ : l ∈ r.limits) => lossless_limitJson l
  have hurls := lossless_map fun s (_ : s ∈ r.deadUrls) => Json.Lossless.str s
  unfold toJson
  cases r.deadPatterns with
  | none =>
    refine .obj ?_ (by simp [Assoc.keys])
    simp only [List.forall_mem_append, List.forall_mem_cons, List.not_mem_nil, false_imp_iff,
      implies_true, and_true]
    exact ⟨.str _, .str _, hreplacements, hlimits, hurls⟩
  | some ps =>
    refine .obj ?_ (by simp [Assoc.keys])
    simp only [List.forall_mem_append, List.forall_mem_cons, List.not_mem_nil, false_imp_iff,
      implies_true, and_true]
    exact ⟨⟨.str _, .str _, hreplacements, hlimits, hurls⟩,
      lossless_map fun p _ => lossless_patternJson p⟩

/-! ## What is read conforms to the schema -/

theorem filled_eq_some {s s' : String} (h : filled s = some s') : filled s' = some s' := by
  unfold filled at h
  split at h
  · cases h
  · next hs =>
    cases h
    exact if_neg hs

theorem mem_of_mapM {f : α → Option β} {as : List α} {bs : List β} (h : as.mapM f = some bs) :
    ∀ b ∈ bs, ∃ a ∈ as, f a = some b := by
  induction as generalizing bs with
  | nil =>
    cases h
    simp
  | cons a as ih =>
    rw [List.mapM_cons] at h
    obtain ⟨b, hb, h⟩ := Option.bind_eq_some_iff.mp h
    obtain ⟨cs, hcs, h⟩ := Option.bind_eq_some_iff.mp h
    cases h
    refine List.forall_mem_cons.mpr ⟨⟨a, List.mem_cons_self .., hb⟩, fun c hc => ?_⟩
    obtain ⟨a', ha', hac⟩ := ih hcs c hc
    exact ⟨a', List.mem_cons_of_mem _ ha', hac⟩

theorem mem_of_listOf {read : Json → Option α} {o : Option Json} {as : List α}
    (h : listOf read o = some as) : ∀ a ∈ as, ∃ items, o = some (.arr items) ∧
      ∃ item ∈ items, read item = some a := by
  unfold listOf at h
  split at h
  · next items =>
    intro a ha
    exact ⟨items, rfl, mem_of_mapM h a ha⟩
  · cases h

/-- A mapping that is read has the names of the object it is read from. -/
theorem keys_of_stringFields {o : Option Json} {versions : List (String × String)}
    (h : stringFields o = some versions) :
    ∃ fields, o = some (.obj fields) ∧ Assoc.keys versions = Assoc.keys fields := by
  unfold stringFields at h
  split at h
  · next fields =>
    refine ⟨fields, rfl, ?_⟩
    induction fields generalizing versions with
    | nil =>
      cases h
      rfl
    | cons p fields ih =>
      rw [List.mapM_cons] at h
      obtain ⟨q, hq, h⟩ := Option.bind_eq_some_iff.mp h
      obtain ⟨rest, hrest, h⟩ := Option.bind_eq_some_iff.mp h
      cases h
      obtain ⟨v, -, rfl⟩ := Option.map_eq_some_iff.mp hq
      exact congrArg (p.1 :: ·) (ih hrest)
  · cases h

theorem readable_of_named {name second : String} (hj : (Json.obj fields).Readable)
    (h : named name second fields = some j) : j.Readable := by
  unfold named at h
  cases hfirst : Assoc.find? name fields with
  | none =>
    rw [hfirst] at h
    exact hj.find? h
  | some k =>
    rw [hfirst] at h
    cases h
    exact hj.find? hfirst

theorem fields?_eq_some (h : j.fields? = some fields) : j = .obj fields := by
  cases j <;> cases h
  rfl

theorem meetsSchema_of_read (hj : j.Readable) (h : readReplacement j = some x) :
    x.MeetsSchema := by
  obtain ⟨fields, hfields, h⟩ := Option.bind_eq_some_iff.mp h
  obtain rfl := fields?_eq_some hfields
  obtain ⟨oldName, hold, h⟩ := Option.bind_eq_some_iff.mp h
  obtain ⟨s, -, hfilled⟩ := Option.bind_eq_some_iff.mp hold
  obtain ⟨newName, -, h⟩ := Option.bind_eq_some_iff.mp h
  obtain ⟨versions, hversions, h⟩ := Option.bind_eq_some_iff.mp h
  have hx : oldName = x.oldName ∧ versions = x.versions := by
    dsimp only at h
    split at h
    · obtain ⟨manual, -, h⟩ := Option.bind_eq_some_iff.mp h
      obtain ⟨note, -, h⟩ := Option.bind_eq_some_iff.mp h
      cases h
      exact ⟨rfl, rfl⟩
    · cases h
  obtain ⟨mapping, hmapping, hkeys⟩ := keys_of_stringFields hversions
  refine ⟨filled_eq_some (hx.1 ▸ hfilled), ?_⟩
  rw [← hx.2, hkeys]
  exact (readable_of_named hj hmapping).names

/-- A registry that was read conforms to the schema. -/
theorem conforms_of_ofJson? (hj : j.Readable) (h : ofJson? j = some r) : r.Conforms := by
  obtain ⟨fields, hfields, h⟩ := Option.bind_eq_some_iff.mp h
  obtain rfl := fields?_eq_some hfields
  obtain ⟨version, hversion, h⟩ := Option.bind_eq_some_iff.mp h
  obtain ⟨s, -, hfilled⟩ := Option.bind_eq_some_iff.mp hversion
  obtain ⟨lastUpdated, -, h⟩ := Option.bind_eq_some_iff.mp h
  obtain ⟨replacements, hreplacements, h⟩ := Option.bind_eq_some_iff.mp h
  obtain ⟨limits, -, h⟩ := Option.bind_eq_some_iff.mp h
  obtain ⟨deadUrls, -, h⟩ := Option.bind_eq_some_iff.mp h
  have hr : version = r.version ∧ replacements = r.replacements := by
    dsimp only at h
    split at h
    all_goals
      obtain ⟨deadPatterns, -, h⟩ := Option.bind_eq_some_iff.mp h
      cases h
      exact ⟨rfl, rfl⟩
  refine ⟨filled_eq_some (hr.1 ▸ hfilled), fun x hx => ?_⟩
  rw [← hr.2] at hx
  obtain ⟨items, hitems, item, hitem, hread⟩ := mem_of_listOf hreplacements x hx
  cases hj.find? hitems with
  | arr hall => exact meetsSchema_of_read (hall item hitem) hread

/-- The registry in a file, if there is one that follows the schema. -/
def stored? (t : Tree) (path : Path) : Option Registry :=
  match t.readText path with
  | .error _ => none
  | .ok text =>
    match Json.read text with
    | .error _ => none
    | .ok j => ofJson? j

theorem load_eq (t : Tree) (path : Path) (now : Timestamp) :
    load t path now = (stored? t path).getD (builtIn now) := by
  unfold load stored? ofText
  cases t.readText path with
  | error e => rfl
  | ok text =>
    dsimp only
    cases Json.read text <;> rfl

theorem conforms_of_stored? (h : stored? t path = some r) : r.Conforms := by
  unfold stored? at h
  split at h
  · cases h
  · split at h
    · cases h
    · next hread => exact conforms_of_ofJson? (Json.readable_of_read hread) h

/-! ## Registries of a program -/

/-- A registry as the program comes to it: one that was not loaded yet, one that was loaded from
any file or none, and what becomes of these when replacements are added and when they are saved. -/
inductive Reached : Registry → Prop
  | unloaded : Reached {}
  | loaded (t : Tree) (file : Option Path) (now : Timestamp) : Reached (loadFrom t file now)
  | added {r : Registry} (h : Reached r) (new : Replacement) (hnew : new.MeetsSchema) :
      Reached (r.add new)
  | stamped {r : Registry} (h : Reached r) (now : Timestamp) : Reached (r.stamped now)

theorem Conforms.add (h : r.Conforms) (hx : x.MeetsSchema) : (r.add x).Conforms := by
  refine ⟨h.version, fun y hy => ?_⟩
  rcases List.mem_append.mp hy with hy | hy
  · exact h.replacements y (List.mem_filter.mp hy).1
  · rw [List.mem_singleton.mp hy]
    exact hx

theorem Conforms.stamped (h : r.Conforms) (now : Timestamp) : (r.stamped now).Conforms := by
  unfold Registry.stamped
  exact ⟨h.version, h.replacements⟩

theorem conforms_builtIn (now : Timestamp) : (builtIn now).Conforms := by
  refine ⟨?_, ?_⟩
  · show filled "1.0.0" = some "1.0.0"
    decide
  · unfold builtIn
    simp only [List.forall_mem_cons, List.not_mem_nil, false_imp_iff, implies_true, and_true]
    exact ⟨by decide, by decide⟩

theorem conforms_bundled : bundled.Conforms := ⟨by decide, by decide⟩

theorem Reached.conforms (h : Reached r) : r.Conforms := by
  induction h with
  | unloaded => exact ⟨by decide, by simp⟩
  | loaded t file now =>
    cases file with
    | none => exact conforms_bundled
    | some path =>
      show (load t path now).Conforms
      rw [load_eq]
      cases hs : stored? t path with
      | none =>
        rw [Option.getD_none]
        exact conforms_builtIn now
      | some r =>
        rw [Option.getD_some]
        exact conforms_of_stored? hs
  | added _ new hnew ih => exact ih.add hnew
  | stamped _ now ih => exact ih.stamped now

/-! ## Saving and loading -/

theorem save_ok (h : r.save t path = (u, .ok ())) :
    ∃ l, u.locate path = .ok (l, some (.file (.text r.toJson.document))) := by
  unfold save at h
  split at h
  · cases h
  · split at h
    · cases h
    · next hreplace =>
      cases h
      obtain ⟨l, hl, -⟩ := Tree.writeText_spec (Tree.replaceText_ok hreplace)
      exact ⟨l, hl⟩

/-- What is read from a file that holds the document of a registry. -/
theorem stored?_eq {l : Place} (hr : ∀ x ∈ r.replacements, (Assoc.keys x.versions).Nodup)
    (h : u.locate path = .ok (l, some (.file (.text r.toJson.document)))) :
    stored? u path = ofJson? r.toJson := by
  have htext : u.readText path = .ok r.toJson.document := by
    refine Manifest.readText_eq_ok.mpr ⟨l, _, h, ?_⟩
    unfold Content.read
    dsimp only
    rw [Json.unifyLineEnds_document, String.ofList_toList]
  unfold stored?
  rw [htext]
  dsimp only
  rw [(lossless_toJson hr).read_document]

theorem stored?_of_document {l : Place} (hr : r.Conforms)
    (h : u.locate path = .ok (l, some (.file (.text r.toJson.document)))) :
    stored? u path = some r.reread := by
  rw [stored?_eq (fun x hx => (hr.replacements x hx).versions) h]
  exact ofJson?_toJson hr

theorem stored?_of_save (hr : r.Conforms) (h : r.save t path = (u, .ok ())) :
    stored? u path = some r.reread := by
  obtain ⟨l, hl⟩ := save_ok h
  exact stored?_of_document hr hl

theorem lookup_reread (r : Registry) (now : Timestamp) (package : String) :
    (r.stamped now).reread.lookup package = (r.lookup package).map (·.reread) := by
  unfold lookup reread stamped
  dsimp only
  rw [List.find?_map]
  rfl

/-- A registry that the program came to and that was saved: its file holds a registry that follows
the schema, so loading it later does not fall back on the built-in one, and what is loaded is what
was saved, but for empty notes. So all look-ups have the same answers. -/
theorem load_of_save (h : Reached r) (hs : (r.stamped now).save t path = (u, .ok ())) :
    stored? u path = some (r.stamped now).reread ∧
    ∀ later, load u path later = (r.stamped now).reread ∧
      (∀ package, (load u path later).lookup package = (r.lookup package).map (·.reread)) ∧
      (∀ package, (load u path later).limitOf package = r.limitOf package) ∧
      (∀ url, (load u path later).isDeadUrl url = r.isDeadUrl url) ∧
      ∀ url, (load u path later).deadPattern url = r.deadPattern url := by
  have hstored := stored?_of_save (h.stamped now).conforms hs
  refine ⟨hstored, fun later => ?_⟩
  have hload : load u path later = (r.stamped now).reread := by
    rw [load_eq, hstored, Option.getD_some]
  rw [hload]
  refine ⟨rfl, lookup_reread r now, ?_, ?_, ?_⟩
  · intro package
    unfold limitOf reread stamped
    rfl
  · intro url
    unfold isDeadUrl reread stamped
    rfl
  · intro url
    unfold deadPattern reread stamped
    rfl

/-- A replacement with an empty note. -/
def unnoted : Replacement :=
  { oldName := "left", newName := "right", versions := [("1", "2"), ("*", "3")], manual := true,
    note := some "" }

/-- The replacement is found in what is loaded, without its note. -/
theorem load_of_save_unnoted : ∃ u,
    ((({} : Registry).add unnoted).stamped default).save {} (Path.ofString "registry.json") =
      (u, .ok ()) ∧
    (load u (Path.ofString "registry.json") default).lookup "left" =
      some { unnoted with note := none } := by
  have hreplace : ∃ u, (({} : Tree).replaceText (Path.ofString "registry.json")
      ((({} : Registry).add unnoted).stamped default).toJson.document) = (u, .ok ()) := by
    generalize ((({} : Registry).add unnoted).stamped default).toJson.document = text
    exact ⟨_, rfl⟩
  obtain ⟨u, hreplace⟩ := hreplace
  have hs : ((({} : Registry).add unnoted).stamped default).save {}
      (Path.ofString "registry.json") = (u, .ok ()) := by
    unfold save
    rw [show ({} : Tree).makeDirectories (Path.ofString "registry.json").parent = ({}, .ok ())
      from rfl]
    dsimp only
    rw [hreplace]
  obtain ⟨-, hload⟩ := load_of_save (.added .unloaded unnoted (by decide)) hs
  obtain ⟨-, hlookup, -⟩ := hload default
  refine ⟨u, hs, ?_⟩
  rw [hlookup]
  decide

end Registry
end BuildRepair
