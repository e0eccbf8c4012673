import BuildRepair.Proofs.Manifest
import BuildRepair.Replacement.Basic

/-
  Replacements in one group with strings as versions. `within` is one replacement, `batch` several
  of them, each applied to what those before it left; `applied` are those that find their old name
  there. What one does to the entry of each name (`find?_within`) gives what all of them do: an
  entry that none of them names stays (`find?_batch_of_untouched`, `filter_batch`), and a name that
  none replaces is declared afterwards iff it was before or one brings it in
  (`mem_keys_batch_iff`).
-/

namespace BuildRepair

open Manifest (HasStrings)

namespace Replacement

variable {r : Replacement} {rs before later : List Replacement} {deps : Fields}
  {name oldName newName v : String} {version : Json}

/-! ## Renaming an entry -/

theorem find?_rename (oldName newName : String) (version : Json) (deps : Fields) (name : String) :
    Assoc.find? name (rename oldName newName version deps) =
      if name = newName then
        if newName ≠ "" ∧ oldName ∈ Assoc.keys deps then some version else none
      else if name = oldName then none
      else Assoc.find? name deps := by
  induction deps with
  | nil => simp [rename, Assoc.find?, Assoc.keys]
  | cons p deps ih =>
    obtain ⟨k, value⟩ := p
    unfold rename Assoc.keys at ih ⊢
    rw [List.filterMap_cons, List.map_cons]
    by_cases hold : k = oldName
    · by_cases hempty : newName = "" <;> grind [Assoc.find?]
    · grind [Assoc.find?]

/-- One name takes the place of another, and is nowhere else. -/
theorem nodup_keys_rename (h : (Assoc.keys deps).Nodup) :
    (Assoc.keys (rename oldName newName version deps)).Nodup := by
  have hkeys : Assoc.keys (rename oldName newName version deps) =
      (Assoc.keys deps).filterMap fun k =>
        if k = oldName then (if newName = "" then none else some newName)
        else if k = newName then none
        else some k := by
    unfold Assoc.keys rename
    rw [List.map_filterMap, List.filterMap_map]
    congr 1
    funext p
    dsimp only [Function.comp_apply]
    split
    · split <;> rfl
    · split <;> rfl
  rw [hkeys]
  refine List.Nodup.filterMap ?_ h
  intro i j k hi hj
  simp only [Option.mem_def] at hi hj
  grind

/-- The entry under the new name has the new version, every other one what it had. -/
theorem rename_dateless (hd : Json.FieldsDateless deps) (hversion : version.Dateless) :
    Json.FieldsDateless (rename oldName newName version deps) := by
  intro p hp
  obtain ⟨q, hq, hqp⟩ := List.mem_filterMap.mp hp
  dsimp only at hqp
  split at hqp
  · split at hqp
    · cases hqp
    · cases hqp
      exact hversion
  · split at hqp
    · cases hqp
    · cases hqp
      exact hd q hq

/-- Entries of other names stay, in their order. -/
theorem filter_rename {q : String → Bool} (ho : q oldName = false) (hn : q newName = false) :
    (rename oldName newName version deps).filter (fun p => q p.1) =
      deps.filter fun p => q p.1 := by
  induction deps with
  | nil => rfl
  | cons p deps ih =>
    obtain ⟨k, value⟩ := p
    unfold rename at ih ⊢
    rw [List.filterMap_cons]
    by_cases hold : k = oldName
    · by_cases hempty : newName = "" <;> grind
    · grind

/-- An entry that keeps its name has its version put in its place. -/
theorem rename_self (hempty : name ≠ "") (hnames : (Assoc.keys deps).Nodup)
    (hmem : name ∈ Assoc.keys deps) :
    rename name name version deps = Assoc.put name version deps := by
  rw [Assoc.put_eq_map hnames hmem, ← List.filterMap_eq_map]
  unfold rename
  refine List.filterMap_congr fun p _ => ?_
  by_cases hp : p.1 = name <;> simp [hp, hempty]

/-! ## One replacement -/

theorem mapVersion_of_nil (hversions : r.versions = []) (v : String) : r.mapVersion v = v := by
  unfold mapVersion
  rw [hversions]
  rfl

/-- The entries of a group after a replacement. -/
def within (r : Replacement) (deps : Fields) : Fields :=
  match Assoc.find? r.oldName deps with
  | some (.str v) =>
    if r.newName = r.oldName then Assoc.put r.newName (.str (r.mapVersion v)) deps
    else rename r.oldName r.newName (.str (r.mapVersion v)) deps
  | _ => deps

theorem within_of_not_mem (h : r.oldName ∉ Assoc.keys deps) : r.within deps = deps := by
  unfold within
  rw [Assoc.find?_eq_none_iff.mpr h]

theorem within_cases (r : Replacement) (deps : Fields) : r.within deps = deps ∨
    ∃ v, r.within deps = Assoc.put r.newName (.str (r.mapVersion v)) deps ∨
      r.within deps = rename r.oldName r.newName (.str (r.mapVersion v)) deps := by
  unfold within
  split
  · next v _ =>
    refine .inr ⟨v, ?_⟩
    split
    · exact .inl rfl
    · exact .inr rfl
  · exact .inl rfl

/-- A replacement renames an entry also where it only gives it another version. -/
theorem within_eq_rename (hempty : r.oldName ≠ "") (hnames : (Assoc.keys deps).Nodup)
    (hfind : Assoc.find? r.oldName deps = some (.str v)) :
    r.within deps = rename r.oldName r.newName (.str (r.mapVersion v)) deps := by
  unfold within
  rw [hfind]
  dsimp only
  by_cases hname : r.newName = r.oldName
  · rw [if_pos hname, hname, rename_self hempty hnames (Assoc.mem_keys_of_find? hfind)]
  · rw [if_neg hname]

theorem find?_within (hfind : Assoc.find? r.oldName deps = some (.str v)) (hempty : r.newName ≠ "")
    (hne : r.newName ≠ r.oldName) (name : String) :
    Assoc.find? name (r.within deps) =
      if name = r.newName then some (.str (r.mapVersion v))
      else if name = r.oldName then none
      else Assoc.find? name deps := by
  have hold : r.oldName ∈ Assoc.keys deps := Assoc.mem_keys_of_find? hfind
  unfold within
  rw [hfind]
  dsimp only
  rw [if_neg hne, find?_rename]
  simp only [ne_eq, hempty, not_false_eq_true, hold, and_self, if_true]

theorem find?_within_of_ne (ho : r.oldName ≠ name) (hn : r.newName ≠ name) :
    Assoc.find? name (r.within deps) = Assoc.find? name deps := by
  rcases r.within_cases deps with h | ⟨v, h | h⟩
  · rw [h]
  · rw [h, Assoc.find?_put, if_neg (by simpa using hn)]
  · rw [h, find?_rename, if_neg (Ne.symm hn), if_neg (Ne.symm ho)]

/-- A name that is declared after a replacement was brought in or has stayed. -/
theorem mem_keys_within (hs : HasStrings deps) (h : name ∈ Assoc.keys (r.within deps)) :
    r.newName = name ∨ name ∈ Assoc.keys deps ∧ r.oldName ≠ name := by
  by_cases hn : r.newName = name
  · exact .inl hn
  · by_cases ho : r.oldName = name
    · exfalso
      subst ho
      by_cases hold : r.oldName ∈ Assoc.keys deps
      · obtain ⟨v, hv⟩ := hs.find? hold
        unfold within at h
        rw [hv] at h
        dsimp only at h
        rw [if_neg hn, ← Assoc.find?_isSome_iff, find?_rename, if_neg (Ne.symm hn),
          if_pos rfl] at h
        cases h
      · rw [within_of_not_mem hold] at h
        exact hold h
    · rw [← Assoc.find?_isSome_iff, find?_within_of_ne ho hn, Assoc.find?_isSome_iff] at h
      exact .inr ⟨h, ho⟩

theorem hasStrings_within (r : Replacement) (hs : HasStrings deps) :
    HasStrings (r.within deps) := by
  rcases r.within_cases deps with h | ⟨v, h | h⟩
  · rwa [h]
  · rw [h]
    intro p hp
    rcases Assoc.mem_put hp with hp | hp
    · exact hs p hp
    · exact ⟨_, hp⟩
  · rw [h]
    intro p hp
    obtain ⟨⟨k, value⟩, hq, hp⟩ := List.mem_filterMap.mp hp
    dsimp only at hp
    -- the entry under the new name has a string, every other one has what it had
    split at hp
    · split at hp
      · cases hp
      · cases hp
        exact ⟨_, rfl⟩
    · split at hp
      · cases hp
      · cases hp
        exact hs _ hq

theorem nodup_keys_within (r : Replacement) (h : (Assoc.keys deps).Nodup) :
    (Assoc.keys (r.within deps)).Nodup := by
  rcases r.within_cases deps with hw | ⟨v, hw | hw⟩
  · rwa [hw]
  · rw [hw]
    exact Assoc.nodup_keys_put h _ _
  · rw [hw]
    exact nodup_keys_rename h

theorem filter_within {q : String → Bool} (ho : q r.oldName = false) (hn : q r.newName = false) :
    (r.within deps).filter (fun p => q p.1) = deps.filter fun p => q p.1 := by
  rcases r.within_cases deps with h | ⟨v, h | h⟩
  · rw [h]
  · rw [h, Assoc.filter_put hn]
  · rw [h, filter_rename ho hn]

/-! ## Several replacements -/

/-- The entries of a group after several replacements, in order. -/
def batch (rs : List Replacement) (deps : Fields) : Fields :=
  rs.foldl (fun deps r => r.within deps) deps

@[simp]
theorem batch_nil (deps : Fields) : batch [] deps = deps := rfl

@[simp]
theorem batch_cons (r : Replacement) (rs : List Replacement) (deps : Fields) :
    batch (r :: rs) deps = batch rs (r.within deps) := rfl

theorem batch_append (before later : List Replacement) (deps : Fields) :
    batch (before ++ later) deps = batch later (batch before deps) := List.foldl_append

/-- The replacements that find their old name in a group, after those before them. -/
def applied (deps : Fields) : List Replacement → List Replacement
  | [] => []
  | r :: rs =>
    if r.oldName ∈ Assoc.keys deps then r :: applied (r.within deps) rs else applied deps rs

theorem hasStrings_batch (rs : List Replacement) (hs : HasStrings deps) :
    HasStrings (batch rs deps) := by
  induction rs generalizing deps with
  | nil => exact hs
  | cons r rs ih => exact ih (hasStrings_within r hs)

theorem nodup_keys_batch (rs : List Replacement) (h : (Assoc.keys deps).Nodup) :
    (Assoc.keys (batch rs deps)).Nodup := by
  induction rs generalizing deps with
  | nil => exact h
  | cons r rs ih => exact ih (nodup_keys_within r h)

/-- Entries of names that no replacement has stay, in their order. -/
theorem filter_batch {q : String → Bool}
    (h : ∀ r ∈ rs, q r.oldName = false ∧ q r.newName = false) :
    (batch rs deps).filter (fun p => q p.1) = deps.filter fun p => q p.1 := by
  induction rs generalizing deps with
  | nil => rfl
  | cons r rs ih =>
    obtain ⟨⟨ho, hn⟩, h⟩ := List.forall_mem_cons.mp h
    rw [batch_cons, ih h, filter_within ho hn]

/-- A name that is declared after a batch was brought in, or has stayed because nothing replaces
it. -/
theorem mem_keys_batch (hs : HasStrings deps) (h : name ∈ Assoc.keys (batch rs deps)) :
    (∃ r ∈ rs, r.newName = name) ∨ name ∈ Assoc.keys deps ∧ ∀ r ∈ rs, r.oldName ≠ name := by
  induction rs generalizing deps with
  | nil => exact .inr ⟨h, by simp⟩
  | cons r rs ih =>
    rcases ih (hasStrings_within r hs) h with ⟨s, hs', hname⟩ | ⟨hmem, hrs⟩
    · exact .inl ⟨s, List.mem_cons_of_mem _ hs', hname⟩
    · rcases mem_keys_within hs hmem with hname | ⟨hmem, hr⟩
      · exact .inl ⟨r, List.mem_cons_self .., hname⟩
      · exact .inr ⟨hmem, List.forall_mem_cons.mpr ⟨hr, hrs⟩⟩

/-- The entry of a name that no replacement touches stays. -/
theorem find?_batch_of_untouched
    (h : ∀ s ∈ applied deps rs, s.oldName ≠ name ∧ s.newName ≠ name) :
    Assoc.find? name (batch rs deps) = Assoc.find? name deps := by
  induction rs generalizing deps with
  | nil => rfl
  | cons r rs ih =>
    unfold applied at h
    by_cases hold : r.oldName ∈ Assoc.keys deps
    · rw [if_pos hold] at h
      obtain ⟨⟨ho, hn⟩, h⟩ := List.forall_mem_cons.mp h
      rw [batch_cons, ih h, find?_within_of_ne ho hn]
    · rw [if_neg hold] at h
      rw [batch_cons, within_of_not_mem hold, ih h]

/-- A name that no replacement removes is declared after a batch iff it was before or one that
applies brings it in. -/
theorem mem_keys_batch_iff (hs : HasStrings deps) (hold : ∀ r ∈ rs, r.oldName ≠ name)
    (hnew : ∀ r ∈ rs, r.newName ≠ "" ∧ r.newName ≠ r.oldName) :
    name ∈ Assoc.keys (batch rs deps) ↔
      name ∈ Assoc.keys deps ∨ ∃ s ∈ applied deps rs, s.newName = name := by
  induction rs generalizing deps with
  | nil => simp [applied]
  | cons r rs ih =>
    obtain ⟨ho, hold⟩ := List.forall_mem_cons.mp hold
    obtain ⟨⟨hempty, hne⟩, hnew⟩ := List.forall_mem_cons.mp hnew
    rw [batch_cons, ih (hasStrings_within r hs) hold hnew, applied]
    by_cases hr : r.oldName ∈ Assoc.keys deps
    · obtain ⟨v, hv⟩ := hs.find? hr
      have hstep : name ∈ Assoc.keys (r.within deps) ↔
          name ∈ Assoc.keys deps ∨ r.newName = name := by
        rw [← Assoc.find?_isSome_iff, ← Assoc.find?_isSome_iff, find?_within hv hempty hne]
        by_cases hn : name = r.newName
        · simp [hn]
        · simp [hn, Ne.symm hn, Ne.symm ho]
      rw [if_pos hr, hstep]
      simp only [List.mem_cons, exists_eq_or_imp, or_assoc]
    · rw [if_neg hr, within_of_not_mem hr]

end Replacement
end BuildRepair
