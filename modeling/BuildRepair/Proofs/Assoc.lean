import BuildRepair.Assoc
import Mathlib.Data.List.Nodup

/-
  More about maps as lists of pairs. Where no key stands twice, what is found under a key is what
  stands there (`find?_eq_some_iff`), and `put` keeps it so (`nodup_keys_put`). Only the last of two
  values put under one key remains (`put_put`), and one that is taken out again leaves no trace
  (`erase_put_of_find?_eq_none`). Of values that are put in unless their key is there, the first one
  counts (`find?_putAllNew`). Two maps without double keys are one if they have the same keys in the
  same order and the same value for each (`eq_of_find?`).
-/

namespace BuildRepair.Assoc

variable {κ : Type u} {α : Type v} [BEq κ]

/-- A map after pairs were put in one after the other, each unless its key was there. -/
def putAllNew (ps t : List (κ × α)) : List (κ × α) := ps.foldl (fun t p => putNew p.1 p.2 t) t

theorem prefix_putNew (k : κ) (a : α) (t : List (κ × α)) : t <+: putNew k a t := by
  unfold putNew
  split
  · exact List.prefix_rfl
  · exact List.prefix_append ..

theorem prefix_putAllNew (ps t : List (κ × α)) : t <+: putAllNew ps t := by
  induction ps generalizing t with
  | nil => exact List.prefix_rfl
  | cons p ps ih => exact (prefix_putNew p.1 p.2 t).trans (ih _)

/-- What is found stays found where a map grows at its end. -/
theorem find?_of_prefix {k : κ} {a : α} {t u : List (κ × α)} (h : t <+: u)
    (ht : find? k t = some a) : find? k u = some a := by
  obtain ⟨new, rfl⟩ := h
  rw [find?_append, ht]
  rfl

/-- The first of several values put under a key counts. -/
theorem find?_putAllNew {k : κ} (hk : ∀ j : κ, j == k → j = k) (ps t : List (κ × α)) :
    find? k (putAllNew ps t) = (find? k t).or (find? k ps) := by
  have one (p : κ × α) (t : List (κ × α)) :
      find? k (putNew p.1 p.2 t) = (find? k t).or (find? k [p]) := by
    unfold putNew has
    split
    · next hp =>
      by_cases hpk : (p.1 == k) = true
      · rw [hk p.1 hpk] at hp
        rw [Option.or_of_isSome hp]
      · simp [find?, hpk]
    · exact find?_append ..
  induction ps generalizing t with
  | nil => exact Option.or_none.symm
  | cons p ps ih =>
    show find? k (putAllNew ps (putNew p.1 p.2 t)) = _
    rw [ih, one, Option.or_assoc, ← find?_append]
    rfl

theorem find?_map (f : α → β) (k : κ) (t : List (κ × α)) :
    find? k (t.map fun p => (p.1, f p.2)) = (find? k t).map f := by
  induction t with
  | nil => rfl
  | cons p t ih =>
    rw [List.map_cons, find?, find?, ih]
    split <;> rfl

/-- Putting the value under a key that is there already changes nothing. -/
theorem put_of_find? {k : κ} {a : α} {t : List (κ × α)} (h : find? k t = some a) :
    put k a t = t := by
  induction t with
  | nil => cases h
  | cons p t ih =>
    obtain ⟨j, b⟩ := p
    unfold find? at h
    unfold put
    split at h
    · next hj =>
      cases h
      rw [if_pos hj]
    · next hj => rw [if_neg hj, ih h]

variable [LawfulBEq κ]

theorem find?_isSome_iff {k : κ} {t : List (κ × α)} :
    (find? k t).isSome = true ↔ k ∈ keys t := by
  induction t with
  | nil => simp [find?, keys]
  | cons p t ih =>
    obtain ⟨j, b⟩ := p
    unfold keys at ih ⊢
    by_cases h : j = k
    · simp [find?, h]
    · simp [find?, h, Ne.symm h, ih]

theorem mem_of_find?_eq_some {k : κ} {a : α} {t : List (κ × α)} (h : find? k t = some a) :
    (k, a) ∈ t := by
  induction t with
  | nil => cases h
  | cons p t ih =>
    obtain ⟨j, b⟩ := p
    unfold find? at h
    split at h
    · next hj =>
      cases h
      rw [eq_of_beq hj]
      exact List.mem_cons_self ..
    · exact List.mem_cons_of_mem _ (ih h)

/-- Where no key stands twice, a value is found if it stands under its key. -/
theorem find?_eq_some_iff {k : κ} {a : α} {t : List (κ × α)} (h : (keys t).Nodup) :
    find? k t = some a ↔ (k, a) ∈ t := by
  refine ⟨mem_of_find?_eq_some, fun hmem => ?_⟩
  induction t with
  | nil => cases hmem
  | cons p t ih =>
    obtain ⟨j, b⟩ := p
    unfold keys at h
    rw [List.map_cons, List.nodup_cons] at h
    rcases List.mem_cons.mp hmem with heq | hmem
    · cases heq
      simp [find?]
    · have hj : j ≠ k := by
        rintro rfl
        exact h.1 (List.mem_map.mpr ⟨_, hmem, rfl⟩)
      rw [find?, if_neg (by simpa using hj)]
      exact ih h.2 hmem

theorem nodup_keys_put {t : List (κ × α)} (h : (keys t).Nodup) (k : κ) (a : α) :
    (keys (put k a t)).Nodup := by
  rw [keys_put]
  split
  · exact h
  · next hk =>
    rw [List.nodup_append]
    refine ⟨h, List.nodup_singleton k, ?_⟩
    intro i hi j hj hij
    rw [hij, List.mem_singleton.mp hj] at hi
    exact hk hi

theorem nodup_keys_putNew {t : List (κ × α)} (h : (keys t).Nodup) (k : κ) (a : α) :
    (keys (putNew k a t)).Nodup := by
  unfold putNew has
  split
  · exact h
  · next hk =>
    rw [find?_isSome_iff] at hk
    unfold keys at h hk ⊢
    rw [List.map_append, List.map_singleton, ← List.concat_eq_append]
    exact h.concat hk

/-- A key that is put in goes to the end, unless it is there. -/
theorem keys_putNew (k : κ) (a : α) (t : List (κ × α)) :
    keys (putNew k a t) = if k ∈ keys t then keys t else keys t ++ [k] := by
  unfold putNew has
  simp only [find?_isSome_iff]
  split
  · rfl
  · exact List.map_append

/-- Pairs with other values under the same keys go to the same places. -/
theorem keys_putAllNew_congr {β : Type w} {ps t : List (κ × α)} {qs u : List (κ × β)}
    (hps : keys ps = keys qs) (ht : keys t = keys u) :
    keys (putAllNew ps t) = keys (putAllNew qs u) := by
  induction ps generalizing t qs u with
  | nil =>
    obtain rfl : qs = [] := List.map_eq_nil_iff.mp hps.symm
    exact ht
  | cons p ps ih =>
    cases qs with
    | nil => cases hps
    | cons q qs =>
      have hkey : p.1 = q.1 := (List.cons.inj hps).1
      have htail : keys ps = keys qs := (List.cons.inj hps).2
      show keys (putAllNew ps (putNew p.1 p.2 t)) = keys (putAllNew qs (putNew q.1 q.2 u))
      refine ih htail ?_
      rw [keys_putNew, keys_putNew, ht, hkey]

theorem nodup_keys_putAllNew {t : List (κ × α)} (ht : (keys t).Nodup) (ps : List (κ × α)) :
    (keys (putAllNew ps t)).Nodup := by
  induction ps generalizing t with
  | nil => exact ht
  | cons p ps ih => exact ih (nodup_keys_putNew ht p.1 p.2)

/-- A map is its keys in their order and the value of each. -/
theorem eq_of_find? {t u : List (κ × α)} (hkeys : keys t = keys u) (ht : (keys t).Nodup)
    (hfind : ∀ k ∈ keys t, find? k t = find? k u) : t = u := by
  induction t generalizing u with
  | nil => exact (List.map_eq_nil_iff.mp hkeys.symm).symm
  | cons p t ih =>
    cases u with
    | nil => cases hkeys
    | cons q u =>
      obtain ⟨i, a⟩ := p
      obtain ⟨j, b⟩ := q
      obtain rfl : i = j := (List.cons.inj hkeys).1
      have htail : keys t = keys u := (List.cons.inj hkeys).2
      obtain ⟨hi, ht⟩ := List.nodup_cons.mp ht
      have hab := hfind i (List.mem_cons_self ..)
      simp only [find?, beq_self_eq_true, if_true, Option.some.injEq] at hab
      rw [hab, ih htail ht]
      intro k hk
      have hne : ¬ (i == k) = true := by
        rw [beq_iff_eq]
        rintro rfl
        exact hi hk
      have := hfind k (List.mem_cons_of_mem _ hk)
      rwa [find?, if_neg hne, find?, if_neg hne] at this

/-- Entries of other keys stay, in their order. -/
theorem filter_put {q : κ → Bool} {k : κ} (hk : q k = false) (a : α) (t : List (κ × α)) :
    (put k a t).filter (fun p => q p.1) = t.filter fun p => q p.1 := by
  induction t with
  | nil => simp [put, hk]
  | cons p t ih =>
    obtain ⟨j, b⟩ := p
    by_cases h : j = k
    · subst h
      simp [put, hk]
    · simp [put, h, List.filter_cons, ih]

/-- Where no key stands twice, a value that is put under one of them is the only change. -/
theorem put_eq_map [DecidableEq κ] {k : κ} {t : List (κ × α)} (h : (keys t).Nodup)
    (hk : k ∈ keys t) (a : α) : put k a t = t.map fun p => (p.1, if p.1 = k then a else p.2) := by
  induction t with
  | nil => cases hk
  | cons p t ih =>
    obtain ⟨j, b⟩ := p
    obtain ⟨hj, h⟩ := List.nodup_cons.mp h
    rw [put, List.map_cons]
    by_cases hjk : j = k
    · subst hjk
      have hrest : (t.map fun p => (p.1, if p.1 = j then a else p.2)) = t := by
        refine (List.map_congr_left fun p hp => ?_).trans (List.map_id' t)
        rw [if_neg]
        rintro rfl
        exact hj (List.mem_map.mpr ⟨p, hp, rfl⟩)
      simp [hrest]
    · have hk : k ∈ keys t := (List.mem_cons.mp hk).resolve_left (Ne.symm hjk)
      rw [if_neg (by simpa using hjk), ih h hk]
      simp [hjk]

theorem put_put (k : κ) (a b : α) (t : List (κ × α)) : put k b (put k a t) = put k b t := by
  induction t with
  | nil => simp [put]
  | cons p t ih =>
    by_cases h : p.1 = k
    · simp [put, h]
    · simp [put, h, ih]

theorem erase_of_find?_eq_none {k : κ} {t : List (κ × α)} (h : find? k t = none) :
    erase k t = t := by
  induction t with
  | nil => rfl
  | cons p t ih =>
    obtain ⟨j, b⟩ := p
    by_cases hj : j = k
    · simp [find?, hj] at h
    · simp only [find?, beq_iff_eq, hj, if_false] at h
      have ih := ih h
      unfold erase at ih ⊢
      simp [hj, ih]

theorem find?_eq_none_iff {k : κ} {t : List (κ × α)} : find? k t = none ↔ k ∉ keys t := by
  rw [← find?_isSome_iff, Option.not_isSome_iff_eq_none]

theorem not_mem_keys_of_find?_eq_none {k : κ} {t : List (κ × α)} (h : find? k t = none) :
    k ∉ keys t :=
  find?_eq_none_iff.mp h

/-- A key that was put in and is taken out again leaves no trace. -/
theorem erase_put_of_find?_eq_none {k : κ} {t : List (κ × α)} (h : find? k t = none) (a : α) :
    erase k (put k a t) = t := by
  have herase := erase_of_find?_eq_none h
  rw [put_of_not_mem (not_mem_keys_of_find?_eq_none h)]
  unfold erase at herase ⊢
  rw [List.filter_append, herase]
  simp

end BuildRepair.Assoc
