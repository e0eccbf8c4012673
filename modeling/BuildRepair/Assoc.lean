/-
  Maps that remember insertion order, as lists of pairs. `put` keeps the place of a key that is
  there already and adds a new key at the end; `find?` reads the first pair of a key.
-/

namespace BuildRepair.Assoc

variable {κ : Type u} {α : Type v} [BEq κ]

/-- The value of a key. -/
def find? (k : κ) : List (κ × α) → Option α
  | [] => none
  | (j, a) :: t => if j == k then some a else find? k t

/-- Whether a key has a value. -/
def has (k : κ) (t : List (κ × α)) : Bool := (find? k t).isSome

/-- The map with `a` as the value of `k`. -/
def put (k : κ) (a : α) : List (κ × α) → List (κ × α)
  | [] => [(k, a)]
  | (j, b) :: t => if j == k then (j, a) :: t else (j, b) :: put k a t

/-- The map without the pairs of `k`. -/
def erase (k : κ) (t : List (κ × α)) : List (κ × α) := t.filter fun p => !(p.1 == k)

/-- The map with `a` as the value of `k`, unless `k` has one already. -/
def putNew (k : κ) (a : α) (t : List (κ × α)) : List (κ × α) :=
  if has k t then t else t ++ [(k, a)]

/-- The keys in order. -/
def keys (t : List (κ × α)) : List κ := t.map (·.1)

/-- The map of a list of pairs: of several with one key the last value at the first place. -/
def ofPairs (ps : List (κ × α)) : List (κ × α) := ps.foldl (fun t p => put p.1 p.2 t) []

/-- What `put` leaves in a map was there or has the new value. -/
theorem mem_put {k : κ} {a : α} {t : List (κ × α)} {p : κ × α} (h : p ∈ put k a t) :
    p ∈ t ∨ p.2 = a := by
  induction t with
  | nil =>
    simp only [put, List.mem_singleton] at h
    exact .inr (by rw [h])
  | cons q t ih =>
    obtain ⟨j, b⟩ := q
    unfold put at h
    split at h
    · rcases List.mem_cons.mp h with rfl | h
      · exact .inr rfl
      · exact .inl (List.mem_cons_of_mem _ h)
    · rcases List.mem_cons.mp h with rfl | h
      · exact .inl (List.mem_cons_self ..)
      · rcases ih h with h | h
        · exact .inl (List.mem_cons_of_mem _ h)
        · exact .inr h

/-- A value that is found stands in the map. -/
theorem mem_of_find? {k : κ} {a : α} {t : List (κ × α)} (h : find? k t = some a) :
    ∃ j, (j, a) ∈ t := by
  induction t with
  | nil => cases h
  | cons q t ih =>
    obtain ⟨j, b⟩ := q
    unfold find? at h
    split at h
    · cases h
      exact ⟨j, List.mem_cons_self ..⟩
    · obtain ⟨j', hj⟩ := ih h
      exact ⟨j', List.mem_cons_of_mem _ hj⟩

theorem find?_append (k : κ) (t u : List (κ × α)) :
    find? k (t ++ u) = (find? k t).or (find? k u) := by
  induction t with
  | nil => simp [find?]
  | cons p t ih =>
    obtain ⟨j, b⟩ := p
    by_cases h : (j == k) = true
    · simp [find?, h]
    · simp [find?, h, ih]

theorem mem_putNew {k : κ} {a : α} {t : List (κ × α)} {p : κ × α} (h : p ∈ putNew k a t) :
    p ∈ t ∨ p.2 = a := by
  unfold putNew at h
  split at h
  · exact .inl h
  · rcases List.mem_append.mp h with h | h
    · exact .inl h
    · rw [List.mem_singleton.mp h]
      exact .inr rfl

/-- Taking out keys takes their values with them and no others. -/
theorem find?_filter (q : κ → Bool) (hq : ∀ i j : κ, i == j → q i = q j) (k : κ)
    (t : List (κ × α)) :
    find? k (t.filter fun p => q p.1) = if q k then find? k t else none := by
  induction t with
  | nil => simp [find?]
  | cons p t ih =>
    obtain ⟨j, b⟩ := p
    by_cases hj : (j == k) = true
    · have := hq j k hj
      by_cases hk : q k = true
      · simp [find?, hj, hk, this]
      · simp [this, hk, ih]
    · by_cases hqj : q j = true
      · simp [find?, hj, hqj, ih]
      · simp [find?, hj, hqj, ih]

variable [LawfulBEq κ]

theorem find?_put (j k : κ) (a : α) (t : List (κ × α)) :
    find? j (put k a t) = if k == j then some a else find? j t := by
  induction t with
  | nil => simp [put, find?]
  | cons p t ih =>
    obtain ⟨i, b⟩ := p
    by_cases hik : i = k
    · subst hik
      by_cases hij : i = j <;> simp [put, find?, hij]
    · by_cases hij : i = j
      · subst hij
        simp [put, find?, hik, Ne.symm hik]
      · simp [put, find?, hik, hij, ih]

theorem find?_erase_self (k : κ) (t : List (κ × α)) : find? k (erase k t) = none := by
  induction t with
  | nil => rfl
  | cons p t ih =>
    by_cases h : p.1 = k
    · simpa [erase, h] using ih
    · simp only [erase] at ih
      simp [erase, find?, h, ih]

theorem mem_keys_of_find? {k : κ} {a : α} {t : List (κ × α)} (h : find? k t = some a) :
    k ∈ keys t := by
  induction t with
  | nil => cases h
  | cons p t ih =>
    obtain ⟨i, b⟩ := p
    unfold find? at h
    split at h
    · next hik => exact List.mem_cons.mpr (.inl (eq_of_beq hik).symm)
    · exact List.mem_cons_of_mem _ (ih h)

/-- A new key comes last. -/
theorem put_of_not_mem {k : κ} {t : List (κ × α)} (h : k ∉ keys t) (a : α) :
    put k a t = t ++ [(k, a)] := by
  induction t with
  | nil => rfl
  | cons p t ih =>
    obtain ⟨i, b⟩ := p
    simp only [keys, List.map_cons, List.mem_cons, not_or] at h
    have hik : ¬ (i == k) = true := by simpa using Ne.symm h.1
    rw [put, if_neg hik, ih h.2, List.cons_append]

theorem keys_put (k : κ) (a : α) (t : List (κ × α)) :
    keys (put k a t) = if k ∈ keys t then keys t else keys t ++ [k] := by
  induction t with
  | nil => simp [put, keys]
  | cons p t ih =>
    obtain ⟨i, b⟩ := p
    by_cases h : i = k
    · subst h
      simp [put, keys]
    · have hk : ¬ k = i := fun e => h e.symm
      simp only [keys] at ih
      by_cases hm : k ∈ t.map (·.1)
      · simp [put, keys, h, hk, ih, hm]
      · simp [put, keys, h, hk, ih, hm]

end BuildRepair.Assoc
