import BuildRepair.History.Memory
import BuildRepair.Remedy.Rotation

/-
  Proper remedies: those of the seven kinds whose fields are all strings. Such a remedy has a key
  that can be looked up, and two of them with one key are the same (`Proper.eq_of_key`).
  Every remedy that a diagnosis calls for is proper (`remedies_proper`), and so is the best one
  known in a memory that holds only proper ones (`Memory.Proper.best`).
-/

namespace BuildRepair

theorem Json.beq_str_iff {j : Json} {s : String} : (j == .str s) = true ↔ j = .str s := by
  cases j <;> simp [BEq.beq, Json.same, Json.sameAtom, Json.integer?]

namespace Remedy

/-- A remedy of one of the seven kinds, every field of which is a string. -/
inductive Proper : Remedy → Prop
  | adjustVersion (package version : String) :
      Proper (.adjustVersion (.str package) (.str version))
  | legacyPeerDeps : Proper .legacyPeerDeps
  | removeLockfile (lockfile : String) : Proper (.removeLockfile (.str lockfile))
  | substitutePackage (package replacement : String) :
      Proper (.substitutePackage (.str package) (.str replacement))
  | removePackage (package : String) : Proper (.removePackage (.str package))
  | addResolution (package version : String) :
      Proper (.addResolution (.str package) (.str version))
  | forceInstall : Proper .forceInstall

variable {q r : Remedy}

theorem Proper.eq_of_key (hq : q.Proper) (hr : r.Proper)
    (h : (⟨q.kind, q.target⟩ : Key) = ⟨r.kind, r.target⟩) : q = r := by
  cases hq <;> cases hr <;> simp_all [kind, target]

theorem Proper.isPlain (h : r.Proper) : r.IsPlain := by
  cases h <;> simp [IsPlain, target]

theorem Proper.key_eq (h : r.Proper) : r.key = .ok ⟨r.kind, r.target⟩ := by
  cases h <;> rfl

theorem Proper.describe_eq (h : r.Proper) : r.describe = .ok r.inWords := by
  cases h <;> rfl

theorem target_beq_iff {xs : List Json} (h : r.IsPlain) :
    (xs == r.target) = true ↔ xs = r.target := by
  have main : ∀ ys : List Json, (∀ j ∈ ys, ∃ s, j = .str s) → ∀ xs : List Json,
      (xs == ys) = true ↔ xs = ys := by
    intro ys
    induction ys with
    | nil => intro _ xs; cases xs <;> simp
    | cons y ys ih =>
      intro hs xs
      obtain ⟨s, rfl⟩ := hs y (List.mem_cons_self ..)
      cases xs with
      | nil => simp
      | cons x xs =>
        have := ih (fun j hj => hs j (List.mem_cons_of_mem _ hj)) xs
        simp [Json.beq_str_iff, this]
  exact main _ h _

theorem Key.beq_iff {k : Key} (h : r.IsPlain) :
    (k == ⟨r.kind, r.target⟩) = true ↔ k = ⟨r.kind, r.target⟩ := by
  obtain ⟨kind, target⟩ := k
  show (kind == r.kind && target == r.target) = true ↔ _
  rw [Bool.and_eq_true, beq_iff_eq, target_beq_iff h, Key.mk.injEq]

end Remedy

namespace Rotation

/-- What a rotation remembers of a remedy that was tried for a fault: what identifies the fault
within a run, and the kind and every distinguishing field of the remedy. -/
abbrev Entry := Diagnosis.Key × Remedy.Key

/-- The entry of a remedy tried for a fault. -/
def entry (d : Diagnosis) (r : Remedy) : Entry := (d.key, ⟨r.kind, r.target⟩)

variable {s : Rotation} {d e : Diagnosis} {q r : Remedy}

theorem keyOf_eq (h : r.Proper) : keyOf d r = .ok (entry d r) := by
  have hbad : (⟨r.kind, r.target⟩ : Remedy.Key).bad? = none := by
    unfold Remedy.Key.bad?
    rw [List.find?_eq_none]
    intro j hj
    obtain ⟨s, rfl⟩ := h.isPlain j hj
    simp [Json.isKey]
  unfold keyOf entry
  rw [h.key_eq]
  simp only [hbad]

theorem mark_eq (h : r.Proper) : s.mark d r = .ok ⟨entry d r :: s.tried⟩ := by
  unfold mark
  rw [keyOf_eq h]
  rfl

theorem entry_inj (hq : q.Proper) (hr : r.Proper) (h : entry d q = entry e r) :
    d.key = e.key ∧ q = r := by
  unfold entry at h
  rw [Prod.mk.injEq] at h
  exact ⟨h.1, hq.eq_of_key hr h.2⟩

/-- Whether a proper remedy was tried is always known. -/
theorem hasTried_cases (h : r.Proper) :
    (s.hasTried d r = .ok true ∧ entry d r ∈ s.tried) ∨
      (s.hasTried d r = .ok false ∧ entry d r ∉ s.tried) := by
  have key_beq : ∀ k : Entry,
      (k.1 == (entry d r).1 && k.2 == (entry d r).2) = true ↔ k = entry d r := by
    intro k
    rw [Bool.and_eq_true, beq_iff_eq, Prod.ext_iff]
    exact and_congr Iff.rfl (Remedy.Key.beq_iff h.isPlain)
  unfold hasTried
  rw [keyOf_eq h]
  by_cases ht : entry d r ∈ s.tried
  · refine .inl ⟨?_, ht⟩
    have : (s.tried.any fun q => q.1 == (entry d r).1 && q.2 == (entry d r).2) = true :=
      List.any_eq_true.mpr ⟨_, ht, (key_beq _).mpr rfl⟩
    exact congrArg Except.ok this
  · refine .inr ⟨?_, ht⟩
    have : (s.tried.any fun q => q.1 == (entry d r).1 && q.2 == (entry d r).2) = false := by
      rw [List.any_eq_false]
      intro k hk he
      exact ht ((key_beq k).mp he ▸ hk)
    exact congrArg Except.ok this

end Rotation

/-! ## The remedies that can be chosen -/

namespace Diagnosis

variable {d : Diagnosis} {r : Remedy}

/-- Errors that are one fault within a run have one pattern. -/
theorem pattern_eq_of_key {e : Diagnosis} (h : d.key = e.key) : d.pattern = e.pattern := by
  have hc : d.category = e.category := congrArg Key.category h
  have hp : d.package = e.package := congrArg Key.package h
  unfold pattern namedPackage
  rw [hc, hp]

theorem pinnedVersion_isString (s : String) : ∃ v, d.pinnedVersion (.str s) = .str v := by
  unfold pinnedVersion
  split
  · exact ⟨_, rfl⟩
  · split
    · exact ⟨s, rfl⟩
    · exact ⟨"*", rfl⟩

theorem customize_proper {template : Remedy} (ht : template.Proper)
    (h : d.customize template = some r) : r.Proper := by
  cases ht with
  | adjustVersion | removePackage | substitutePackage =>
    obtain ⟨p, -, rfl⟩ := Option.map_eq_some_iff.mp h
    constructor
  | addResolution p version =>
    obtain ⟨p, -, rfl⟩ := Option.map_eq_some_iff.mp h
    obtain ⟨v, hv⟩ := d.pinnedVersion_isString version
    rw [hv]
    constructor
  | legacyPeerDeps | removeLockfile | forceInstall =>
    cases h
    constructor

theorem templates_proper (c : Category) : ∀ r ∈ Remedy.templates c, r.Proper := by
  have hDefault : Remedy.defaultLockfile.Proper := .removeLockfile _
  have hLatest : Remedy.toLatest.Proper := .adjustVersion _ _
  have hPin : Remedy.pinAny.Proper := .addResolution _ _
  have hDrop : (Remedy.removePackage (.str "")).Proper := .removePackage _
  have hReplace : (Remedy.substitutePackage (.str "") (.str "")).Proper := .substitutePackage _ _
  have hPeer : Remedy.legacyPeerDeps.Proper := .legacyPeerDeps
  cases c <;> simp [Remedy.templates, *]

/-- What a fold gathers that only ever adds the images of the items it passes. -/
theorem mem_foldl_gather {α β : Type} {f : α → Option β} {gather : List β → α → List β} {b : β}
    (hg : ∀ bs a, b ∈ gather bs a → b ∈ bs ∨ f a = some b) (as : List α) (bs : List β)
    (h : b ∈ as.foldl gather bs) : b ∈ bs ∨ ∃ a ∈ as, f a = some b := by
  induction as generalizing bs with
  | nil => exact .inl h
  | cons a as ih =>
    rw [List.foldl_cons] at h
    rcases ih _ h with h | ⟨later, hl, hb⟩
    · rcases hg bs a h with h | hb
      · exact .inl h
      · exact .inr ⟨a, List.mem_cons_self .., hb⟩
    · exact .inr ⟨later, List.mem_cons_of_mem _ hl, hb⟩

/-- Every remedy that a diagnosis calls for is a customized template. -/
theorem mem_remedies (h : r ∈ d.remedies) :
    ∃ template ∈ Remedy.templates d.category, d.customize template = some r := by
  unfold remedies at h
  refine (mem_foldl_gather ?_ _ _ h).resolve_left List.not_mem_nil
  intro chosen template hmem
  split at hmem
  · next q hq =>
    split at hmem
    · exact .inl hmem
    · rcases List.mem_append.mp hmem with hmem | hmem
      · exact .inl hmem
      · rw [List.mem_singleton.mp hmem]
        exact .inr hq
  · exact .inl hmem

/-- The only lockfile whose removal a diagnosis calls for is the default one. -/
theorem eq_defaultLockfile {lockfile : Json} (h : .removeLockfile lockfile ∈ d.remedies) :
    .removeLockfile lockfile = Remedy.defaultLockfile := by
  obtain ⟨template, ht, hr⟩ := mem_remedies h
  have hsame : template = .removeLockfile lockfile := by
    unfold customize at hr
    split at hr
    case h_5 => exact Option.some.inj hr
    all_goals
      obtain ⟨_, -, hbad⟩ := Option.map_eq_some_iff.mp hr
      cases hbad
  rw [hsame] at ht
  revert ht
  cases d.category <;> simp [Remedy.templates, Remedy.defaultLockfile, Remedy.toLatest,
    Remedy.pinAny]

theorem remedies_proper (h : r ∈ d.remedies) : r.Proper := by
  obtain ⟨template, ht, hr⟩ := mem_remedies h
  exact customize_proper (templates_proper _ _ ht) hr

end Diagnosis

namespace Memory

/-- A memory that holds only proper remedies. -/
structure Proper (m : Memory) : Prop where
  fixes : ∀ p ∈ m.histories, ∀ f ∈ p.2.fixes, f.remedy.Proper
  patterns : ∀ p ∈ m.patterns, p.2.Proper

variable {m : Memory} {repo pattern : String} {now : Timestamp} {r : Remedy}

theorem Proper.of_fixes {h : History} (hfixes : ∀ f ∈ h.fixes, f.remedy.Proper) (repo : String) :
    Proper { histories := [(repo, h)] } where
  fixes := by
    rw [List.forall_mem_singleton]
    exact hfixes
  patterns := fun _ hp => absurd hp List.not_mem_nil

theorem Proper.history (h : m.Proper) : ∀ f ∈ (m.history repo now).fixes, f.remedy.Proper := by
  intro f hf
  unfold Memory.history at hf
  cases hh : Assoc.find? repo m.histories with
  | none =>
    rw [hh] at hf
    cases hf
  | some history =>
    rw [hh] at hf
    obtain ⟨name, hm⟩ := Assoc.mem_of_find? hh
    exact h.fixes _ hm f hf

theorem Proper.remedyFor (h : m.Proper) (hr : (m.history repo now).remedyFor pattern = some r) :
    r.Proper := by
  obtain ⟨f, hf, rfl⟩ := Option.map_eq_some_iff.mp hr
  exact h.history f (List.mem_of_find?_eq_some hf)

theorem Proper.best (h : m.Proper) (hr : m.best repo pattern now = some r) : r.Proper := by
  unfold Memory.best at hr
  cases hk : (m.history repo now).remedyFor pattern with
  | some known =>
    rw [hk] at hr
    cases hr
    exact h.remedyFor hk
  | none =>
    rw [hk] at hr
    obtain ⟨key, hm⟩ := Assoc.mem_of_find? hr
    exact h.patterns _ hm

theorem history_opened (other : String) :
    (m.opened repo now).history other now = m.history other now := by
  unfold Memory.history opened Assoc.putNew
  dsimp only
  split
  · rfl
  · next hh =>
    rw [Assoc.find?_append]
    by_cases h : repo = other
    · subst h
      have : Assoc.find? repo m.histories = none := by simpa [Assoc.has] using hh
      simp [this, Assoc.find?]
    · simp [Assoc.find?, h]

theorem best_opened (pattern : String) :
    (m.opened repo now).best repo pattern now = m.best repo pattern now := by
  unfold Memory.best
  rw [history_opened]
  rfl

theorem Proper.opened (h : m.Proper) : (m.opened repo now).Proper := by
  refine ⟨?_, h.patterns⟩
  intro p hp f hf
  rcases Assoc.mem_putNew hp with hp | hp
  · exact h.fixes p hp f hf
  · rw [hp] at hf
    cases hf

end Memory

end BuildRepair
