import BuildRepair.Proofs.Except
import BuildRepair.Proofs.File.Plain
import BuildRepair.Proofs.History.Saving

/-
  When a history can be saved. A history with room for `k` more successes (`HasRoom k`) holds proper
  remedies only, and no count of it comes near the numbers that are too long to be written. Each
  success that is recorded takes one (`HasRoom.record`), and what has room for none can still be
  written (`HasRoom.toText`). Under a plain path saving such a history fails only where the system
  refuses it (`save_system`).
-/

namespace BuildRepair

open Text (Plain)

/-! ## Counts -/

namespace History

variable {h : History} {f : Fix} {fs : List Fix} {pattern : String} {r : Remedy} {now : Timestamp}
  {k : Nat}

/-- The least natural that is too long to be written. -/
def countLimit : Nat := Binary64.tenPow Json.integerDigitLimit

/-- A history of proper remedies, each of which can succeed some more times before its count is too
long to be written. -/
def HasRoom (k : Nat) (h : History) : Prop :=
  ∀ f ∈ h.fixes, f.remedy.Proper ∧ f.count.natAbs + k < countLimit

theorem HasRoom.mono {n : Nat} (hroom : HasRoom n h) (hk : k ≤ n) : HasRoom k h := by
  intro f hf
  obtain ⟨hp, hc⟩ := hroom f hf
  exact ⟨hp, by omega⟩

theorem mem_recordIn (hf : f ∈ recordIn pattern r now fs) :
    f ∈ fs ∨ f = ⟨.str pattern, r, 1, now⟩ ∨ ∃ g ∈ fs, f = g.succeed r now := by
  induction fs with
  | nil => exact .inr (.inl (List.mem_singleton.mp hf))
  | cons g gs ih =>
    unfold recordIn at hf
    split at hf
    · rcases List.mem_cons.mp hf with rfl | hf
      · exact .inr (.inr ⟨g, List.mem_cons_self .., rfl⟩)
      · exact .inl (List.mem_cons_of_mem _ hf)
    · rcases List.mem_cons.mp hf with rfl | hf
      · exact .inl (List.mem_cons_self ..)
      · rcases ih hf with hf | hnew | ⟨g', hg, hs⟩
        · exact .inl (List.mem_cons_of_mem _ hf)
        · exact .inr (.inl hnew)
        · exact .inr (.inr ⟨g', List.mem_cons_of_mem _ hg, hs⟩)

theorem succeed_cases (f : Fix) (r : Remedy) (now : Timestamp) :
    ((f.succeed r now).remedy = f.remedy ∧ (f.succeed r now).count = f.count + 1) ∨
      ((f.succeed r now).remedy = r ∧ (f.succeed r now).count = 1) := by
  unfold Fix.succeed
  split
  · exact .inl ⟨rfl, rfl⟩
  · exact .inr ⟨rfl, rfl⟩

theorem pattern_succeed (f : Fix) (r : Remedy) (now : Timestamp) :
    (f.succeed r now).pattern = f.pattern := by
  unfold Fix.succeed
  split <;> rfl

/-- A success that is recorded takes room for one. -/
theorem HasRoom.record (hroom : HasRoom (k + 1) h) (hr : r.Proper) (hk : k + 1 < countLimit) :
    HasRoom k (h.record pattern r now) := by
  intro f hf
  rcases mem_recordIn hf with hf | rfl | ⟨g, hg, rfl⟩
  · obtain ⟨hp, hc⟩ := hroom f hf
    exact ⟨hp, by omega⟩
  · refine ⟨hr, ?_⟩
    show (1 : Int).natAbs + k < countLimit
    omega
  · obtain ⟨hp, hc⟩ := hroom g hg
    rcases succeed_cases g r now with ⟨hrem, hcount⟩ | ⟨hrem, hcount⟩
    · rw [hrem, hcount]
      exact ⟨hp, by omega⟩
    · rw [hrem, hcount]
      refine ⟨hr, ?_⟩
      show (1 : Int).natAbs + k < countLimit
      omega

theorem toJson_of_proper (hr : r.Proper) : ∃ j, r.toJson = .ok j := by
  cases hr <;> exact ⟨_, rfl⟩

theorem exists_toJson (hfixes : ∀ f ∈ h.fixes, ∃ j, f.remedy.toJson = .ok j) :
    ∃ j, h.toJson = .ok j := by
  have hitems : ∀ f ∈ h.fixes, ∃ j, fixJson f = .ok j := by
    intro f hf
    obtain ⟨j, hj⟩ := hfixes f hf
    unfold fixJson
    rw [hj]
    exact ⟨_, rfl⟩
  obtain ⟨js, hjs⟩ := mapM_total hitems
  unfold History.toJson
  rw [hjs]
  exact ⟨_, rfl⟩

/-- A history is written unless one of its counts is too long. -/
theorem toText_eq {j : Json} (hj : h.toJson = .ok j) : h.toText =
    if h.fixes.any (isTooLong ·.count) then .error (.notJson (.integerTooLong none))
    else .ok j.tagDates.document := by
  unfold History.toText
  rw [hj]
  cases h.fixes.any (isTooLong ·.count) <;> rfl

/-- A history without room for more can still be written. -/
theorem HasRoom.toText (hroom : HasRoom 0 h) : ∃ text, h.toText = .ok text := by
  have hshort : (h.fixes.any (isTooLong ·.count)) = false := by
    rw [List.any_eq_false]
    intro f hf
    have := (hroom f hf).2
    unfold countLimit at this
    unfold isTooLong
    simp only [decide_eq_true_eq]
    omega
  obtain ⟨j, hj⟩ := exists_toJson fun f hf => toJson_of_proper (hroom f hf).1
  refine ⟨j.tagDates.document, ?_⟩
  rw [toText_eq hj, hshort, if_neg (by decide)]

end History

/-! ## The place of a history -/

namespace Memory

variable {m : Memory} {t : Tree} {repo : String} {now : Timestamp} {p : Path} {e : Failure}
  {h : History}

theorem plainChar_of_kept {c : Char}
    (h : (Text.isAsciiLetter c || Text.isAsciiDigit c || c == '_' || c == '-') = true) :
    Text.PlainChar c := by
  have hrange {lo hi : Char} (hlo : 0 < lo.toNat) (hhi : hi.toNat < 128)
      (hc : lo.val.toNat ≤ c.val.toNat ∧ c.val.toNat ≤ hi.val.toNat) : Text.PlainChar c :=
    Text.plainChar_of_ascii (Nat.lt_of_lt_of_le hlo hc.1) (Nat.lt_of_le_of_lt hc.2 hhi)
  simp only [Text.isAsciiLetter, Text.isAsciiDigit, Bool.or_eq_true, Bool.and_eq_true,
    decide_eq_true_eq, beq_iff_eq, Char.le_def, UInt32.le_iff_toNat_le] at h
  rcases h with (((h | h) | h) | rfl) | rfl
  · exact hrange (by decide) (by decide) h
  · exact hrange (by decide) (by decide) h
  · exact hrange (by decide) (by decide) h
  · decide
  · decide

theorem plain_safeName (repo : String) : Plain (safeName repo).toList := by
  intro c hc
  unfold safeName at hc
  rw [String.toList_ofList] at hc
  obtain ⟨d, -, hd⟩ := List.mem_map.mp (List.mem_of_mem_take hc)
  dsimp only at hd
  split at hd
  · next hk =>
    rw [← hd]
    exact plainChar_of_kept hk
  · rw [← hd]
    decide

theorem shortDigest_of_plain (hr : Plain repo.toList) :
    ∃ digest, shortDigest repo = .ok digest ∧ Plain digest.toList := by
  obtain ⟨bytes, hb⟩ := Text.encode?_of_noHalf fun c hc => (hr c hc).1
  refine ⟨String.ofList ((Text.Sha256.digest bytes).take 12), ?_, ?_⟩
  · unfold shortDigest Text.Sha256.ofString?
    rw [hb]
    show Except.ok (String.ofList ((String.ofList (Text.Sha256.digest bytes)).toList.take 12)) = _
    rw [String.toList_ofList]
  · rw [String.toList_ofList]
    exact (Text.plain_digest bytes).subset fun c hc => List.mem_of_mem_take hc

theorem directoryOf_of_plain (hr : Plain repo.toList) :
    (∃ p, directoryOf t repo = .ok p ∧ p.IsPlain) ∨
      ∃ e, directoryOf t repo = .error (.file e) ∧ e.IsSystem := by
  unfold directoryOf
  split
  · next e he => exact .inr ⟨e, rfl, Tree.holds_system he⟩
  · split
    · exact .inl ⟨_, rfl, .ofString hr⟩
    · obtain ⟨digest, hd, hplain⟩ := shortDigest_of_plain hr
      rw [hd]
      refine .inl ⟨_, rfl, ?_⟩
      refine Path.IsPlain.child (Path.IsPlain.child ?_ (by decide)) hplain
      exact ⟨by decide, fun part hp => by cases hp⟩

theorem path_of_plain (hr : Plain repo.toList) (hb : ∀ p, m.base = some p → p.IsPlain) :
    (∃ p, m.path t repo = .ok p ∧ p.IsPlain) ∨
      ∃ e, m.path t repo = .error (.file e) ∧ e.IsSystem := by
  unfold path
  split
  · next base hbase =>
    refine .inl ⟨_, rfl, ?_⟩
    exact ((hb base hbase).child (plain_safeName repo)).child (by decide)
  · rcases directoryOf_of_plain (t := t) hr with ⟨p, hp, hplain⟩ | ⟨e, he, hs⟩
    · rw [hp]
      exact .inl ⟨_, rfl, (hplain.child (by decide)).child (by decide)⟩
    · rw [he]
      exact .inr ⟨e, rfl, hs⟩

/-! ## Saving -/

theorem write_system (hp : p.IsPlain) (hroom : h.HasRoom 0)
    (he : (write h t p).2 = .error e) : ∃ e', e = .file e' ∧ e'.IsSystem := by
  unfold write at he
  split at he
  · next hd =>
    cases he
    exact ⟨_, rfl, Tree.makeDirectories_system hp.parent (congrArg Prod.snd hd)⟩
  · obtain ⟨text, htext⟩ := hroom.toText
    rw [htext] at he
    dsimp only at he
    split at he
    · next hw =>
      cases he
      exact ⟨_, rfl, Tree.replaceText_system hp (congrArg Prod.snd hw)⟩
    · cases he

/-- Saving a history that can be written fails only where the system refuses it. -/
theorem save_system (hr : Plain repo.toList) (hb : ∀ p, m.base = some p → p.IsPlain)
    (hroom : (m.history repo now).HasRoom 0)
    (he : (m.save t repo none now).2.2 = .error e) : ∃ e', e = .file e' ∧ e'.IsSystem := by
  rw [save_none] at he
  rcases path_of_plain (t := t) hr hb with ⟨p, hp, hplain⟩ | ⟨e', hp, hs⟩
  · rw [hp] at he
    dsimp only at he
    split at he
    · next hw =>
      cases he
      exact write_system hplain hroom (congrArg Prod.snd hw)
    · cases he
  · rw [hp] at he
    cases he
    exact ⟨e', rfl, hs⟩

end Memory

end BuildRepair
