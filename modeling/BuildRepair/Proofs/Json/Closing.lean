import BuildRepair.Json.Reader

/-
  Readers that differ in what becomes of an object. Where every object that one reader takes is the
  same to another one, each text that the first reads is read as the same value by the second
  (`readWith_of_closes`): both take the same characters, step by step.
-/

namespace BuildRepair.Json

variable {ε : Type} {close close' : Fields → Except ε Json} {fuel : Nat} {s rest : List Char}
  {j : Json} {items : List Json} {done fields : Fields}

theorem closed_of_closes (hc : ∀ fields j, close fields = .ok j → close' fields = .ok j)
    {x y : Read ε Fields} (hxy : ∀ found, x = .ok found → y = .ok found)
    (h : closed close x = .ok (j, rest)) : closed close' y = .ok (j, rest) := by
  unfold closed at h ⊢
  split at h
  · cases h
  · split at h
    · next hclose =>
      cases h
      rw [hxy _ rfl]
      dsimp only
      rw [hc _ _ hclose]
    · cases h

theorem readValue_of_closes (hc : ∀ fields j, close fields = .ok j → close' fields = .ok j)
    (hitems : ∀ s found, readItems close fuel s = .ok found → readItems close' fuel s = .ok found)
    (hfields : ∀ s found, readFields close fuel [] s = .ok found →
      readFields close' fuel [] s = .ok found)
    (h : readValue close (fuel + 1) s = .ok (j, rest)) :
    readValue close' (fuel + 1) s = .ok (j, rest) := by
  unfold readValue at h ⊢
  split at h
  case h_1 hn => cases hn
  case h_2 => exact h
  case h_3 hn =>
    cases hn
    split at h
    · exact h
    · split at h
      · next hi =>
        cases h
        rw [hitems _ _ hi]
      · cases h
  case h_4 hn =>
    cases hn
    split at h
    · exact closed_of_closes hc (fun _ h => h) h
    · exact closed_of_closes hc (hfields _) h
  case h_5 => exact h

theorem readItems_of_closes
    (hvalue : ∀ s found, readValue close fuel s = .ok found → readValue close' fuel s = .ok found)
    (hitems : ∀ s found, readItems close fuel s = .ok found → readItems close' fuel s = .ok found)
    (h : readItems close (fuel + 1) s = .ok (items, rest)) :
    readItems close' (fuel + 1) s = .ok (items, rest) := by
  unfold readItems at h ⊢
  split at h
  · cases h
  · next hx =>
    rw [hvalue _ _ hx]
    dsimp only
    split at h
    · exact h
    · split at h
      · next hi =>
        cases h
        rw [hitems _ _ hi]
      · cases h
    · cases h

theorem readFields_of_closes
    (hvalue : ∀ s found, readValue close fuel s = .ok found → readValue close' fuel s = .ok found)
    (hfields : ∀ done s found, readFields close fuel done s = .ok found →
      readFields close' fuel done s = .ok found)
    (h : readFields close (fuel + 1) done s = .ok (fields, rest)) :
    readFields close' (fuel + 1) done s = .ok (fields, rest) := by
  unfold readFields at h ⊢
  split at h
  case h_1 hn => cases hn
  case h_2 hn =>
    cases hn
    split at h
    · cases h
    · split at h
      · split at h
        · cases h
        · next hx =>
          rw [hvalue _ _ hx]
          dsimp only
          split at h
          · exact h
          · exact hfields _ _ _ h
          · cases h
      · cases h
  case h_3 => cases h

/-- The three mutual readers at once, by induction on the fuel. -/
theorem readers_of_closes (hc : ∀ fields j, close fields = .ok j → close' fields = .ok j)
    (fuel : Nat) :
    (∀ s found, readValue close fuel s = .ok found → readValue close' fuel s = .ok found) ∧
    (∀ s found, readItems close fuel s = .ok found → readItems close' fuel s = .ok found) ∧
    ∀ done s found, readFields close fuel done s = .ok found →
      readFields close' fuel done s = .ok found := by
  induction fuel with
  | zero =>
    refine ⟨?_, ?_, ?_⟩
    · intro s found h
      rw [readValue] at h
      cases h
    · intro s found h
      rw [readItems] at h
      cases h
    · intro done s found h
      rw [readFields] at h
      cases h
  | succ fuel ih =>
    obtain ⟨hvalue, hitems, hfields⟩ := ih
    refine ⟨?_, ?_, ?_⟩
    · exact fun _ _ h => readValue_of_closes hc hitems (hfields []) h
    · exact fun _ _ h => readItems_of_closes hvalue hitems h
    · exact fun _ _ _ h => readFields_of_closes hvalue hfields h

/-- What one reader reads, the other one reads too. -/
theorem readWith_of_closes (hc : ∀ fields j, close fields = .ok j → close' fields = .ok j)
    {wrap : ReadError → ε} {text : String} (h : readWith close wrap text = .ok j) :
    readWith close' wrap text = .ok j := by
  have hvalue := (readers_of_closes hc (2 * text.toList.length + 2)).1
  have htext {j : Json} (h : readText close text.toList = .ok j) :
      readText close' text.toList = .ok j := by
    unfold readText at h ⊢
    split at h
    · cases h
    · next hmark =>
      rw [if_neg hmark]
      split at h
      · cases h
      · next hv =>
        rw [hvalue _ _ hv]
        exact h
  unfold readWith at h ⊢
  dsimp only at h ⊢
  split at h
  · next hj =>
    cases h
    rw [htext hj]
  all_goals cases h

end BuildRepair.Json
