import BuildRepair.Time.Timestamp
import Mathlib.Algebra.BigOperators.Intervals

/-
  Dates and points in time by number. The number of a date counts the days of the years and months
  before it (`Date.dayNumber`), so the day after has the next number (`dayNumber_next`), across the
  ends of months, leap years and years. A date that exists is reached from the first day by as many
  steps as its number says (`eq_later`), hence no two have one number. The instant of a point counts
  the microseconds in the same way, and moving a point by less than a day gives the point of the
  instant that lies so much earlier, if there is one (`minus?_eq_some_iff`).
-/

namespace BuildRepair

/-- How many days a year has. -/
def yearLength (year : Nat) : Nat := if isLeapYear year then 366 else 365

namespace Date

variable {d e : Date} {n : Nat}

/-- The number of a date, one for the first of January of the year one: the days of the years before
its year, those of the months before its month, and its day. -/
def dayNumber (d : Date) : Nat :=
  ∑ year ∈ Finset.Ico 1 d.year, yearLength year +
    ∑ month ∈ Finset.Ico 1 d.month, daysInMonth d.year month + d.day

theorem exists?_iff : d.exists? = true ↔ (1 ≤ d.year ∧ d.year ≤ 9999) ∧
    (1 ≤ d.month ∧ d.month ≤ 12) ∧ 1 ≤ d.day ∧ d.day ≤ daysInMonth d.year d.month := by
  unfold exists?
  simp only [Bool.and_eq_true, decide_eq_true_eq]
  tauto

theorem daysInMonth_pos (year month : Nat) : 1 ≤ daysInMonth year month := by
  unfold daysInMonth
  split
  · split <;> decide
  · split <;> decide

/-- The months of a year have all of its days. -/
theorem sum_daysInMonth (year : Nat) :
    ∑ month ∈ Finset.Ico 1 13, daysInMonth year month = yearLength year := by
  unfold yearLength
  simp only [Finset.sum_Ico_succ_top, Nat.reduceLeDiff, daysInMonth]
  split <;> simp

/-- The day after has the next number. -/
theorem dayNumber_next (h : d.exists? = true) : d.next.dayNumber = d.dayNumber + 1 := by
  obtain ⟨⟨hyear, -⟩, ⟨hmonth, hlast⟩, -, hday⟩ := exists?_iff.mp h
  unfold next
  split
  · rfl
  · next hend =>
    have hfull : d.day = daysInMonth d.year d.month := by omega
    split
    · -- the month is over, and another one follows
      unfold dayNumber
      dsimp only
      rw [Finset.sum_Ico_succ_top hmonth, hfull]
      omega
    · -- the year is over
      have htwelve : d.month = 12 := by omega
      have hmonths := sum_daysInMonth d.year
      rw [Finset.sum_Ico_succ_top (by decide)] at hmonths
      unfold dayNumber
      dsimp only
      rw [Finset.sum_Ico_succ_top hyear, Finset.Ico_self, Finset.sum_empty, hfull, htwelve]
      omega

example : dayNumber ⟨1970, 1, 1⟩ = 719163 := by decide +kernel

/-! ## Days one after the other -/

/-- The first day. -/
def first : Date := ⟨1, 1, 1⟩

theorem previous_exists (h : d.exists? = true) (hne : d ≠ first) : d.previous.exists? = true := by
  obtain ⟨⟨hyear, hmax⟩, ⟨hmonth, hlast⟩, hday, hdays⟩ := exists?_iff.mp h
  rw [exists?_iff]
  unfold previous
  split
  · dsimp only
    omega
  · split
    · have hpos := daysInMonth_pos d.year (d.month - 1)
      dsimp only
      omega
    · have hyear : 1 < d.year := by
        by_contra hfirst
        refine hne ?_
        obtain ⟨year, month, day⟩ := d
        dsimp only at *
        obtain ⟨rfl, rfl, rfl⟩ : year = 1 ∧ month = 1 ∧ day = 1 := by omega
        rfl
      have hdecember : daysInMonth (d.year - 1) 12 = 31 := rfl
      dsimp only
      omega

/-- The day after the day before. -/
theorem next_previous (h : d.exists? = true) : d.previous.next = d := by
  obtain ⟨year, month, day⟩ := d
  obtain ⟨⟨hyear, -⟩, ⟨hmonth, hlast⟩, hday, hdays⟩ := exists?_iff.mp h
  dsimp only at hyear hmonth hlast hday hdays
  by_cases hafter : 1 < day
  · have hprevious : previous ⟨year, month, day⟩ = ⟨year, month, day - 1⟩ := if_pos hafter
    have hnext : next ⟨year, month, day - 1⟩ = ⟨year, month, day - 1 + 1⟩ :=
      if_pos (show day - 1 < daysInMonth year month by omega)
    rw [hprevious, hnext, Nat.sub_add_cancel hday]
  · obtain rfl : day = 1 := by omega
    by_cases hlater : 1 < month
    · have hprevious : previous ⟨year, month, 1⟩ =
          ⟨year, month - 1, daysInMonth year (month - 1)⟩ := if_pos hlater
      have hnext : next ⟨year, month - 1, daysInMonth year (month - 1)⟩ =
          ⟨year, month - 1 + 1, 1⟩ := by
        unfold next
        rw [if_neg (Nat.lt_irrefl _), if_pos (show month - 1 < 12 by omega)]
      rw [hprevious, hnext, Nat.sub_add_cancel hmonth]
    · obtain rfl : month = 1 := by omega
      show (⟨year - 1 + 1, 1, 1⟩ : Date) = _
      rw [Nat.sub_add_cancel hyear]

theorem dayNumber_previous (h : d.exists? = true) (hne : d ≠ first) :
    d.previous.dayNumber + 1 = d.dayNumber := by
  rw [← dayNumber_next (previous_exists h hne), next_previous h]

theorem later_succ (d : Date) (n : Nat) : d.later (n + 1) = (d.later n).next := by
  induction n generalizing d with
  | zero => rfl
  | succ n ih => exact ih d.next

/-- A date that exists is reached from the first day, by its number. -/
theorem eq_later (h : d.exists? = true) : d = first.later (d.dayNumber - 1) := by
  generalize hn : d.dayNumber - 1 = n
  induction n generalizing d with
  | zero =>
    by_contra hne
    obtain ⟨-, -, hday, -⟩ := exists?_iff.mp (previous_exists h hne)
    have hnumber := dayNumber_previous h hne
    unfold dayNumber at hnumber hn
    omega
  | succ n ih =>
    have hne : d ≠ first := by
      rintro rfl
      cases hn
    have hnumber := dayNumber_previous h hne
    rw [later_succ, ← ih (previous_exists h hne) (by omega), next_previous h]

/-- No two dates have one number. -/
theorem eq_of_dayNumber_eq (hd : d.exists? = true) (he : e.exists? = true)
    (h : d.dayNumber = e.dayNumber) : d = e := by
  rw [eq_later hd, eq_later he, h]

/-- The day before is the date whose number is one less. -/
theorem eq_previous_iff (hd : d.exists? = true) (he : e.exists? = true) :
    e = d.previous ↔ e.dayNumber + 1 = d.dayNumber := by
  constructor
  · intro h
    have hne : d ≠ first := by
      rintro rfl
      rw [h] at he
      cases he
    rw [h]
    exact dayNumber_previous hd hne
  · intro h
    have hne : d ≠ first := by
      rintro rfl
      have hday := (exists?_iff.mp he).2.2.1
      have hfirst : first.dayNumber = 1 := rfl
      unfold dayNumber at h hfirst
      omega
    have hnumber := dayNumber_previous hd hne
    exact eq_of_dayNumber_eq he (previous_exists hd hne) (by omega)

/-- The day after is the date whose number is one more. -/
theorem eq_next_iff (hd : d.exists? = true) (he : e.exists? = true) :
    e = d.next ↔ e.dayNumber = d.dayNumber + 1 := by
  constructor
  · rintro rfl
    exact dayNumber_next hd
  · intro h
    have hd' : d = e.previous := (eq_previous_iff he hd).mpr h.symm
    rw [hd', next_previous he]

end Date

namespace Timestamp

variable {t u : Timestamp} {d : Date} {n : Nat} {offset : Int}

/-- The microseconds from the day before the first one to a point in time. -/
def instant (t : Timestamp) : Int := t.date.dayNumber * dayLength + t.sinceMidnight

theorem date_exists (t : Timestamp) : t.date.exists? = true := by
  have hv := t.valid
  simp only [Bool.and_eq_true] at hv
  exact hv.1.1.1.1

/-- The bounds of a time of day. -/
theorem clock_bounds (t : Timestamp) :
    t.hour < 24 ∧ t.minute < 60 ∧ t.second < 60 ∧ t.micro < 1000000 := by
  have hv := t.valid
  simp only [Bool.and_eq_true, decide_eq_true_eq] at hv
  omega

theorem sinceMidnight_lt (t : Timestamp) : t.sinceMidnight < dayLength := by
  obtain ⟨hh, hm, hs, hmicro⟩ := t.clock_bounds
  unfold sinceMidnight dayLength
  omega

/-- The point on a date at some time of the day. -/
theorem atTime?_eq_some_iff (hn : n < dayLength) :
    atTime? d n = some u ↔ u.date = d ∧ u.sinceMidnight = n := by
  obtain ⟨hh, hm, hs, hmicro⟩ := u.clock_bounds
  unfold dayLength at hn
  unfold atTime? of? sinceMidnight
  dsimp only
  constructor
  · intro h
    split at h
    · cases h
      refine ⟨rfl, ?_⟩
      dsimp only
      omega
    · cases h
  · rintro ⟨rfl, rfl⟩
    -- each part is read off the microseconds again
    have hseconds : (((u.hour * 60 + u.minute) * 60 + u.second) * 1000000 + u.micro) / 1000000 =
        (u.hour * 60 + u.minute) * 60 + u.second := by omega
    have hhour : ((u.hour * 60 + u.minute) * 60 + u.second) / 3600 = u.hour := by omega
    have hminute : ((u.hour * 60 + u.minute) * 60 + u.second) / 60 % 60 = u.minute := by omega
    have hsecond : ((u.hour * 60 + u.minute) * 60 + u.second) % 60 = u.second := by omega
    have hmicro : (((u.hour * 60 + u.minute) * 60 + u.second) * 1000000 + u.micro) % 1000000 =
        u.micro := by omega
    simp only [hseconds, hhour, hminute, hsecond, hmicro]
    exact dif_pos u.valid

/-- Moving a point by less than a day gives the point whose instant lies so much earlier. -/
theorem minus?_eq_some_iff (ho : offset.natAbs < dayLength) :
    t.minus? offset = some u ↔ u.instant = t.instant - offset := by
  have ht := t.sinceMidnight_lt
  have hu := u.sinceMidnight_lt
  unfold instant minus?
  unfold dayLength at *
  dsimp only
  split
  · next hbefore =>
    rw [atTime?_eq_some_iff (by unfold dayLength; omega),
      Date.eq_previous_iff t.date_exists u.date_exists]
    omega
  · split
    · next hsame =>
      rw [atTime?_eq_some_iff (by unfold dayLength; omega)]
      constructor
      · rintro ⟨hdate, hmicros⟩
        rw [hdate]
        omega
      · intro h
        exact ⟨Date.eq_of_dayNumber_eq u.date_exists t.date_exists (by omega), by omega⟩
    · next hafter =>
      rw [atTime?_eq_some_iff (by unfold dayLength; omega),
        Date.eq_next_iff t.date_exists u.date_exists]
      omega

end Timestamp
end BuildRepair
