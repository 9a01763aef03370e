import TreeSift.Time.Calendar

/-!
# TreeSift.Proofs.Time.Calendar

Day numbers count days, and name dates.

1. `elapsed` counts the days from the first day of the year 1 to a date, one year and one month
   after the other.  The day number of a date, which takes the years before it all at once, is the
   difference of two such counts (`dayNumber_eq_elapsed`).
2. Every day number has a date of the calendar, and is the number of that date (`civil_eq`).  The
   year is found by taking off cycles of 400 years, centuries, groups of four and single years, of
   which the last of a kind may be longer than the others (`exists_yearAndDay`).
-/

namespace TreeSift

namespace Calendar

/-- The number of days of the first years, from year 1 on. -/
def daysOfYears : Nat → Nat
  | 0 => 0
  | n + 1 => daysOfYears n + yearLength ((n : Int) + 1)

/-- The number of days from the first day of the year 1 to a date. -/
def elapsed (year month day : Nat) : Nat :=
  daysOfYears (year - 1) + daysBeforeMonth year month + (day - 1)

theorem monthLength_le (year : Int) (month : Nat) : monthLength year month ≤ 31 := by
  unfold monthLength
  repeat' split
  all_goals decide

/-- A date of the calendar has one of twelve months and of at most 31 days. -/
theorem bounds_of_isValid {year : Int} {month day : Nat} (h : isValid year month day = true) :
    (1 ≤ month ∧ month ≤ 12) ∧ 1 ≤ day ∧ day ≤ 31 := by
  simp only [isValid, Bool.and_eq_true, decide_eq_true_eq] at h
  exact ⟨h.1.1, h.1.2, Nat.le_trans h.2 (monthLength_le _ _)⟩

/-- Every fourth year has a day more, every hundredth not, and every four hundredth does. -/
theorem yearLength_eq (year : Int) : (yearLength year : Int) =
    365 + (if year % 4 = 0 then 1 else 0) - (if year % 100 = 0 then 1 else 0) +
      if year % 400 = 0 then 1 else 0 := by
  have hcentury : year % 100 = 0 → year % 4 = 0 := by omega
  have hcycle : year % 400 = 0 → year % 100 = 0 := by omega
  rw [yearLength, isLeap]
  by_cases h4 : year % 4 = 0
  · by_cases h100 : year % 100 = 0
    · by_cases h400 : year % 400 = 0
      · simp [h4, h100, h400]
      · simp [h4, h100, h400]
    · have h400 : ¬ year % 400 = 0 := fun h => h100 (hcycle h)
      simp [h4, h100, h400]
  · have h100 : ¬ year % 100 = 0 := fun h => h4 (hcentury h)
    have h400 : ¬ year % 400 = 0 := fun h => h100 (hcycle h)
    simp [h4, h100, h400]

/-- A quotient grows by one where the divisor divides. -/
theorem ediv_add_one (n : Nat) {d : Int} (hd : d = 4 ∨ d = 100 ∨ d = 400) :
    ((n : Int) + 1) / d = n / d + if ((n : Int) + 1) % d = 0 then 1 else 0 := by
  obtain rfl | rfl | rfl := hd <;> split <;> omega

theorem daysOfYears_eq (n : Nat) :
    (daysOfYears n : Int) = 365 * n + n / 4 - n / 100 + n / 400 := by
  induction n with
  | zero => rfl
  | succ n ih =>
      rw [daysOfYears, Int.natCast_add, ih, yearLength_eq, Int.natCast_add, Int.natCast_one,
        ediv_add_one n (.inl rfl), ediv_add_one n (.inr (.inl rfl)),
        ediv_add_one n (.inr (.inr rfl))]
      omega

theorem elapsed_1970 : elapsed 1970 1 1 = 719162 := by
  have hyears := daysOfYears_eq 1969
  have hmonths : daysBeforeMonth (1970 : Nat) 1 = 0 := rfl
  rw [elapsed, hmonths, show 1970 - 1 = 1969 from rfl]
  -- the count must not be computed
  generalize daysOfYears 1969 = n at hyears ⊢
  omega

/-- A day number is the number of days since 1970-01-01. -/
theorem dayNumber_eq_elapsed {year day : Nat} (month : Nat) (hyear : 1 ≤ year) (hday : 1 ≤ day) :
    dayNumber year month day = (elapsed year month day : Int) - elapsed 1970 1 1 := by
  obtain ⟨n, rfl⟩ := Nat.exists_eq_add_of_le' hyear
  have hyears := daysOfYears_eq n
  rw [elapsed_1970, dayNumber, yearStart, elapsed, Nat.add_sub_cancel]
  omega

/-! ## from a day number to a date -/

/-- What a year is made of, its number being one more. -/
structure YearParts where
  cycles : Int
  centuries : Int
  fours : Int
  ones : Int
  centuries_le : 0 ≤ centuries ∧ centuries ≤ 3
  fours_le : 0 ≤ fours ∧ fours ≤ 24
  ones_le : 0 ≤ ones ∧ ones ≤ 3

namespace YearParts

variable (p : YearParts)

def year : Int := 400 * p.cycles + 100 * p.centuries + 4 * p.fours + p.ones + 1

/-- The days of the years before it. -/
def days : Int := 146097 * p.cycles + 36524 * p.centuries + 1461 * p.fours + 365 * p.ones

/-- Whether it is the last of four, and those are not the last of a century that goes without. -/
def IsLong : Prop := p.ones = 3 ∧ (p.fours ≠ 24 ∨ p.centuries = 3)

theorem yearStart_year : yearStart p.year = p.days - 719162 := by
  have hcenturies := p.centuries_le
  have hfours := p.fours_le
  have hones := p.ones_le
  rw [yearStart, year, days]
  omega

theorem lt_yearLength_year {before : Nat} (h : before < 365 ∨ before = 365 ∧ p.IsLong) :
    before < yearLength p.year := by
  have hcenturies := p.centuries_le
  have hfours := p.fours_le
  have hlength := yearLength_eq p.year
  unfold IsLong at h
  rw [year] at hlength ⊢
  omega

end YearParts

theorem exists_yearAndDay (n : Int) : ∃ (p : YearParts) (before : Nat),
    yearAndDay n = (p.year, before) ∧ p.days + before = n + 719162 ∧
      (before < 365 ∨ before = 365 ∧ p.IsLong) := by
  have hparts : ∃ q c f o b : Int,
      yearAndDay n = (400 * q + 100 * c + 4 * f + o + 1, b.toNat) ∧
      146097 * q + 36524 * c + 1461 * f + 365 * o + b = n + 719162 ∧
      (0 ≤ c ∧ c ≤ 3) ∧ (0 ≤ f ∧ f ≤ 24) ∧ (0 ≤ o ∧ o ≤ 3) ∧
      0 ≤ b ∧ (b < 365 ∨ b = 365 ∧ o = 3 ∧ (f ≠ 24 ∨ c = 3)) := by
    refine ⟨_, _, _, _, _, rfl, ?_⟩
    -- one remainder after the other, each with what is known of it
    have hcycles := Int.mul_ediv_add_emod (n + 719162) 146097
    have hr : 0 ≤ (n + 719162) % 146097 ∧ (n + 719162) % 146097 < 146097 := by omega
    generalize (n + 719162) % 146097 = r at hcycles hr ⊢
    have hcenturies : 0 ≤ r - min (r / 36524) 3 * 36524 ∧
        (r - min (r / 36524) 3 * 36524 < 36524 ∨
          min (r / 36524) 3 = 3 ∧ r - min (r / 36524) 3 * 36524 = 36524) := by omega
    have hc : 0 ≤ min (r / 36524) 3 ∧ min (r / 36524) 3 ≤ 3 := by omega
    generalize min (r / 36524) 3 = c at hcenturies hc ⊢
    have hfours := Int.mul_ediv_add_emod (r - c * 36524) 1461
    have hf : 0 ≤ (r - c * 36524) / 1461 ∧ (r - c * 36524) / 1461 ≤ 24 := by omega
    have hs : 0 ≤ (r - c * 36524) % 1461 ∧ (r - c * 36524) % 1461 < 1461 := by omega
    generalize (r - c * 36524) % 1461 = s at hfours hs ⊢
    generalize (r - c * 36524) / 1461 = f at hfours hf ⊢
    omega
  obtain ⟨q, c, f, o, b, hn, hdays, hc, hf, ho, hb, hlong⟩ := hparts
  refine ⟨⟨q, c, f, o, hc, hf, ho⟩, b.toNat, hn, ?_, ?_⟩
  · simp only [YearParts.days]
    omega
  · simp only [YearParts.IsLong]
    omega

theorem daysBeforeMonth_succ (year : Int) {month : Nat} (h : 1 ≤ month) :
    daysBeforeMonth year (month + 1) = daysBeforeMonth year month + monthLength year month := by
  obtain ⟨m, rfl⟩ := Nat.exists_eq_add_of_le' h
  simp only [daysBeforeMonth, Nat.add_sub_cancel, List.range_succ, List.foldl_append,
    List.foldl_cons, List.foldl_nil]

theorem daysBeforeMonth_end (year : Int) : daysBeforeMonth year 13 = yearLength year := by
  cases h : isLeap year <;> simp [daysBeforeMonth, List.range_succ, monthLength, yearLength, h]

/-- Counting on from a month ends in the month of the day, if the year goes on as far. -/
theorem monthAndDay_eq {year : Int} {months month before m d : Nat} (hmonth : 1 ≤ month)
    (hbefore : daysBeforeMonth year month + before < daysBeforeMonth year (month + months + 1))
    (h : monthAndDay year months month before = (m, d)) :
    (month ≤ m ∧ m ≤ month + months) ∧ (1 ≤ d ∧ d ≤ monthLength year m) ∧
      daysBeforeMonth year m + d = daysBeforeMonth year month + before + 1 := by
  induction months generalizing month before with
  | zero =>
      rw [monthAndDay] at h
      injection h with hm hd
      subst hm hd
      rw [Nat.add_zero, daysBeforeMonth_succ year hmonth] at hbefore
      omega
  | succ months ih =>
      rw [monthAndDay] at h
      split at h
      · injection h with hm hd
        subst hm hd
        omega
      · have hnext := daysBeforeMonth_succ year hmonth
        have hend : month + 1 + months + 1 = month + (months + 1) + 1 := by omega
        have := ih (show 1 ≤ month + 1 by omega) (by rw [hend]; omega) h
        omega

/-- Every day has a date of the calendar, whose number it is. -/
theorem civil_eq {n year : Int} {month day : Nat} (h : civil n = (year, month, day)) :
    isValid year month day = true ∧ dayNumber year month day = n := by
  obtain ⟨p, before, hn, hdays, hbefore⟩ := exists_yearAndDay n
  have hlt := p.lt_yearLength_year hbefore
  rw [← daysBeforeMonth_end] at hlt
  rw [civil, hn] at h
  injection h with hyear h
  subst hyear
  have hfirst : daysBeforeMonth p.year 1 = 0 := rfl
  have hmonth := monthAndDay_eq (Nat.le_refl 1) (by rwa [hfirst, Nat.zero_add]) h
  refine ⟨?_, ?_⟩
  · simp only [isValid, Bool.and_eq_true, decide_eq_true_eq]
    omega
  · rw [dayNumber, p.yearStart_year]
    omega

end Calendar

end TreeSift
