import PoolFeed.Time.Calendar

/-!
# Days and dates

Counting days and naming dates are inverse to each other. An era of 400 years has four centuries, a
century has 25 cycles of four years, and only the last century of an era and the last year of a
cycle may have a day more than the others.

## Main statements

* `Date.ofDays_eq` — the date of a count of days
* `Date.toDays_ofDays` — the date of a count of days gives it back
* `Date.isValid_ofDays` — there is such a date
-/

namespace PoolFeed.Calendar

/-! ## Years of an era -/

/-- The century, the cycle of four years, the year and the day of a day of an era. -/
theorem exists_parts {day : Int} (h : 0 ≤ day) (h' : day ≤ 146096) :
    ∃ f q t u : Int, day = 36524 * f + 1461 * q + 365 * t + u ∧ 0 ≤ f ∧ f ≤ 3 ∧ 0 ≤ q ∧ q ≤ 24
      ∧ 0 ≤ t ∧ t ≤ 3 ∧ 0 ≤ u ∧ u ≤ 365 ∧ (u = 365 → t = 3 ∧ (q = 24 → f = 3)) := by
  -- The last day of the era belongs to the last century, that of a cycle to the last year.
  obtain ⟨f, hf⟩ : ∃ f, f = min (day / 36524) 3 := ⟨_, rfl⟩
  obtain ⟨r, hr⟩ : ∃ r, r = day - 36524 * f := ⟨_, rfl⟩
  have hrest : 0 ≤ r ∧ r ≤ 36524 ∧ (r = 36524 → f = 3) := by omega
  obtain ⟨q, hq⟩ : ∃ q, q = r / 1461 := ⟨_, rfl⟩
  obtain ⟨s, hs⟩ : ∃ s, s = r - 1461 * q := ⟨_, rfl⟩
  have hcycle : 0 ≤ q ∧ q ≤ 24 ∧ 0 ≤ s ∧ s ≤ 1460 ∧ (s = 1460 → q = 24 → f = 3) := by omega
  obtain ⟨t, ht⟩ : ∃ t, t = min (s / 365) 3 := ⟨_, rfl⟩
  refine ⟨f, q, t, s - 365 * t, ?_⟩
  omega

/-- The year of an era from a day of it, by the lengths of years, cycles, centuries and the era. -/
theorem yearOfEra_eq {day f q t u : Int} (h : day = 36524 * f + 1461 * q + 365 * t + u)
    (hf : 0 ≤ f) (hf' : f ≤ 3) (hq : 0 ≤ q) (hq' : q ≤ 24) (ht : 0 ≤ t) (ht' : t ≤ 3) (hu : 0 ≤ u)
    (hu' : u ≤ 365) (hlong : u = 365 → t = 3 ∧ (q = 24 → f = 3)) :
    (day - day / 1460 + day / 36524 - day / 146096) / 365 = 100 * f + 4 * q + t := by
  have hcycles : 25 * f + q ≤ day / 1460 ∧ day / 1460 ≤ 25 * f + q + 1
      ∧ (day / 1460 = 25 * f + q + 1 → 1460 ≤ 24 * f + q + 365 * t + u) := by omega
  have hcenturies : day / 36524 = f
      ∨ (day = 146096 ∧ day / 36524 = 4 ∧ f = 3 ∧ day / 146096 = 1) := by omega
  have hera : day / 146096 = 0 ∨ day = 146096 := by omega
  omega

/-- The days of an era in front of a year. -/
theorem daysOfEra_eq {f q t : Int} (hq : 0 ≤ q) (hq' : q ≤ 24) (ht : 0 ≤ t) (ht' : t ≤ 3) :
    365 * (100 * f + 4 * q + t) + (100 * f + 4 * q + t) / 4 - (100 * f + 4 * q + t) / 100
      = 36524 * f + 1461 * q + 365 * t := by
  omega

/-! ## Dates -/

/-- The days in front of a year that begins in March, from 1 March 0000. -/
def daysBefore (year : Int) : Int := 365 * year + year / 4 - year / 100 + year / 400

theorem daysBefore_eq {era f q t : Int} (hf : 0 ≤ f) (hf' : f ≤ 3) (hq : 0 ≤ q) (hq' : q ≤ 24)
    (ht : 0 ≤ t) (ht' : t ≤ 3) : daysBefore (era * 400 + (100 * f + 4 * q + t))
      = era * 146097 + (36524 * f + 1461 * q + 365 * t) := by
  have hera : (era * 400 + (100 * f + 4 * q + t)) / 400 = era := by omega
  have hyear := daysOfEra_eq (f := 4 * era + f) hq hq' ht ht'
  have hsum : 100 * (4 * era + f) + 4 * q + t = era * 400 + (100 * f + 4 * q + t) := by omega
  rw [hsum] at hyear
  rw [daysBefore, hera]
  omega

/-- The date of a day of a year that begins in March. -/
def ofMarch (year day : Int) : Date :=
  let month := (5 * day + 2) / 153
  ⟨if month < 10 then year else year + 1, (if month < 10 then month + 3 else month - 9).toNat,
    (day - (153 * month + 2) / 5 + 1).toNat⟩

theorem isLeap_of_parts {era f q : Int} (hq : 0 ≤ q) (hq' : q ≤ 24) (hlong : q = 24 → f = 3) :
    isLeap (era * 400 + (100 * f + 4 * q + 3) + 1) = true := by
  have hfour : (era * 400 + (100 * f + 4 * q + 3) + 1) % 4 = 0 := by omega
  have hcentury : (era * 400 + (100 * f + 4 * q + 3) + 1) % 100 ≠ 0
      ∨ (era * 400 + (100 * f + 4 * q + 3) + 1) % 400 = 0 := by omega
  simp only [isLeap, Bool.and_eq_true, Bool.or_eq_true, decide_eq_true_iff]
  exact ⟨hfour, hcentury⟩

/-- **The date of a count of days.** -/
theorem Date.ofDays_eq (days : Int) : ∃ year day, 0 ≤ day ∧ day ≤ 365
    ∧ (day = 365 → isLeap (year + 1) = true) ∧ days + 719468 = daysBefore year + day
    ∧ Date.ofDays days = ofMarch year day := by
  obtain ⟨era, hera⟩ : ∃ era, era = (days + 719468) / 146097 := ⟨_, rfl⟩
  obtain ⟨day, hday⟩ : ∃ day, day = (days + 719468) % 146097 := ⟨_, rfl⟩
  have hsum : days + 719468 = era * 146097 + day := by omega
  have hera' : 0 ≤ day ∧ day ≤ 146096 := by omega
  obtain ⟨f, q, t, u, hparts, hf, hf', hq, hq', ht, ht', hu, hu', hlong⟩ :=
    exists_parts hera'.1 hera'.2
  have hbefore : day - (36524 * f + 1461 * q + 365 * t) = u := by omega
  refine ⟨era * 400 + (100 * f + 4 * q + t), u, hu, hu', ?_, ?_, ?_⟩
  · intro hlast
    obtain ⟨rfl, hq24⟩ := hlong hlast
    exact isLeap_of_parts hq hq' hq24
  · rw [daysBefore_eq hf hf' hq hq' ht ht', hsum]
    omega
  · have hyear := yearOfEra_eq hparts hf hf' hq hq' ht ht' hu hu' hlong
    simp only [Date.ofDays, ← hera, ← hday, hyear, daysOfEra_eq hq hq' ht ht', hbefore, ofMarch]
    -- Only the month is left to find, for which the year does not matter.
    clear hyear hera hera' hday hparts hbefore
    have hmonth : 0 ≤ (5 * u + 2) / 153 ∧ (5 * u + 2) / 153 ≤ 11 := by omega
    by_cases hlate : (5 * u + 2) / 153 < 10
    · rw [if_pos hlate, if_pos hlate, if_neg (by omega)]
      congr 1
      omega
    · rw [if_neg hlate, if_neg hlate, if_pos (by omega)]
      congr 1
      omega

/-- The days up to a day of a year that begins in March. -/
theorem toDays_ofMarch {year day : Int} (h : 0 ≤ day) (h' : day ≤ 365) :
    (ofMarch year day).toDays + 719468 = daysBefore year + day := by
  obtain ⟨m, hm⟩ : ∃ m, m = (5 * day + 2) / 153 := ⟨_, rfl⟩
  have hmonth : 0 ≤ m ∧ m ≤ 11 ∧ (153 * m + 2) / 5 ≤ day := by omega
  simp only [Date.toDays, ofMarch, ← hm]
  clear hm
  by_cases hlate : m < 10
  · simp only [if_pos hlate]
    rw [if_neg (by omega), if_neg (by omega), daysBefore]
    omega
  · simp only [if_neg hlate]
    rw [if_pos (by omega), if_pos (by omega), daysBefore]
    omega

/-- **The date of a count of days gives it back.** -/
theorem Date.toDays_ofDays (days : Int) : (Date.ofDays days).toDays = days := by
  obtain ⟨year, day, h, h', -, hdays, heq⟩ := Date.ofDays_eq days
  have hback : (ofMarch year day).toDays + 719468 = daysBefore year + day := toDays_ofMarch h h'
  rw [← heq] at hback
  omega

/-- A month is as long as the year that begins in March leaves for it. -/
theorem day_le_daysInMonth {year day m : Int} (h : 0 ≤ day) (h' : day ≤ 365)
    (hleap : day = 365 → isLeap (year + 1) = true) (hm : m = (5 * day + 2) / 153) :
    (day - (153 * m + 2) / 5 + 1).toNat ≤ daysInMonth (if m < 10 then year else year + 1)
      (if m < 10 then m + 3 else m - 9).toNat := by
  have hmonth : 0 ≤ m ∧ m ≤ 11 := by omega
  by_cases hfebruary : m = 11
  · subst hfebruary
    -- February ends the year that begins in March.
    show (day - (153 * 11 + 2) / 5 + 1).toNat ≤ if isLeap (year + 1) = true then 29 else 28
    by_cases hlast : day = 365
    · rw [if_pos (hleap hlast)]
      omega
    · split <;> omega
  · have hlong : day - (153 * m + 2) / 5 + 1 ≤ 31 := by omega
    have hshort : m = 1 ∨ m = 3 ∨ m = 6 ∨ m = 8 → day - (153 * m + 2) / 5 + 1 ≤ 30 := by omega
    clear hm
    unfold daysInMonth
    by_cases hlate : m < 10
    · simp only [if_pos hlate]
      rw [if_neg (by omega)]
      split <;> omega
    · simp only [if_neg hlate]
      rw [if_neg (by omega)]
      split <;> omega

/-- **There is such a date**, if its year is in range. -/
theorem Date.isValid_ofDays {days : Int} (hrange : yearInRange (Date.ofDays days).year = true) :
    (Date.ofDays days).isValid = true := by
  obtain ⟨year, day, h, h', hleap, -, heq⟩ := Date.ofDays_eq days
  obtain ⟨m, hm⟩ : ∃ m, m = (5 * day + 2) / 153 := ⟨_, rfl⟩
  have hlength := day_le_daysInMonth h h' hleap hm
  rw [heq] at hrange ⊢
  rw [Date.isValid, hrange]
  simp only [ofMarch, ← hm, Bool.true_and, Bool.and_eq_true, decide_eq_true_iff]
  refine ⟨⟨⟨?_, ?_⟩, ?_⟩, hlength⟩
  · omega
  · omega
  · omega

end PoolFeed.Calendar
