import Mathlib

/-!
# Library — dates

The civil date of a day, counted from 1970-01-01, in the Gregorian calendar at every year.  Years
are counted from March, so that the leap day is the last of its year.

* `days_ofDays`: the day of the date of a day is that day, so no two days have one date
  (`ofDays_injective`).
-/

namespace SnakeArena.Library

structure Civil where
  year : ℤ
  /-- From 1. -/
  month : ℤ
  day : ℤ
deriving DecidableEq

namespace Civil

/-- The centuries of an era of 400 years, whose last one is a day longer. -/
def centuries (doe : ℤ) : ℤ := min (doe / 36524) 3

/-- The spans of four years of a century. -/
def spans (doc : ℤ) : ℤ := doc / 1461

/-- The years of such a span, whose last one is a day longer. -/
def years (dos : ℤ) : ℤ := min (dos / 365) 3

/-- The date of a day of a year that starts in March. -/
def ofMarch (year doy : ℤ) : Civil :=
  let mp := (5 * doy + 2) / 153
  let day := doy - (153 * mp + 2) / 5 + 1
  if mp < 10 then ⟨year, mp + 3, day⟩ else ⟨year + 1, mp - 9, day⟩

/-- The date of a day.  Day 0 of the eras is 0000-03-01. -/
def ofDays (day : ℤ) : Civil :=
  let doe := (day + 719468) % 146097
  let doc := doe - 36524 * centuries doe
  let dos := doc - 1461 * spans doc
  ofMarch ((day + 719468) / 146097 * 400 + 100 * centuries doe + 4 * spans doc + years dos)
    (dos - 365 * years dos)

/-- The days of the years before one that starts in March. -/
def daysBefore (year : ℤ) : ℤ := 365 * year + year / 4 - year / 100 + year / 400

/-- The day of a date. -/
def days (c : Civil) : ℤ :=
  let year := if c.month ≤ 2 then c.year - 1 else c.year
  let mp := if c.month ≤ 2 then c.month + 9 else c.month - 3
  daysBefore year + (153 * mp + 2) / 5 + c.day - 1 - 719468

theorem days_ofMarch {year doy : ℤ} (h₀ : 0 ≤ doy) (h : doy ≤ 365) :
    (ofMarch year doy).days = daysBefore year + doy - 719468 := by
  unfold ofMarch days
  dsimp only
  by_cases hmp : (5 * doy + 2) / 153 < 10
  · simp only [if_pos hmp]
    rw [if_neg (by omega), if_neg (by omega)]
    omega
  · simp only [if_neg hmp]
    rw [if_pos (by omega), if_pos (by omega), Int.add_sub_cancel]
    omega

theorem daysBefore_era {era c q y : ℤ} (hc : 0 ≤ c ∧ c ≤ 3) (hq : 0 ≤ q ∧ q ≤ 24)
    (hy : 0 ≤ y ∧ y ≤ 3) :
    daysBefore (era * 400 + 100 * c + 4 * q + y) =
      146097 * era + 36524 * c + 1461 * q + 365 * y := by
  unfold daysBefore
  omega

theorem days_ofDays (day : ℤ) : (ofDays day).days = day := by
  unfold ofDays
  dsimp only
  -- Each quotient is within its range, and what it leaves is within the next one's.
  obtain ⟨doe, hdoe⟩ : ∃ doe, doe = (day + 719468) % 146097 := ⟨_, rfl⟩
  obtain ⟨c, hc⟩ : ∃ c, c = centuries doe := ⟨_, rfl⟩
  obtain ⟨q, hq⟩ : ∃ q, q = spans (doe - 36524 * c) := ⟨_, rfl⟩
  obtain ⟨y, hy⟩ : ∃ y, y = years (doe - 36524 * c - 1461 * q) := ⟨_, rfl⟩
  rw [← hdoe, ← hc, ← hq, ← hy]
  unfold centuries at hc
  unfold spans at hq
  unfold years at hy
  rw [days_ofMarch (by omega) (by omega), daysBefore_era (by omega) (by omega) (by omega)]
  omega

theorem ofDays_injective : Function.Injective ofDays := by
  intro day day' h
  rw [← days_ofDays day, h, days_ofDays]

/-- The last day of a February of a leap year. -/
example : ofDays 19782 = ⟨2024, 2, 29⟩ := by decide

end Civil

/-- From 0, which is a Sunday: 1970-01-01 was a Thursday. -/
def weekday (day : ℤ) : ℤ := (day + 4) % 7

end SnakeArena.Library
