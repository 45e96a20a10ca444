import SnakeArena.Library.Calendar

/-!
# Library — weeks

The weeks of ISO 8601: a week starts on a Monday, and the first week of a year is the one that 4
January is in.  A year has 52 of them or 53, and each day is in exactly one.

* `Civil.year_ofDays`: the year of a day is the one whose first day is the last not after it.
* `IsoWeek.of_thursday`: the year of the Thursday of a week is the year of the week.
* `padded_lt`: of numbers padded to one width, the smaller one is first.
-/

namespace SnakeArena.Library

/-! ### The days of a year -/

namespace Civil

/-- 1 January. -/
def yearStart (year : ℤ) : ℤ := days ⟨year, 1, 1⟩

theorem yearStart_eq (year : ℤ) : yearStart year = daysBefore (year - 1) + 306 - 719468 := by
  unfold yearStart days
  simp only [if_pos (show (1 : ℤ) ≤ 2 by omega)]
  omega

theorem yearStart_succ (year : ℤ) :
    yearStart (year + 1) = yearStart year + 365 ∨ yearStart (year + 1) = yearStart year + 366 := by
  rw [yearStart_eq, yearStart_eq]
  unfold daysBefore
  omega

theorem yearStart_strictMono : StrictMono yearStart := by
  refine strictMono_int_of_lt_succ fun year => ?_
  have := yearStart_succ year
  omega

/-- The quotients of a day: the year that starts in March, and the day of it. -/
theorem ofDays_march (day : ℤ) : ∃ year doy, ofDays day = ofMarch year doy ∧ 0 ≤ doy ∧ doy ≤ 365 ∧
    day = daysBefore year + doy - 719468 := by
  obtain ⟨doe, hdoe⟩ : ∃ doe, doe = (day + 719468) % 146097 := ⟨_, rfl⟩
  obtain ⟨c, hc⟩ : ∃ c, c = centuries doe := ⟨_, rfl⟩
  obtain ⟨q, hq⟩ : ∃ q, q = spans (doe - 36524 * c) := ⟨_, rfl⟩
  obtain ⟨y, hy⟩ : ∃ y, y = years (doe - 36524 * c - 1461 * q) := ⟨_, rfl⟩
  refine ⟨(day + 719468) / 146097 * 400 + 100 * c + 4 * q + y,
    doe - 36524 * c - 1461 * q - 365 * y, ?_, ?_⟩
  · unfold ofDays
    dsimp only
    rw [← hdoe, ← hc, ← hq, ← hy]
  · unfold centuries at hc
    unfold spans at hq
    unfold years at hy
    rw [daysBefore_era (by omega) (by omega) (by omega)]
    omega

theorem year_ofDays (day : ℤ) :
    yearStart (ofDays day).year ≤ day ∧ day < yearStart ((ofDays day).year + 1) := by
  obtain ⟨year, doy, hday, h₀, h, rfl⟩ := ofDays_march day
  rw [hday, yearStart_eq, yearStart_eq, Int.add_sub_cancel]
  unfold ofMarch
  dsimp only
  -- January is the tenth month from March.
  by_cases hmp : (5 * doy + 2) / 153 < 10
  · simp only [if_pos hmp]
    unfold daysBefore
    omega
  · simp only [if_neg hmp]
    unfold daysBefore
    omega

end Civil

/-! ### The weeks of a year -/

/-- The Monday of the week of a day. -/
def monday (day : ℤ) : ℤ := day - (day + 3) % 7

/-- The first Monday of a year of weeks. -/
def firstMonday (year : ℤ) : ℤ := monday (Civil.days ⟨year, 1, 4⟩)

/-- How many weeks the year has. -/
def weeksIn (year : ℤ) : ℤ := (firstMonday (year + 1) - firstMonday year) / 7

/-- The day is in this week of this year. -/
structure IsoWeek (day year week : ℤ) : Prop where
  started : firstMonday year ≤ day
  ended : day < firstMonday (year + 1)
  week : week = (day - firstMonday year) / 7 + 1

theorem firstMonday_eq (year : ℤ) : firstMonday year = monday (Civil.yearStart year + 3) := by
  unfold firstMonday Civil.yearStart Civil.days
  simp only [if_pos (show (1 : ℤ) ≤ 2 by omega)]
  congr 1
  omega

/-- A year of weeks is a whole number of them. -/
theorem firstMonday_succ (year : ℤ) : firstMonday (year + 1) = firstMonday year + 7 * weeksIn year ∧
    (weeksIn year = 52 ∨ weeksIn year = 53) := by
  have hsucc := Civil.yearStart_succ year
  unfold weeksIn
  rw [firstMonday_eq, firstMonday_eq]
  unfold monday
  omega

theorem firstMonday_mod (year : ℤ) : (firstMonday year + 3) % 7 = 0 := by
  rw [firstMonday_eq]
  unfold monday
  omega

theorem firstMonday_strictMono : StrictMono firstMonday := by
  refine strictMono_int_of_lt_succ fun year => ?_
  have := firstMonday_succ year
  omega

namespace IsoWeek

/-- The weeks of a year count up from its first Monday. -/
theorem monday_eq {day year week : ℤ} (h : IsoWeek day year week) :
    monday day = firstMonday year + 7 * (week - 1) := by
  have hmod := firstMonday_mod year
  have hweek := h.week
  unfold monday
  omega

theorem range {day year week : ℤ} (h : IsoWeek day year week) : 1 ≤ week ∧ week ≤ weeksIn year := by
  have hsucc := firstMonday_succ year
  have hstarted := h.started
  have hended := h.ended
  have hweek := h.week
  omega

/-- A day is in one week. -/
theorem unique {day year week year' week' : ℤ} (h : IsoWeek day year week)
    (h' : IsoWeek day year' week') : year = year' ∧ week = week' := by
  have hbelow := firstMonday_strictMono.lt_iff_lt.mp (h.started.trans_lt h'.ended)
  have habove := firstMonday_strictMono.lt_iff_lt.mp (h'.started.trans_lt h.ended)
  obtain rfl : year = year' := by omega
  exact ⟨rfl, h.week.trans h'.week.symm⟩

/-- Of two days, the later one is in the same week or in a later one. -/
theorem le_iff {day year week day' year' week' : ℤ} (h : IsoWeek day year week)
    (h' : IsoWeek day' year' week') :
    monday day < monday day' ↔ year < year' ∨ year = year' ∧ week < week' := by
  have hmonday := h.monday_eq
  have hmonday' := h'.monday_eq
  have hrange := h.range
  have hrange' := h'.range
  have hsucc := firstMonday_succ year
  have hsucc' := firstMonday_succ year'
  rcases lt_trichotomy year year' with hyear | rfl | hyear
  · have := firstMonday_strictMono.monotone (show year + 1 ≤ year' by omega)
    omega
  · omega
  · have := firstMonday_strictMono.monotone (show year' + 1 ≤ year by omega)
    omega

/-- The week after is the next number, or the first of the next year. -/
theorem next {day year week : ℤ} (h : IsoWeek day year week) :
    if week = weeksIn year then IsoWeek (day + 7) (year + 1) 1
      else IsoWeek (day + 7) year (week + 1) := by
  have hsucc := firstMonday_succ year
  have hsucc' := firstMonday_succ (year + 1)
  obtain ⟨hstarted, hended, hweek⟩ := h
  split_ifs with hlast
  · exact ⟨by omega, by omega, by omega⟩
  · exact ⟨by omega, by omega, by omega⟩

/-- The Thursday decides: the year that it is in, and the sevenths of the year up to it. -/
theorem of_thursday (day : ℤ) :
    IsoWeek day (Civil.ofDays (monday day + 3)).year
      ((monday day + 3 - Civil.yearStart (Civil.ofDays (monday day + 3)).year + 7) / 7) := by
  obtain ⟨hle, hlt⟩ := Civil.year_ofDays (monday day + 3)
  refine ⟨?_, ?_, ?_⟩
  · rw [firstMonday_eq]
    unfold monday at *
    omega
  · rw [firstMonday_eq]
    unfold monday at *
    omega
  · rw [firstMonday_eq]
    unfold monday at *
    omega

end IsoWeek

/-! ### The text of a number -/

/-- `padStart` with zeros. -/
def padded (width n : ℕ) : List Char := (Nat.toDigits 10 n).leftpad width '0'

theorem length_padded {width n : ℕ} (hwidth : 0 < width) (h : n < 10 ^ width) :
    (padded width n).length = width := by
  have hlength := (Nat.length_toDigits_le_iff (by omega) hwidth).mpr h
  rw [padded, List.length_leftpad]
  omega

/-- A number of that many digits is not padded. -/
theorem padded_eq {width n : ℕ} (h : 10 ^ width ≤ n) :
    padded (width + 1) n = Nat.toDigits 10 n := by
  have hlength : width < (Nat.toDigits 10 n).length := by
    rcases Nat.eq_zero_or_pos width with rfl | hwidth
    · exact Nat.length_toDigits_pos
    · exact not_le.mp fun hle =>
        not_lt.mpr h ((Nat.length_toDigits_le_iff (by omega) hwidth).mp hle)
  rw [padded, List.leftpad, Nat.sub_eq_zero_of_le hlength]
  rfl

/-- The last digit, after the others. -/
theorem padded_succ (width n : ℕ) :
    padded (width + 2) n = padded (width + 1) (n / 10) ++ [(n % 10).digitChar] := by
  unfold padded List.leftpad
  rcases lt_or_ge n 10 with hn | hn
  · rw [Nat.toDigits_of_lt_base hn, Nat.div_eq_of_lt hn, Nat.toDigits_zero, Nat.mod_eq_of_lt hn]
    simp [List.replicate_succ']
  · rw [Nat.toDigits_of_base_le (by omega) hn]
    simp

theorem digitChar_lt {m n : ℕ} (hn : n < 10) (h : m < n) : m.digitChar < n.digitChar := by
  have hall : ∀ n < 10, ∀ m < n, m.digitChar < n.digitChar := by decide
  exact hall n hn m h

theorem lt_append {l l' : List Char} (t t' : List Char) (hlength : l.length = l'.length)
    (h : l < l') : l ++ t < l' ++ t' := by
  induction l generalizing l' with
  | nil => exact absurd h (by simp [List.length_eq_zero_iff.mp hlength.symm])
  | cons c l ih =>
      cases l' with
      | nil => cases hlength
      | cons c' l' =>
          rw [List.cons_append, List.cons_append, List.cons_lt_cons_iff]
          rcases List.cons_lt_cons_iff.mp h with hc | ⟨hc, hl⟩
          · exact .inl hc
          · exact .inr ⟨hc, ih (Nat.succ.inj hlength) hl⟩

/-- Of two numbers padded to one width, the smaller one is first. -/
theorem padded_lt {width m n : ℕ} (hn : n < 10 ^ (width + 1)) (h : m < n) :
    padded (width + 1) m < padded (width + 1) n := by
  induction width generalizing m n with
  | zero =>
      have hn : n < 10 := hn
      unfold padded
      rw [Nat.toDigits_of_lt_base hn, Nat.toDigits_of_lt_base (h.trans hn)]
      exact List.cons_lt_cons_iff.mpr (.inl (digitChar_lt hn h))
  | succ width ih =>
      have hn' : n / 10 < 10 ^ (width + 1) := by
        rw [Nat.div_lt_iff_lt_mul (by omega), ← Nat.pow_succ]
        exact hn
      rw [padded_succ, padded_succ]
      rcases lt_or_eq_of_le (Nat.div_le_div_right (c := 10) h.le) with hdiv | hdiv
      · refine lt_append _ _ ?_ (ih hn' hdiv)
        rw [length_padded (by omega) hn', length_padded (by omega) (hdiv.trans hn')]
      · rw [hdiv]
        refine List.append_left_lt (List.cons_lt_cons_iff.mpr (.inl (digitChar_lt ?_ ?_)))
        · exact Nat.mod_lt n (by omega)
        · omega

end SnakeArena.Library
