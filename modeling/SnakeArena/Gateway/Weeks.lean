import SnakeArena.Gateway.Leaderboard
import SnakeArena.Library.Weeks

/-!
# Gateway — the weekly buckets

`periodKeyFor` of `routes/leaderboard.routes.ts` names a week after the year that its Thursday is
in, and numbers it by the sevenths of that year.

* `weekly_iso`: these are the weeks of ISO 8601, and their names are in the order of time.
-/

namespace SnakeArena.Gateway
open SnakeArena.Library

/-- The text of a key, for years of four digits. -/
def PeriodKey.text : PeriodKey → String
  | .day date => String.ofList (padded 4 date.year.toNat ++ '-' :: padded 2 date.month.toNat ++
      '-' :: padded 2 date.day.toNat)
  | .month year number => String.ofList (padded 4 year.toNat ++ '-' :: padded 2 number.toNat)
  | .week year number =>
      toString year ++ "-W" ++ String.ofList ((toString number).toList.leftpad 2 '0')
  | .all => "all"

/-- Two weeks of the test suite. -/
example : (periodKeyFor .weekly (20820 * 86400000)).text = "2026-W53" ∧
    (periodKeyFor .weekly (20500 * 86400000)).text = "2026-W08" := by decide

/-- The UTC day of an instant. -/
def dayOf (now : ℤ) : ℤ := now / 86400000

/-- The UTC year of the instant is of four digits. -/
structure FourDigits (now : ℤ) : Prop where
  le : 1000 ≤ (Civil.ofDays (dayOf now)).year
  ge : (Civil.ofDays (dayOf now)).year ≤ 9999

def weeklyKey (now : ℤ) : String := (periodKeyFor .weekly now).text

/-! ### The week of an instant -/

/-- `getUTCDay() || 7` counts from Monday. -/
theorem weekKey_eq (today : ℤ) :
    weekKey today = .week (Civil.ofDays (monday today + 3)).year
      ((monday today + 3 - Civil.yearStart (Civil.ofDays (monday today + 3)).year + 7) / 7) := by
  have hthursday : today + 4 - (if weekday today = 0 then 7 else weekday today) =
      monday today + 3 := by
    unfold monday weekday
    split_ifs <;> omega
  unfold weekKey
  dsimp only
  rw [hthursday, add_assoc (_ - _)]
  rfl

theorem periodKeyFor_iff {now year week : ℤ} :
    periodKeyFor .weekly now = .week year week ↔ IsoWeek (dayOf now) year week := by
  have hkey : periodKeyFor .weekly now = weekKey (dayOf now) := rfl
  rw [hkey, weekKey_eq, PeriodKey.week.injEq]
  constructor
  · rintro ⟨rfl, rfl⟩
    exact .of_thursday (dayOf now)
  · exact fun h => (IsoWeek.of_thursday (dayOf now)).unique h

theorem exists_isoWeek (now : ℤ) : ∃ year week, IsoWeek (dayOf now) year week :=
  ⟨_, _, .of_thursday (dayOf now)⟩

theorem FourDigits.weekYear {now year week : ℤ} (h : FourDigits now)
    (hweek : IsoWeek (dayOf now) year week) : 1000 ≤ year ∧ year ≤ 9999 := by
  obtain ⟨hle, hlt⟩ := Civil.year_ofDays (dayOf now)
  have hfirst : firstMonday 1000 ≤ dayOf now :=
    le_trans (by decide) ((Civil.yearStart_strictMono.monotone h.le).trans hle)
  have hlast : dayOf now < firstMonday 10000 :=
    (hlt.trans_le (Civil.yearStart_strictMono.monotone
      (show _ ≤ (10000 : ℤ) by have := h.ge; omega))).trans_le (by decide)
  have habove := firstMonday_strictMono.lt_iff_lt.mp (hfirst.trans_lt hweek.ended)
  have hbelow := firstMonday_strictMono.lt_iff_lt.mp (hweek.started.trans_lt hlast)
  omega

/-! ### The order of the names -/

theorem text_week {year week : ℕ} (hyear : 1000 ≤ year) :
    (PeriodKey.week year week).text.toList = padded 4 year ++ '-' :: 'W' :: padded 2 week := by
  have hyear : (toString (year : ℤ)).toList = padded 4 year :=
    (Nat.toList_repr (n := year)).trans (padded_eq hyear).symm
  have hweek : (toString (week : ℤ)).toList.leftpad 2 '0' = padded 2 week :=
    congrArg (List.leftpad 2 '0') (Nat.toList_repr (n := week))
  rw [PeriodKey.text, String.toList_append, String.toList_append, hyear, hweek, List.append_assoc]
  simp only [String.toList_ofList]
  rfl

/-- Names sort as years, and then as weeks. -/
theorem text_lt {year week year' week' : ℕ} (hyear : 1000 ≤ year) (hyear' : year' ≤ 9999)
    (hweek : week' < 100) (h : year < year' ∨ year = year' ∧ week < week') :
    (PeriodKey.week year week).text < (PeriodKey.week year' week').text := by
  rw [String.lt_iff_toList_lt, text_week hyear, text_week (by omega)]
  rcases h with h | ⟨rfl, h⟩
  · refine lt_append _ _ ?_ (padded_lt (by omega) h)
    rw [length_padded (by omega) (by omega), length_padded (by omega) (by omega)]
  · refine List.append_left_lt ?_
    simp only [List.cons_lt_cons_iff, true_and, lt_self_iff_false, false_or]
    exact padded_lt (by omega) h

/-- The key of a later week is a later text. -/
theorem weeklyKey_lt {now now' : ℤ} (h : FourDigits now) (h' : FourDigits now')
    (hlt : monday (dayOf now) < monday (dayOf now')) : weeklyKey now < weeklyKey now' := by
  obtain ⟨year, week, hweek⟩ := exists_isoWeek now
  obtain ⟨year', week', hweek'⟩ := exists_isoWeek now'
  obtain ⟨hyear, -⟩ := h.weekYear hweek
  obtain ⟨-, hyear'⟩ := h'.weekYear hweek'
  have hrange := hweek.range
  have hrange' := hweek'.range
  have hlong := (firstMonday_succ year').2
  have hafter := (hweek.le_iff hweek').mp hlt
  obtain ⟨year, rfl⟩ := Int.eq_ofNat_of_zero_le (show 0 ≤ year by omega)
  obtain ⟨week, rfl⟩ := Int.eq_ofNat_of_zero_le (show 0 ≤ week by omega)
  obtain ⟨year', rfl⟩ := Int.eq_ofNat_of_zero_le (show 0 ≤ year' by omega)
  obtain ⟨week', rfl⟩ := Int.eq_ofNat_of_zero_le (show 0 ≤ week' by omega)
  rw [weeklyKey, weeklyKey, periodKeyFor_iff.mpr hweek, periodKeyFor_iff.mpr hweek']
  exact text_lt (by omega) (by omega) (by omega) (by omega)

theorem weeklyKey_congr {now now' : ℤ} (h : monday (dayOf now) = monday (dayOf now')) :
    weeklyKey now = weeklyKey now' := by
  have hkey : ∀ now, weeklyKey now = (weekKey (dayOf now)).text := fun _ => rfl
  rw [hkey, hkey, weekKey_eq, weekKey_eq, h]

theorem weeklyKey_iff {now now' : ℤ} (h : FourDigits now) (h' : FourDigits now') :
    weeklyKey now = weeklyKey now' ↔ monday (dayOf now) = monday (dayOf now') := by
  refine ⟨fun hkey => ?_, weeklyKey_congr⟩
  rcases lt_trichotomy (monday (dayOf now)) (monday (dayOf now')) with hlt | heq | hlt
  · exact absurd hkey (weeklyKey_lt h h' hlt).ne
  · exact heq
  · exact absurd hkey (weeklyKey_lt h' h hlt).ne'

theorem weeklyKey_mono {now now' : ℤ} (h : FourDigits now) (h' : FourDigits now')
    (hle : now ≤ now') : weeklyKey now ≤ weeklyKey now' := by
  have hday : dayOf now ≤ dayOf now' := Int.ediv_le_ediv (by omega) hle
  have hmonday : monday (dayOf now) ≤ monday (dayOf now') := by
    unfold monday
    omega
  rcases lt_or_eq_of_le hmonday with hlt | heq
  · exact (weeklyKey_lt h h' hlt).le
  · exact (weeklyKey_congr heq).le

/-! ### The weeks of a year -/

/-- Each number of a year is the week of some instant of the year. -/
theorem exists_week {year week : ℤ} (h : 1 ≤ week) (h' : week ≤ weeksIn year) :
    ∃ now, (Civil.ofDays (dayOf now)).year = year ∧ IsoWeek (dayOf now) year week := by
  have hsucc := firstMonday_succ year
  -- Its Thursday.
  have hday : dayOf ((firstMonday year + 7 * (week - 1) + 3) * 86400000) =
      firstMonday year + 7 * (week - 1) + 3 := by
    unfold dayOf
    omega
  have hweek : IsoWeek (firstMonday year + 7 * (week - 1) + 3) year week :=
    ⟨by omega, by omega, by omega⟩
  refine ⟨_, ?_, hday ▸ hweek⟩
  have hthursday := IsoWeek.of_thursday (firstMonday year + 7 * (week - 1) + 3)
  have hmonday := hweek.monday_eq
  rw [hmonday] at hthursday
  rw [hday]
  exact (hthursday.unique hweek).1

theorem next_week {now year week : ℤ} (h : IsoWeek (dayOf now) year week) :
    periodKeyFor .weekly (now + 7 * 86400000) =
      if week = weeksIn year then .week (year + 1) 1 else .week year (week + 1) := by
  have hnext := h.next
  have hday : dayOf (now + 7 * 86400000) = dayOf now + 7 := by
    unfold dayOf
    omega
  rw [← hday] at hnext
  split_ifs at hnext ⊢ with hlast
  · exact periodKeyFor_iff.mpr hnext
  · exact periodKeyFor_iff.mpr hnext

/-- **Weekly buckets are ISO weeks**: the key of an instant is the year and the number of the week
of its day, one week has one key, and later weeks have later ones.  A year has 52 of them or 53,
each number is a week of it, and the week after the last one is the first of the next year. -/
theorem weekly_iso :
    (∀ now, FourDigits now → ∃ year week, periodKeyFor .weekly now = .week year week ∧
      IsoWeek (dayOf now) year week ∧ 1 ≤ week ∧ week ≤ weeksIn year ∧
      periodKeyFor .weekly (now + 7 * 86400000) =
        if week = weeksIn year then .week (year + 1) 1 else .week year (week + 1)) ∧
    (∀ now now', FourDigits now → FourDigits now' →
      (weeklyKey now = weeklyKey now' ↔ monday (dayOf now) = monday (dayOf now')) ∧
      (now ≤ now' → weeklyKey now ≤ weeklyKey now')) ∧
    ∀ year, 1000 ≤ year → year ≤ 9999 → (weeksIn year = 52 ∨ weeksIn year = 53) ∧
      ∀ week, 1 ≤ week → week ≤ weeksIn year →
        ∃ now, FourDigits now ∧ periodKeyFor .weekly now = .week year week := by
  refine ⟨fun now _ => ?_, fun now now' h h' => ⟨weeklyKey_iff h h', weeklyKey_mono h h'⟩,
    fun year hle hge => ⟨(firstMonday_succ year).2, fun week h h' => ?_⟩⟩
  · obtain ⟨year, week, hweek⟩ := exists_isoWeek now
    exact ⟨year, week, periodKeyFor_iff.mpr hweek, hweek, hweek.range.1, hweek.range.2,
      next_week hweek⟩
  · obtain ⟨now, hyear, hweek⟩ := exists_week h h'
    exact ⟨now, ⟨hyear ▸ hle, hyear ▸ hge⟩, periodKeyFor_iff.mpr hweek⟩

/-- The first Friday of 2027 is in a week of 2026, which its Sunday ends. -/
theorem weekly_iso_newYear :
    (∃ year week, periodKeyFor .weekly (20819 * 86400000) = .week year week ∧
      IsoWeek (dayOf (20819 * 86400000)) year week ∧ 1 ≤ week ∧ week ≤ weeksIn year) ∧
    weeklyKey (20819 * 86400000) = weeklyKey (20821 * 86400000) ∧
    weeklyKey (20821 * 86400000) < weeklyKey (20822 * 86400000) ∧
    ∃ now, FourDigits now ∧ periodKeyFor .weekly now = .week 2026 53 := by
  have hfriday : FourDigits (20819 * 86400000) := ⟨by decide, by decide⟩
  have hsunday : FourDigits (20821 * 86400000) := ⟨by decide, by decide⟩
  have hmonday : FourDigits (20822 * 86400000) := ⟨by decide, by decide⟩
  obtain ⟨hweek, hkeys, hyear⟩ := weekly_iso
  refine ⟨?_, (hkeys _ _ hfriday hsunday).1.mpr (by decide), ?_, ?_⟩
  · obtain ⟨year, week, hkey, hiso, h, h', -⟩ := hweek _ hfriday
    exact ⟨year, week, hkey, hiso, h, h'⟩
  · obtain ⟨hiff, hle⟩ := hkeys _ _ hsunday hmonday
    exact lt_of_le_of_ne (hle (by omega)) (mt hiff.mp (by decide))
  · exact (hyear 2026 (by omega) (by omega)).2 53 (by omega) (by decide)

end SnakeArena.Gateway
