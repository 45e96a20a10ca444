import Mathlib.Algebra.Order.Group.Unbundled.Abs
import Mathlib.Tactic.GCongr
import Mathlib.Tactic.Linarith
import Mathlib.Tactic.Positivity
import Mathlib.Tactic.Ring
import SnakeArena.Library.Double

/-!
# Library — rounding

What an operation on doubles answers: the exact result, rounded (`Double.nearest`).  Nothing here
is large enough to become infinite.

* `nearest_mono`: rounding keeps the order, so that it stays on the side of a double it was on.
* `nearest_of_grid`: what has no more than 53 bits is itself.
* `nearest_grid`: what is not small is rounded to a grid.
* `nearest_error`, `nearest_near`: how far a number is moved, and that a double is not moved by less
  than a quarter of its spacing.
-/

namespace SnakeArena.Library.Double

/-! ### To the nearest integer -/

/-- The integer that is nearest, and the even one of two. -/
theorem roundHalfEven_eq_iff {q : ℚ} {n : ℤ} :
    roundHalfEven q = n ↔ |q - n| < 1 / 2 ∨ |q - n| = 1 / 2 ∧ n % 2 = 0 := by
  have hle := Int.floor_le q
  have hlt := Int.lt_floor_add_one q
  unfold roundHalfEven
  dsimp only
  set m := ⌊q⌋
  constructor
  · rintro rfl
    split_ifs with h
    · rwa [abs_of_nonneg (by linarith)]
    · rw [not_or, not_and] at h
      push_cast
      rw [abs_of_nonpos (by linarith)]
      rcases lt_or_eq_of_le (not_lt.mp h.1) with hfar | hhalf
      · exact .inl (by linarith)
      · exact .inr ⟨by linarith, by have := h.2 hhalf.symm; omega⟩
  · intro h
    have hnear : |q - n| ≤ 1 / 2 := h.elim le_of_lt fun h => h.1.le
    obtain ⟨hbelow, habove⟩ := abs_le.mp hnear
    have hn : n = m ∨ n = m + 1 := by
      have h₁ : (m : ℚ) < n + 1 := by linarith
      have h₂ : (n : ℚ) < m + 2 := by linarith
      have h₃ : m < n + 1 := by exact_mod_cast h₁
      have h₄ : n < m + 2 := by exact_mod_cast h₂
      omega
    rcases hn with rfl | rfl
    · rw [abs_of_nonneg (by linarith)] at h
      exact if_pos h
    · push_cast at h
      rw [abs_of_nonpos (by linarith)] at h
      refine if_neg ?_
      rintro (hclose | ⟨hhalf, heven⟩)
      · rcases h with h | ⟨h, -⟩
        · linarith
        · linarith
      · rcases h with h | ⟨-, h⟩
        · linarith
        · omega

/-- It is off by a half at most. -/
theorem roundHalfEven_close (q : ℚ) : |roundHalfEven q - q| ≤ 1 / 2 := by
  rw [abs_sub_comm]
  exact (roundHalfEven_eq_iff.mp rfl).elim le_of_lt fun h => h.1.le

/-- It is symmetric. -/
theorem roundHalfEven_neg (q : ℚ) : roundHalfEven (-q) = -roundHalfEven q := by
  have hdist : |-q - ((-roundHalfEven q : ℤ) : ℚ)| = |q - roundHalfEven q| := by
    rw [← abs_neg (q - roundHalfEven q)]
    push_cast
    congr 1
    ring
  rw [roundHalfEven_eq_iff, hdist]
  exact (roundHalfEven_eq_iff.mp rfl).imp id fun h => ⟨h.1, by omega⟩

/-- It keeps the order. -/
theorem roundHalfEven_mono {q r : ℚ} (h : q ≤ r) : roundHalfEven q ≤ roundHalfEven r := by
  by_contra hlt
  have hcast : (roundHalfEven r : ℚ) + 1 ≤ roundHalfEven q := by exact_mod_cast not_le.mp hlt
  have hq := abs_le.mp (roundHalfEven_close q)
  have hr := abs_le.mp (roundHalfEven_close r)
  obtain rfl : q = r := by linarith
  exact hlt le_rfl

/-- An integer added is added after the rounding. -/
theorem roundHalfEven_intCast_add {n : ℤ} {q : ℚ} (h : |q - roundHalfEven q| < 1 / 2) :
    roundHalfEven (n + q) = n + roundHalfEven q := by
  refine roundHalfEven_eq_iff.mpr (.inl ?_)
  push_cast
  rwa [add_sub_add_left_eq_sub]

/-! ### To the nearest double -/

/-- The double nearest to a number. -/
def nearest (q : ℚ) : ℚ := roundHalfEven (q / quantum q) * quantum q

/-- A number that is a double. -/
def IsDouble (r : ℚ) : Prop := nearest r = r

theorem quantum_pos (q : ℚ) : 0 < quantum q := zpow_pos two_pos _

theorem quantum_neg (q : ℚ) : quantum (-q) = quantum q := by
  unfold quantum
  rw [abs_neg]

theorem nearest_zero : nearest 0 = 0 := by
  have h := roundHalfEven_intCast 0
  rw [Int.cast_zero] at h
  rw [nearest, zero_div, h, Int.cast_zero, zero_mul]

/-- The double of the negative is the negative's. -/
theorem nearest_neg (q : ℚ) : nearest (-q) = -nearest q := by
  rw [nearest, nearest, quantum_neg, neg_div, roundHalfEven_neg, Int.cast_neg, neg_mul]

/-- A double is off by half its quantum at most. -/
theorem nearest_close (q : ℚ) : |nearest q - q| ≤ quantum q / 2 := by
  have hpos := quantum_pos q
  have hscaled : nearest q - q = (roundHalfEven (q / quantum q) - q / quantum q) * quantum q := by
    rw [nearest, sub_mul, div_mul_cancel₀ _ hpos.ne']
  rw [hscaled, abs_mul, abs_of_pos hpos]
  calc |(roundHalfEven (q / quantum q) : ℚ) - q / quantum q| * quantum q
      ≤ 1 / 2 * quantum q := by gcongr; exact roundHalfEven_close _
    _ = quantum q / 2 := by ring

/-- A multiple of its own quantum is a double. -/
theorem isDouble_of_quantum {q : ℚ} {n : ℤ} (h : q = n * quantum q) : IsDouble q := by
  have hscaled : q / quantum q = n := by
    rw [div_eq_iff (quantum_pos q).ne']
    exact h
  rw [IsDouble, nearest, hscaled, roundHalfEven_intCast]
  exact h.symm

/-- The spacing at a number whose magnitude is known. -/
theorem quantum_eq {q : ℚ} {e : ℤ} (he : -1022 ≤ e) (hle : (2 : ℚ) ^ e ≤ |q|)
    (hlt : |q| < 2 ^ (e + 1)) : quantum q = 2 ^ (e - 52) := by
  have hpos : 0 < |q| := (zpow_pos two_pos e).trans_le hle
  have hlog : Int.log 2 |q| = e := by
    have h₁ : e ≤ Int.log 2 |q| := (Int.zpow_le_iff_le_log one_lt_two hpos).mp
      (by exact_mod_cast hle)
    have h₂ : Int.log 2 |q| < e + 1 :=
      (Int.lt_zpow_iff_log_lt one_lt_two hpos).mp (by exact_mod_cast hlt)
    omega
  rw [quantum, hlog, max_eq_left (by omega)]

/-- Smaller numbers have no larger quantum. -/
theorem quantum_le {q : ℚ} {e : ℤ} (he : -1074 ≤ e) (hq : q ≠ 0) (hlt : |q| < 2 ^ (e + 53)) :
    quantum q ≤ 2 ^ e := by
  have hlog : Int.log 2 |q| < e + 53 :=
    (Int.lt_zpow_iff_log_lt one_lt_two (abs_pos.mpr hq)).mp (by exact_mod_cast hlt)
  exact zpow_le_zpow_right₀ one_le_two (max_le (by omega) he)

/-- Larger numbers have no smaller one. -/
theorem le_quantum {q : ℚ} {e : ℤ} (hle : (2 : ℚ) ^ e ≤ |q|) : (2 : ℚ) ^ (e - 52) ≤ quantum q := by
  have hpos : 0 < |q| := (zpow_pos two_pos e).trans_le hle
  have hlog : e ≤ Int.log 2 |q| :=
    (Int.zpow_le_iff_le_log one_lt_two hpos).mp (by exact_mod_cast hle)
  exact zpow_le_zpow_right₀ one_le_two (le_max_of_le_left (by omega))

/-- **What has no more than 53 bits is a double.** -/
theorem nearest_of_grid {n e : ℤ} (he : -1074 ≤ e) (hn : |n| ≤ 2 ^ 53) : IsDouble (n * 2 ^ e) := by
  -- below 2 ^ 53 the spacing divides that of the grid
  have below : ∀ {n e : ℤ}, -1074 ≤ e → |n| < 2 ^ 53 → IsDouble (n * 2 ^ e) := by
    intro n e he hn
    by_cases hzero : n = 0
    · rw [hzero, Int.cast_zero, zero_mul]
      exact nearest_zero
    have hne : (n : ℚ) * 2 ^ e ≠ 0 :=
      mul_ne_zero (Int.cast_ne_zero.mpr hzero) (zpow_pos two_pos e).ne'
    have hlt : |(n : ℚ) * 2 ^ e| < 2 ^ (e + 53) := by
      have hpow : (0 : ℚ) < 2 ^ e := zpow_pos two_pos e
      have hcast : |(n : ℚ)| < 2 ^ 53 := by exact_mod_cast hn
      rw [abs_mul, abs_of_pos hpow, zpow_add₀ two_ne_zero, mul_comm]
      exact mul_lt_mul_of_pos_left (by exact_mod_cast hcast) hpow
    obtain ⟨m, hm, hquantum⟩ : ∃ m ≤ e, quantum (n * 2 ^ e) = 2 ^ m := by
      refine ⟨_, ?_, rfl⟩
      have h := quantum_le he hne hlt
      rw [quantum] at h
      exact (zpow_le_zpow_iff_right₀ one_lt_two).mp h
    obtain ⟨k, rfl⟩ := Int.le.dest hm
    refine isDouble_of_quantum (n := n * 2 ^ k) ?_
    rw [hquantum, zpow_add₀ two_ne_zero, zpow_natCast]
    push_cast
    ring
  rcases lt_or_eq_of_le hn with hn | hn
  · exact below he hn
  · have hhalf : ∃ m : ℤ, n = m * 2 ∧ |m| < 2 ^ 53 := by
      rcases abs_choice n with h | h
      · exact ⟨2 ^ 52, by omega, by norm_num⟩
      · exact ⟨-2 ^ 52, by omega, by norm_num⟩
    obtain ⟨m, rfl, hm⟩ := hhalf
    have h := below (e := e + 1) (by omega) hm
    rwa [zpow_add_one₀ two_ne_zero, mul_comm ((2 : ℚ) ^ e), ← mul_assoc,
      show (m : ℚ) * 2 = ((m * 2 : ℤ) : ℚ) by push_cast; ring] at h

/-- Rounding again changes nothing. -/
theorem isDouble_nearest (q : ℚ) : IsDouble (nearest q) := by
  refine nearest_of_grid (le_max_right _ _) ?_
  by_cases hq : q = 0
  · have hzero := roundHalfEven_intCast 0
    rw [Int.cast_zero] at hzero
    rw [hq, zero_div, hzero]
    norm_num
  have hlt := Int.lt_zpow_succ_log_self (R := ℚ) one_lt_two |q|
  have hscaled : |q / quantum q| ≤ ((2 ^ 53 : ℤ) : ℚ) := by
    rw [abs_div, abs_of_pos (quantum_pos q), div_le_iff₀ (quantum_pos q)]
    have hpow : (2 : ℚ) ^ (Int.log 2 |q| + 1) ≤ 2 ^ (53 : ℤ) * quantum q := by
      rw [quantum, ← zpow_add₀ two_ne_zero]
      exact zpow_le_zpow_right₀ one_le_two (by omega)
    push_cast at hlt ⊢
    exact hlt.le.trans hpow
  have habove := roundHalfEven_mono (abs_le.mp hscaled).2
  have hbelow := roundHalfEven_mono (abs_le.mp hscaled).1
  rw [roundHalfEven_intCast] at habove
  rw [roundHalfEven_neg, roundHalfEven_intCast] at hbelow
  exact abs_le.mpr ⟨hbelow, habove⟩

/-- Integers up to 2^53 are doubles. -/
theorem isDouble_intCast {n : ℤ} (h : |n| ≤ 2 ^ 53) : IsDouble n := by
  have hgrid := nearest_of_grid (e := 0) (by omega) h
  rwa [zpow_zero, mul_one] at hgrid

theorem isDouble_natCast {n : ℕ} (h : n ≤ 2 ^ 53) : IsDouble n := by
  have hint := @isDouble_intCast n (by rw [Nat.abs_cast]; exact_mod_cast h)
  rwa [Int.cast_natCast] at hint

/-! ### Order -/

section Order
variable {q r : ℚ}

/-- A bound on the grid bounds the double. -/
theorem nearest_le_grid {n : ℤ} (h : q ≤ n * quantum q) : nearest q ≤ n * quantum q := by
  have hpos := quantum_pos q
  have hle := roundHalfEven_mono ((div_le_iff₀ hpos).mpr h)
  rw [roundHalfEven_intCast] at hle
  exact mul_le_mul_of_nonneg_right (by exact_mod_cast hle) hpos.le

theorem grid_le_nearest {n : ℤ} (h : n * quantum q ≤ q) : n * quantum q ≤ nearest q := by
  have hpos := quantum_pos q
  have hle := roundHalfEven_mono ((le_div_iff₀ hpos).mpr h)
  rw [roundHalfEven_intCast] at hle
  exact mul_le_mul_of_nonneg_right (by exact_mod_cast hle) hpos.le

/-- The sign is kept. -/
theorem nearest_nonneg (h : 0 ≤ q) : 0 ≤ nearest q := by
  have hle := @grid_le_nearest q 0 (by rwa [Int.cast_zero, zero_mul])
  rwa [Int.cast_zero, zero_mul] at hle

/-- A power of two that is not below the spacing is on the grid. -/
theorem zpow_on_grid {e : ℤ} (h : quantum q ≤ 2 ^ e) : ∃ n : ℤ, (2 : ℚ) ^ e = n * quantum q := by
  rw [quantum, zpow_le_zpow_iff_right₀ one_lt_two] at h
  obtain ⟨k, hk⟩ := Int.le.dest h
  refine ⟨2 ^ k, ?_⟩
  rw [quantum, ← hk, zpow_add₀ two_ne_zero, zpow_natCast]
  push_cast
  ring

/-- The order is kept above zero, over the change of quantum. -/
theorem nearest_mono_pos (hpos : 0 < q) (h : q ≤ r) : nearest q ≤ nearest r := by
  have hr : 0 < r := hpos.trans_le h
  have hlog : Int.log 2 |q| ≤ Int.log 2 |r| := by
    rw [abs_of_pos hpos, abs_of_pos hr]
    exact Int.log_mono_right hpos h
  have hquantum : quantum q ≤ quantum r :=
    zpow_le_zpow_right₀ one_le_two (max_le_max (by omega) le_rfl)
  rcases lt_or_eq_of_le hquantum with hlt | heq
  · -- a power of two is between them, on the grids of both
    have hexp : max (Int.log 2 |q| - 52) (-1074) < max (Int.log 2 |r| - 52) (-1074) :=
      (zpow_lt_zpow_iff_right₀ one_lt_two).mp hlt
    have hgrid : quantum r ≤ 2 ^ Int.log 2 |r| := zpow_le_zpow_right₀ one_le_two (by omega)
    have hbelow : q ≤ 2 ^ Int.log 2 |r| := by
      have hlt := (Int.lt_zpow_iff_log_lt one_lt_two (abs_pos.mpr hpos.ne')).mpr
        (show Int.log 2 |q| < Int.log 2 |r| by omega)
      rw [abs_of_pos hpos] at hlt
      exact_mod_cast hlt.le
    have habove : (2 : ℚ) ^ Int.log 2 |r| ≤ r := by
      have hle := Int.zpow_log_le_self (R := ℚ) one_lt_two (abs_pos.mpr hr.ne')
      rw [abs_of_pos hr] at hle ⊢
      exact_mod_cast hle
    obtain ⟨n, hn⟩ := zpow_on_grid (hquantum.trans hgrid)
    obtain ⟨m, hm⟩ := zpow_on_grid hgrid
    calc nearest q ≤ n * quantum q := nearest_le_grid (hn ▸ hbelow)
      _ = m * quantum r := hn.symm.trans hm
      _ ≤ nearest r := grid_le_nearest (hm ▸ habove)
  · have hle := roundHalfEven_mono (div_le_div_of_nonneg_right h (quantum_pos r).le)
    rw [nearest, nearest, heq]
    exact mul_le_mul_of_nonneg_right (by exact_mod_cast hle) (quantum_pos r).le

/-- **Rounding keeps the order.** -/
theorem nearest_mono (h : q ≤ r) : nearest q ≤ nearest r := by
  rcases lt_trichotomy q 0 with hq | rfl | hq
  · rcases lt_or_ge r 0 with hr | hr
    · have hneg := @nearest_mono_pos (-r) (-q) (by linarith) (by linarith)
      rw [nearest_neg, nearest_neg] at hneg
      linarith
    · have hneg := @nearest_nonneg (-q) (by linarith)
      rw [nearest_neg] at hneg
      exact (by linarith : nearest q ≤ 0).trans (nearest_nonneg hr)
  · rw [nearest_zero]
    exact nearest_nonneg h
  · exact nearest_mono_pos hq h

/-- A double above is above. -/
theorem IsDouble.nearest_le (hr : IsDouble r) (h : q ≤ r) : nearest q ≤ r :=
  (nearest_mono h).trans_eq hr

/-- A double below is below. -/
theorem IsDouble.le_nearest (hr : IsDouble r) (h : r ≤ q) : r ≤ nearest q :=
  hr.symm.trans_le (nearest_mono h)

end Order

/-! ### How far a number is moved -/

section Error
variable {q r : ℚ}

/-- What is not small is rounded to a grid. -/
theorem nearest_grid {e : ℤ} (h : (2 : ℚ) ^ e ≤ |q|) : ∃ n : ℤ, nearest q = n * 2 ^ (e - 52) := by
  have hle := le_quantum h
  rw [quantum, zpow_le_zpow_iff_right₀ one_lt_two] at hle
  obtain ⟨k, hk⟩ := Int.le.dest hle
  have hquantum : quantum q = 2 ^ (e - 52) * 2 ^ k := by
    rw [quantum, ← hk, zpow_add₀ two_ne_zero, zpow_natCast]
  refine ⟨roundHalfEven (q / quantum q) * 2 ^ k, ?_⟩
  unfold nearest
  generalize roundHalfEven (q / quantum q) = n
  rw [hquantum]
  push_cast
  ring

/-- A half of the spacing is at most this part of the number, unless it is the least spacing. -/
theorem nearest_error (q : ℚ) : |nearest q - q| ≤ |q| / 2 ^ 53 + 2 ^ (-1075 : ℤ) := by
  have hleast : (0 : ℚ) < 2 ^ (-1075 : ℤ) := zpow_pos two_pos _
  by_cases hq : q = 0
  · rw [hq, nearest_zero, sub_zero, abs_zero, zero_div, zero_add]
    exact hleast.le
  refine (nearest_close q).trans ?_
  have hlog := Int.zpow_log_le_self (R := ℚ) one_lt_two (abs_pos.mpr hq)
  push_cast at hlog
  rcases max_choice (Int.log 2 |q| - 52) (-1074) with h | h
  · have hquantum : quantum q = 2 ^ Int.log 2 |q| / 2 ^ 52 := by
      rw [quantum, h, zpow_sub₀ two_ne_zero]
      norm_num
    rw [hquantum]
    linarith
  · have hquantum : quantum q = 2 ^ (-1075 : ℤ) * 2 := by
      rw [quantum, h, ← zpow_add_one₀ two_ne_zero]
      rfl
    have hpart : 0 ≤ |q| / 2 ^ 53 := by positivity
    rw [hquantum]
    linarith

/-- Away from zero the rounding is a part of the number. -/
theorem nearest_relative (h : 1 ≤ q) : |nearest q - q| ≤ q / 2 ^ 53 := by
  have hpos : 0 < q := one_pos.trans_le h
  have hlog : 0 ≤ Int.log 2 |q| := by
    rw [abs_of_pos hpos, ← Int.log_one_right (R := ℚ) 2]
    exact Int.log_mono_right one_pos h
  have hle := Int.zpow_log_le_self (R := ℚ) one_lt_two (abs_pos.mpr hpos.ne')
  rw [abs_of_pos hpos] at hle hlog
  push_cast at hle
  have hquantum : quantum q = 2 ^ Int.log 2 q / 2 ^ 52 := by
    rw [quantum, abs_of_pos hpos, max_eq_left (by omega), zpow_sub₀ two_ne_zero]
    norm_num
  refine (nearest_close q).trans ?_
  rw [hquantum]
  linarith

/-- A double is what is nearest to all that are near it. -/
theorem nearest_near (hr : IsDouble r) (hone : 1 ≤ r) (h : |q - r| ≤ r / 2 ^ 55) :
    nearest q = r := by
  have hpos : 0 < r := one_pos.trans_le hone
  have hle := Int.zpow_log_le_self (R := ℚ) one_lt_two hpos
  have hlt := Int.lt_zpow_succ_log_self (R := ℚ) one_lt_two r
  have hlog : 0 ≤ Int.log 2 r := by
    rw [← Int.log_one_right (R := ℚ) 2]
    exact Int.log_mono_right one_pos hone
  push_cast at hle hlt
  set e := Int.log 2 r
  -- a half of the spacing at r, in which all else is measured
  have hgrid : ∀ k : ℤ, (2 : ℚ) ^ (e - 53 + k) = 2 ^ k * 2 ^ (e - 53) := fun k => by
    rw [zpow_add₀ two_ne_zero, mul_comm]
  have hspacing : (2 : ℚ) ^ (e - 52) = 2 * 2 ^ (e - 53) := by
    rw [← zpow_one_add₀ two_ne_zero]
    congr 1
    ring
  have hhalf : (2 : ℚ) ^ (e - 1) = 2 ^ 52 * 2 ^ (e - 53) := by
    have h := hgrid 52
    rwa [show e - 53 + 52 = e - 1 by ring] at h
  have hbase : (2 : ℚ) ^ e = 2 ^ 53 * 2 ^ (e - 53) := by
    have h := hgrid 53
    rwa [show e - 53 + 53 = e by ring] at h
  have htop : (2 : ℚ) ^ (e + 1) = 2 ^ 54 * 2 ^ (e - 53) := by
    have h := hgrid 54
    rwa [show e - 53 + 54 = e + 1 by ring] at h
  obtain ⟨n, hn⟩ : ∃ n : ℤ, r = n * 2 ^ (e - 52) := by
    obtain ⟨n, hn⟩ := @nearest_grid r e (by rwa [abs_of_pos hpos])
    exact ⟨n, hr.symm.trans hn⟩
  have hg : (0 : ℚ) < 2 ^ (e - 53) := zpow_pos two_pos _
  rw [hspacing] at hn
  rw [hbase] at hle
  rw [htop] at hlt
  set g : ℚ := 2 ^ (e - 53)
  obtain ⟨hbelow, habove⟩ := abs_le.mp h
  have hq : 0 < q := by linarith
  have hclose := nearest_close q
  -- the same multiple of the spacing
  have same : ∀ {m m' : ℤ} {x : ℚ}, 0 < x → |(m : ℚ) * x - m' * x| < x → m = m' := by
    intro m m' x hx hlt
    rw [← sub_mul, abs_mul, abs_of_pos hx, mul_lt_iff_lt_one_left hx] at hlt
    have hint : |m - m'| < 1 := by exact_mod_cast hlt
    rw [Int.abs_lt_one_iff] at hint
    omega
  rcases lt_or_ge q (2 ^ e) with hlow | hhigh
  · obtain ⟨m, hm⟩ := @nearest_grid q (e - 1) (by rw [abs_of_pos hq, hhalf]; linarith)
    rw [show e - 1 - 52 = e - 53 by ring] at hm
    have hquantum : quantum q ≤ g := by
      refine quantum_le (by omega) hq.ne' ?_
      rwa [abs_of_pos hq, show e - 53 + 53 = e by ring]
    have hsame : m = 2 * n := by
      refine same hg ?_
      rw [← hm, show ((2 * n : ℤ) : ℚ) * g = r by rw [hn]; push_cast; ring]
      calc |nearest q - r| ≤ |nearest q - q| + |q - r| := abs_sub_le _ _ _
        _ < g := by linarith
    rw [hm, hsame, hn]
    push_cast
    ring
  · obtain ⟨m, hm⟩ := @nearest_grid q e (by rwa [abs_of_pos hq])
    rw [hspacing] at hm
    have hlast : r ≤ 2 ^ 54 * g - 2 * g := by
      have hint : n < 2 ^ 53 := by
        have hcast : (n : ℚ) * (2 * g) < 2 ^ 53 * (2 * g) := by linarith
        exact_mod_cast lt_of_mul_lt_mul_right hcast (by linarith)
      have hcast : (n : ℚ) + 1 ≤ 2 ^ 53 := by exact_mod_cast hint
      have hmul := mul_le_mul_of_nonneg_right hcast (by linarith : 0 ≤ 2 * g)
      linarith
    have hquantum : quantum q ≤ 2 * g := by
      rw [← hspacing]
      refine quantum_le (by omega) hq.ne' ?_
      rw [abs_of_pos hq, show e - 52 + 53 = e + 1 by ring, htop]
      linarith
    have hsame : m = n := by
      refine same (x := 2 * g) (by linarith) ?_
      rw [← hm, ← hn]
      calc |nearest q - r| ≤ |nearest q - q| + |q - r| := abs_sub_le _ _ _
        _ < 2 * g := by linarith
    rw [hm, hsame, hn]

end Error

end SnakeArena.Library.Double
