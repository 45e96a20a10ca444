import Mathlib.Algebra.Order.Archimedean.Basic
import Mathlib.Data.Int.Log
import Mathlib.Tactic.Common
import Mathlib.Tactic.FieldSimp

/-!
# Library — doubles

The double nearest to a rational: 53 bits, ties to even, and infinity past the largest.

* `ofRat_natCast`: a safe integer is itself.
-/

namespace SnakeArena.Library

/-- What a numeral is read as.  No numeral is read as `NaN`. -/
inductive Double where
  | finite (q : ℚ)
  | infinity (negative : Bool)
deriving DecidableEq

namespace Double

/-- The distance of the doubles around `q`. -/
def quantum (q : ℚ) : ℚ := 2 ^ max (Int.log 2 |q| - 52) (-1074)

/-- The nearest integer, the even one of two. -/
def roundHalfEven (q : ℚ) : ℤ :=
  let n := ⌊q⌋
  if q - n < 1 / 2 ∨ q - n = 1 / 2 ∧ n % 2 = 0 then n else n + 1

def ofRat (q : ℚ) : Double :=
  if q = 0 then .finite 0
  else
    let rounded := roundHalfEven (q / quantum q) * quantum q
    if 2 ^ 1024 ≤ |rounded| then .infinity (decide (rounded < 0)) else .finite rounded

theorem roundHalfEven_intCast (n : ℤ) : roundHalfEven n = n := by
  rw [roundHalfEven, Int.floor_intCast]
  simp

/-- **A safe integer is itself.** -/
theorem ofRat_natCast {n : ℕ} (h : n < 2 ^ 53) : ofRat n = .finite n := by
  by_cases hzero : n = 0
  · rw [ofRat, if_pos (by exact_mod_cast hzero), hzero]
    rfl
  have hpos : (0 : ℚ) < n := by exact_mod_cast Nat.pos_of_ne_zero hzero
  obtain ⟨k, hquantum⟩ : ∃ k : ℕ, quantum n = (2 ^ k)⁻¹ := by
    have hlog : Nat.log 2 n < 53 := Nat.log_lt_of_lt_pow hzero h
    refine ⟨52 - Nat.log 2 n, ?_⟩
    rw [quantum, abs_of_pos hpos, Int.log_natCast, max_eq_left (by omega), ← zpow_natCast,
      ← zpow_neg]
    congr 1
    omega
  have hrounded : (roundHalfEven (n / quantum n) : ℚ) * quantum n = n := by
    have hscaled : (n : ℚ) / quantum n = ((n * 2 ^ k : ℤ) : ℚ) := by
      rw [hquantum]
      push_cast
      field_simp
    rw [hscaled, roundHalfEven_intCast, ← hscaled, hquantum]
    field_simp
  have hsmall : ¬(2 : ℚ) ^ 1024 ≤ |(n : ℚ)| := by
    rw [abs_of_pos hpos, not_le]
    calc (n : ℚ) < 2 ^ 53 := by exact_mod_cast h
      _ ≤ 2 ^ 1024 := pow_le_pow_right₀ one_le_two (by norm_num)
  rw [ofRat, if_neg hpos.ne']
  dsimp only
  rw [hrounded, if_neg hsmall]

end Double

end SnakeArena.Library
