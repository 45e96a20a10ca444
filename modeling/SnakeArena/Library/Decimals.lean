import Mathlib.Algebra.Order.Field.Basic
import Mathlib.Data.List.DropRight
import Mathlib.Data.Rat.Cast.Order
import Mathlib.Tactic.FieldSimp
import Mathlib.Tactic.Ring

/-!
# Library — decimals

What a decimal is worth, read from its digits.

* `ofDigitChars_take`: the first digits of a number are the number, divided.
* `fraction_trim`: zeros at the end of the digits after the point are worth nothing.
* `readUnsigned_text`: what is written as digits, a point and digits is read as that.
-/

namespace SnakeArena.Library
namespace Decimals

/-! ### Digits -/

def IsDigits (l : List Char) : Prop := ∀ c ∈ l, c.isDigit = true

theorem isDigits_toDigits (n : ℕ) : IsDigits (Nat.toDigits 10 n) :=
  fun _ hc => Nat.isDigit_of_mem_toDigits (by omega) le_rfl hc

theorem IsDigits.append {l l' : List Char} (h : IsDigits l) (h' : IsDigits l') :
    IsDigits (l ++ l') := fun c hc =>
  (List.mem_append.mp hc).elim (h c) (h' c)

theorem IsDigits.subset {l l' : List Char} (h : IsDigits l) (hsub : l' ⊆ l) : IsDigits l' :=
  fun c hc => h c (hsub hc)

/-- A digit is worth less than ten. -/
theorem digit_lt {c : Char} (h : c.isDigit = true) : c.toNat - '0'.toNat < 10 := by
  simp only [Char.isDigit, Bool.and_eq_true, decide_eq_true_eq] at h
  have hle : c.toNat ≤ 57 := h.2
  have hzero : '0'.toNat = 48 := rfl
  omega

theorem ofDigitChars_lt {l : List Char} (h : IsDigits l) :
    Nat.ofDigitChars 10 l 0 < 10 ^ l.length := by
  induction l with
  | nil => exact Nat.one_pos
  | cons c l ih =>
      have hdigit := digit_lt (h c List.mem_cons_self)
      have hrest := ih fun d hd => h d (List.mem_cons_of_mem c hd)
      rw [Nat.ofDigitChars_cons, Nat.ofDigitChars_eq_ofDigitChars_zero, List.length_cons, pow_succ]
      calc 10 ^ l.length * (10 * 0 + (c.toNat - '0'.toNat)) + Nat.ofDigitChars 10 l 0
          < 10 ^ l.length * (10 * 0 + (c.toNat - '0'.toNat)) + 10 ^ l.length :=
            Nat.add_lt_add_left hrest _
        _ = 10 ^ l.length * (c.toNat - '0'.toNat + 1) := by ring
        _ ≤ 10 ^ l.length * 10 := Nat.mul_le_mul_left _ hdigit

/-- The digits that are left out divide. -/
theorem ofDigitChars_take {l : List Char} (h : IsDigits l) (count : ℕ) :
    Nat.ofDigitChars 10 (l.take count) 0 = Nat.ofDigitChars 10 l 0 / 10 ^ (l.length - count) := by
  have hlt := ofDigitChars_lt (h.subset (List.drop_subset count l))
  rw [List.length_drop] at hlt
  have hsplit : Nat.ofDigitChars 10 l 0 =
      10 ^ (l.length - count) * Nat.ofDigitChars 10 (l.take count) 0 +
        Nat.ofDigitChars 10 (l.drop count) 0 := by
    rw [← List.length_drop, ← Nat.ofDigitChars_eq_ofDigitChars_zero, ← Nat.ofDigitChars_append,
      List.take_append_drop]
  rw [hsplit, Nat.mul_add_div (Nat.pow_pos (by omega)), Nat.div_eq_of_lt hlt, Nat.add_zero]

/-! ### What is after the point -/

/-- What digits after the point are worth. -/
def fraction (digits : List Char) : ℚ := Nat.ofDigitChars 10 digits 0 / 10 ^ digits.length

theorem fraction_append_zeros (digits : List Char) (count : ℕ) :
    fraction (digits ++ List.replicate count '0') = fraction digits := by
  unfold fraction
  rw [Nat.ofDigitChars_append, Nat.ofDigitChars_replicate_zero, List.length_append,
    List.length_replicate, pow_add]
  push_cast
  field_simp

/-- Without the zeros at the end. -/
def trim (digits : List Char) : List Char := digits.rdropWhile (· = '0')

theorem trim_append_zeros (digits : List Char) :
    ∃ count, digits = trim digits ++ List.replicate count '0' := by
  have hzeros : ∀ c ∈ digits.rtakeWhile (· = '0'), c = '0' := by
    intro c hc
    simpa using List.mem_rtakeWhile_imp hc
  refine ⟨(digits.rtakeWhile (· = '0')).length, ?_⟩
  rw [← List.eq_replicate_of_mem hzeros, trim, List.rdropWhile_append_rtakeWhile]

theorem fraction_trim (digits : List Char) : fraction (trim digits) = fraction digits := by
  obtain ⟨count, hcount⟩ := trim_append_zeros digits
  conv_rhs => rw [hcount]
  exact (fraction_append_zeros _ count).symm

theorem trim_subset (digits : List Char) : trim digits ⊆ digits :=
  (List.rdropWhile_prefix _ _).subset

theorem length_trim_le (digits : List Char) : (trim digits).length ≤ digits.length :=
  (List.rdropWhile_prefix _ _).length_le

/-! ### Reading -/

def readUnsigned (text : List Char) : Option ℚ :=
  let whole := text.takeWhile Char.isDigit
  if whole = [] then none
  else
    match text.dropWhile Char.isDigit with
    | [] => some (Nat.ofDigitChars 10 whole 0)
    | '.' :: digits =>
        if digits ≠ [] ∧ digits.all Char.isDigit then
          some (Nat.ofDigitChars 10 whole 0 + fraction digits)
        else none
    | _ => none

/-- A decimal as it is written: digits, a point and digits if there are any, and a sign before. -/
def readDecimal : List Char → Option ℚ
  | '-' :: text => (readUnsigned text).map (- ·)
  | '+' :: text => readUnsigned text
  | text => readUnsigned text

/-- The point and the digits after it, if there are any. -/
def afterPoint (digits : List Char) : List Char := if digits = [] then [] else '.' :: digits

theorem readUnsigned_text {whole digits : List Char} (hwhole : IsDigits whole) (hne : whole ≠ [])
    (hdigits : IsDigits digits) : readUnsigned (whole ++ afterPoint digits) =
      some (Nat.ofDigitChars 10 whole 0 + fraction digits) := by
  have hstop : (afterPoint digits).takeWhile Char.isDigit = [] ∧
      (afterPoint digits).dropWhile Char.isDigit = afterPoint digits := by
    unfold afterPoint
    split_ifs
    · exact ⟨rfl, rfl⟩
    · exact ⟨rfl, rfl⟩
  have htake : (whole ++ afterPoint digits).takeWhile Char.isDigit = whole := by
    rw [List.takeWhile_append_of_pos hwhole, hstop.1, List.append_nil]
  have hdrop : (whole ++ afterPoint digits).dropWhile Char.isDigit = afterPoint digits := by
    rw [List.dropWhile_append_of_pos hwhole, hstop.2]
  unfold readUnsigned
  dsimp only
  rw [htake, hdrop, if_neg hne, afterPoint]
  by_cases hnil : digits = []
  · subst hnil
    simp [fraction]
  · rw [if_neg hnil]
    exact if_pos ⟨hnil, List.all_eq_true.mpr hdigits⟩

end Decimals
end SnakeArena.Library
