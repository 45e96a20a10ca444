import SnakeArena.Library.Utf8

/-!
# Library — UTF-16

A text as the units that a machine keeps, and its code points.  Two surrogates that are a pair are
one character; a surrogate that stands alone is none.

* `units_codePoints`: the code points of a text are the text.
* `codePoints_ofChars`: characters are their own code points.
-/

namespace SnakeArena.Library.Utf16

abbrev Units := List UInt16

/-! ### The units of a character -/

def charUnits (c : Char) : Units :=
  let v := c.toNat
  if v < 0x10000 then [UInt16.ofNat v]
  else [UInt16.ofNat (0xD800 + (v - 0x10000) / 0x400), UInt16.ofNat (0xDC00 + v % 0x400)]

def ofChars (text : List Char) : Units := text.flatMap charUnits

/-! ### Code points -/

inductive CodePoint where
  | char (c : Char)
  /-- A surrogate that stands alone. -/
  | lone (u : UInt16)
deriving DecidableEq

def isHigh (u : UInt16) : Bool := 0xD800 ≤ u.toNat ∧ u.toNat < 0xDC00

def isLow (u : UInt16) : Bool := 0xDC00 ≤ u.toNat ∧ u.toNat < 0xE000

/-- What a unit is that is not in a pair. -/
def single (u : UInt16) : CodePoint :=
  if isHigh u || isLow u then .lone u else .char (.ofNat u.toNat)

/-- The character of a pair. -/
def paired (high low : UInt16) : Char :=
  .ofNat (0x10000 + (high.toNat - 0xD800) * 0x400 + (low.toNat - 0xDC00))

def codePoints : Units → List CodePoint
  | [] => []
  | [u] => [single u]
  | u :: v :: rest =>
      if isHigh u && isLow v then .char (paired u v) :: codePoints rest
      else single u :: codePoints (v :: rest)

namespace CodePoint

def units : CodePoint → Units
  | char c => charUnits c
  | lone u => [u]

/-- What is written of it; a surrogate is replaced. -/
def scalar : CodePoint → Char
  | char c => c
  | lone _ => Utf8.replacement

end CodePoint

def scalars (text : Units) : List Char := (codePoints text).map CodePoint.scalar

/-- A text in UTF-8. -/
def utf8 (text : Units) : Utf8.Bytes := Utf8.encode (scalars text)

/-! ### Round trips -/

theorem toNat_ofNat_unit {n : ℕ} (h : n < 0x10000) : (UInt16.ofNat n).toNat = n :=
  UInt16.toNat_ofNat_of_lt' h

theorem toNat_ofNat_char {n : ℕ} (h : n < 0xD800 ∨ 0xDFFF < n ∧ n < 0x110000) :
    (Char.ofNat n).toNat = n := by
  rw [Char.ofNat, dif_pos h]
  rfl

theorem charUnits_ofNat_unit {u : UInt16} (h : (isHigh u || isLow u) = false) :
    charUnits (.ofNat u.toNat) = [u] := by
  have hlt : u.toNat < 0x10000 := u.toNat_lt
  simp only [isHigh, isLow, Bool.or_eq_false_iff, decide_eq_false_iff_not] at h
  rw [charUnits, toNat_ofNat_char (by omega), if_pos hlt, UInt16.ofNat_toNat]

theorem charUnits_paired {high low : UInt16} (hhigh : isHigh high = true)
    (hlow : isLow low = true) : charUnits (paired high low) = [high, low] := by
  simp only [isHigh, isLow, decide_eq_true_eq] at hhigh hlow
  rw [paired, charUnits, toNat_ofNat_char (by omega), if_neg (by omega)]
  have hhigh' : 0xD800 +
      (0x10000 + (high.toNat - 0xD800) * 0x400 + (low.toNat - 0xDC00) - 0x10000) / 0x400 =
        high.toNat := by omega
  have hlow' : 0xDC00 + (0x10000 + (high.toNat - 0xD800) * 0x400 + (low.toNat - 0xDC00)) % 0x400 =
      low.toNat := by omega
  rw [hhigh', hlow', UInt16.ofNat_toNat, UInt16.ofNat_toNat]

theorem units_single (u : UInt16) : (single u).units = [u] := by
  rw [single]
  split
  · rfl
  next h => exact charUnits_ofNat_unit (by simpa using h)

/-- **The code points of a text are the text.** -/
theorem units_codePoints (text : Units) : (codePoints text).flatMap CodePoint.units = text := by
  induction text using codePoints.induct with
  | case1 => rfl
  | case2 u => simp [codePoints, units_single]
  | case3 u v rest h ih =>
      rw [codePoints, if_pos h, List.flatMap_cons, ih]
      rw [Bool.and_eq_true] at h
      rw [CodePoint.units, charUnits_paired h.1 h.2]
      rfl
  | case4 u v rest h ih =>
      rw [codePoints, if_neg h, List.flatMap_cons, ih, units_single]
      rfl

theorem codePoints_cons {u : UInt16} (h : isHigh u = false) (rest : Units) :
    codePoints (u :: rest) = single u :: codePoints rest := by
  cases rest with
  | nil => rfl
  | cons v rest =>
      rw [codePoints, if_neg]
      simp [h]

theorem codePoints_charUnits (c : Char) (rest : Units) :
    codePoints (charUnits c ++ rest) = .char c :: codePoints rest := by
  have hc : Char.ofNat c.toNat = c := Char.ofNat_toNat c
  have hvalid : c.toNat < 0xD800 ∨ 0xDFFF < c.toNat ∧ c.toNat < 0x110000 := c.valid
  unfold charUnits
  generalize c.toNat = v at hc hvalid ⊢
  dsimp only
  split_ifs with hv
  · have hu : (UInt16.ofNat v).toNat = v := toNat_ofNat_unit hv
    have hhigh : isHigh (UInt16.ofNat v) = false := by simp [isHigh, hu]; omega
    have hlow : isLow (UInt16.ofNat v) = false := by simp [isLow, hu]; omega
    rw [List.singleton_append, codePoints_cons hhigh, single, hhigh, hlow, Bool.or_self,
      if_neg Bool.false_ne_true, hu, hc]
  · have hhigh : (UInt16.ofNat (0xD800 + (v - 0x10000) / 0x400)).toNat =
        0xD800 + (v - 0x10000) / 0x400 := toNat_ofNat_unit (by omega)
    have hlow : (UInt16.ofNat (0xDC00 + v % 0x400)).toNat = 0xDC00 + v % 0x400 :=
      toNat_ofNat_unit (by omega)
    have hpair : 0x10000 + (0xD800 + (v - 0x10000) / 0x400 - 0xD800) * 0x400 +
        (0xDC00 + v % 0x400 - 0xDC00) = v := by omega
    rw [List.cons_append, List.singleton_append, codePoints, if_pos, paired, hhigh, hlow, hpair, hc]
    simp only [isHigh, isLow, hhigh, hlow, Bool.and_eq_true, decide_eq_true_eq]
    omega

/-- **Characters are their own code points.** -/
theorem codePoints_ofChars (text : List Char) : codePoints (ofChars text) = text.map .char := by
  induction text with
  | nil => rfl
  | cons c text ih =>
      rw [ofChars, List.flatMap_cons, codePoints_charUnits, List.map_cons]
      exact congrArg _ ih

/-- A unit that is no surrogate is a character. -/
theorem mem_ofChars {u : UInt16} (hu : u.toNat < 0xD800) {text : List Char}
    (h : u ∈ ofChars text) : Char.ofNat u.toNat ∈ text := by
  obtain ⟨c, hc, hmem⟩ := List.mem_flatMap.mp h
  have hvalid : c.toNat < 0xD800 ∨ 0xDFFF < c.toNat ∧ c.toNat < 0x110000 := c.valid
  unfold charUnits at hmem
  dsimp only at hmem
  split_ifs at hmem with hv
  · rw [List.mem_singleton] at hmem
    rw [hmem, toNat_ofNat_unit hv, Char.ofNat_toNat]
    exact hc
  · simp only [List.mem_cons, List.not_mem_nil, or_false] at hmem
    rcases hmem with rfl | rfl
    · rw [toNat_ofNat_unit (by omega)] at hu
      omega
    · rw [toNat_ofNat_unit (by omega)] at hu
      omega

theorem scalars_ofChars (text : List Char) : scalars (ofChars text) = text := by
  rw [scalars, codePoints_ofChars, List.map_map]
  exact List.map_id text

theorem utf8_ofChars (text : List Char) : utf8 (ofChars text) = Utf8.encode text := by
  rw [utf8, scalars_ofChars]

end SnakeArena.Library.Utf16
