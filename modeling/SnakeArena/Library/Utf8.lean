import Mathlib

/-!
# Library — UTF-8

The encoder of a text and the decoder of the web platform: a byte at a time, with the bounds of
the next byte, and a replacement character where the bytes are ill-formed.

* `decode_encode`: what was encoded is decoded.
* `length_encode`: a character takes at most three bytes for each of its UTF-16 units.
-/

namespace SnakeArena.Library.Utf8

abbrev Bytes := List UInt8

/-! ### Encoding -/

def encodeChar (c : Char) : Bytes :=
  let v := c.toNat
  if v < 0x80 then [UInt8.ofNat v]
  else if v < 0x800 then [UInt8.ofNat (0xC0 + v / 64), UInt8.ofNat (0x80 + v % 64)]
  else if v < 0x10000 then
    [UInt8.ofNat (0xE0 + v / 4096), UInt8.ofNat (0x80 + v / 64 % 64), UInt8.ofNat (0x80 + v % 64)]
  else
    [UInt8.ofNat (0xF0 + v / 262144), UInt8.ofNat (0x80 + v / 4096 % 64),
      UInt8.ofNat (0x80 + v / 64 % 64), UInt8.ofNat (0x80 + v % 64)]

def encode (text : List Char) : Bytes := text.flatMap encodeChar

/-- The UTF-16 units of a character. -/
def units (c : Char) : ℕ := if c.toNat < 0x10000 then 1 else 2

/-- The length of a text in UTF-16 units. -/
def utf16Length (text : List Char) : ℕ := (text.map units).sum

theorem length_encodeChar (c : Char) : (encodeChar c).length ≤ 3 * units c := by
  unfold encodeChar units
  dsimp only
  split_ifs <;> simp only [List.length_cons, List.length_nil] <;> omega

theorem length_encode (text : List Char) : (encode text).length ≤ 3 * utf16Length text := by
  unfold encode utf16Length
  induction text with
  | nil => exact Nat.le_refl _
  | cons c text ih =>
      have := length_encodeChar c
      rw [List.flatMap_cons, List.length_append, List.map_cons, List.sum_cons]
      omega

/-! ### Decoding -/

/-- In a sequence: what is read of it, how many bytes are still needed, and the bounds of the
next. -/
structure Pending where
  codePoint : ℕ
  needed : ℕ
  lower : ℕ
  upper : ℕ

/-- U+FFFD. -/
def replacement : Char := '�'

/-- The first byte of a sequence. -/
def start (b : ℕ) : List Char × Option Pending :=
  if b < 0x80 then ([Char.ofNat b], none)
  else if b < 0xC2 then ([replacement], none)
  else if b < 0xE0 then ([], some ⟨b - 0xC0, 1, 0x80, 0xBF⟩)
  else if b < 0xF0 then
    ([], some ⟨b - 0xE0, 2, if b = 0xE0 then 0xA0 else 0x80, if b = 0xED then 0x9F else 0xBF⟩)
  else if b < 0xF5 then
    ([], some ⟨b - 0xF0, 3, if b = 0xF0 then 0x90 else 0x80, if b = 0xF4 then 0x8F else 0xBF⟩)
  else ([replacement], none)

def decodeFrom : Option Pending → Bytes → List Char
  | none, [] => []
  | some _, [] => [replacement]
  | none, b :: bs => (start b.toNat).1 ++ decodeFrom (start b.toNat).2 bs
  | some p, b :: bs =>
      if p.lower ≤ b.toNat ∧ b.toNat ≤ p.upper then
        let codePoint := p.codePoint * 64 + (b.toNat - 0x80)
        if p.needed = 1 then Char.ofNat codePoint :: decodeFrom none bs
        else decodeFrom (some ⟨codePoint, p.needed - 1, 0x80, 0xBF⟩) bs
      else
        -- the byte is read again, as a first one
        replacement :: (start b.toNat).1 ++ decodeFrom (start b.toNat).2 bs

def decode (bs : Bytes) : List Char := decodeFrom none bs

/-! ### The round trip -/

theorem toNat_ofNat_byte {n : ℕ} (h : n < 256) : (UInt8.ofNat n).toNat = n :=
  UInt8.toNat_ofNat_of_lt' h

/-- The last byte of a sequence, within its bounds. -/
theorem decodeFrom_last {codePoint lower upper n : ℕ} (hn : n < 256) (hlower : lower ≤ n)
    (hupper : n ≤ upper) (bs : Bytes) :
    decodeFrom (some ⟨codePoint, 1, lower, upper⟩) (UInt8.ofNat n :: bs) =
      Char.ofNat (codePoint * 64 + (n - 0x80)) :: decodeFrom none bs := by
  rw [decodeFrom, toNat_ofNat_byte hn, if_pos ⟨hlower, hupper⟩, if_pos rfl]

/-- A byte before the last. -/
theorem decodeFrom_next {codePoint needed lower upper n : ℕ} (hn : n < 256) (hlower : lower ≤ n)
    (hupper : n ≤ upper) (bs : Bytes) :
    decodeFrom (some ⟨codePoint, needed + 2, lower, upper⟩) (UInt8.ofNat n :: bs) =
      decodeFrom (some ⟨codePoint * 64 + (n - 0x80), needed + 1, 0x80, 0xBF⟩) bs := by
  have hneeded : ¬needed + 2 = 1 := by omega
  rw [decodeFrom, toNat_ofNat_byte hn, if_pos ⟨hlower, hupper⟩]
  exact if_neg hneeded

theorem decodeFrom_none {n : ℕ} (hn : n < 256) (bs : Bytes) :
    decodeFrom none (UInt8.ofNat n :: bs) = (start n).1 ++ decodeFrom (start n).2 bs := by
  rw [decodeFrom, toNat_ofNat_byte hn]

theorem start_two {k : ℕ} (h₂ : 2 ≤ k) (h : k < 32) :
    start (0xC0 + k) = ([], some ⟨k, 1, 0x80, 0xBF⟩) := by
  unfold start
  rw [if_neg (by omega), if_neg (by omega), if_pos (by omega), Nat.add_sub_cancel_left]

theorem start_three {k : ℕ} (h : k < 16) : start (0xE0 + k) =
    ([], some ⟨k, 2, if k = 0 then 0xA0 else 0x80, if k = 13 then 0x9F else 0xBF⟩) := by
  have h0 : 0xE0 + k = 0xE0 ↔ k = 0 := by omega
  have h13 : 0xE0 + k = 0xED ↔ k = 13 := by omega
  unfold start
  rw [if_neg (by omega), if_neg (by omega), if_neg (by omega), if_pos (by omega),
    Nat.add_sub_cancel_left]
  simp only [h0, h13]

theorem start_four {k : ℕ} (h : k < 5) : start (0xF0 + k) =
    ([], some ⟨k, 3, if k = 0 then 0x90 else 0x80, if k = 4 then 0x8F else 0xBF⟩) := by
  have h0 : 0xF0 + k = 0xF0 ↔ k = 0 := by omega
  have h4 : 0xF0 + k = 0xF4 ↔ k = 4 := by omega
  unfold start
  rw [if_neg (by omega), if_neg (by omega), if_neg (by omega), if_neg (by omega),
    if_pos (by omega), Nat.add_sub_cancel_left]
  simp only [h0, h4]

theorem decodeFrom_encodeChar (c : Char) (bs : Bytes) :
    decodeFrom none (encodeChar c ++ bs) = c :: decodeFrom none bs := by
  have hc : Char.ofNat c.toNat = c := Char.ofNat_toNat c
  have hvalid : c.toNat < 0xD800 ∨ 0xDFFF < c.toNat ∧ c.toNat < 0x110000 := c.valid
  unfold encodeChar
  generalize c.toNat = v at hc hvalid ⊢
  dsimp only
  split_ifs with h₁ h₂ h₃ <;>
    simp only [List.cons_append, List.nil_append]
  · rw [decodeFrom_none (by omega)]
    unfold start
    rw [if_pos h₁, hc]
    rfl
  · have hv : v / 64 * 64 + (0x80 + v % 64 - 0x80) = v := by omega
    rw [decodeFrom_none (by omega), start_two (by omega) (by omega), List.nil_append,
      decodeFrom_last (by omega) (by omega) (by omega), hv, hc]
  · -- neither an overlong sequence nor a surrogate
    have hv : (v / 4096 * 64 + (0x80 + v / 64 % 64 - 0x80)) * 64 + (0x80 + v % 64 - 0x80) = v := by
      omega
    rw [decodeFrom_none (by omega), start_three (by omega), List.nil_append,
      decodeFrom_next (by omega) (by split_ifs <;> omega) (by split_ifs <;> omega),
      decodeFrom_last (by omega) (by omega) (by omega), hv, hc]
  · have hv : ((v / 262144 * 64 + (0x80 + v / 4096 % 64 - 0x80)) * 64 +
        (0x80 + v / 64 % 64 - 0x80)) * 64 + (0x80 + v % 64 - 0x80) = v := by
      omega
    rw [decodeFrom_none (by omega), start_four (by omega), List.nil_append,
      decodeFrom_next (by omega) (by split_ifs <;> omega) (by split_ifs <;> omega),
      decodeFrom_next (by omega) (by omega) (by omega),
      decodeFrom_last (by omega) (by omega) (by omega), hv, hc]

/-- **The round trip.** -/
theorem decode_encode (text : List Char) : decode (encode text) = text := by
  unfold decode encode
  induction text with
  | nil => rfl
  | cons c text ih => rw [List.flatMap_cons, decodeFrom_encodeChar, ih]

end SnakeArena.Library.Utf8
