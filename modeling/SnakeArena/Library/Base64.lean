import SnakeArena.Library.Utf8

/-!
# Library — base64url

Three bytes are four letters, and there is no padding.  What is decoded may be in either alphabet;
what is in neither is skipped, and padding ends the text.

* `decode_encode`: what was encoded is decoded.
-/

namespace SnakeArena.Library.Base64
open Utf8 (Bytes)

/-- The letter of six bits. -/
def letter (n : ℕ) : Char :=
  if n < 26 then .ofNat (65 + n)
  else if n < 52 then .ofNat (97 + (n - 26))
  else if n < 62 then .ofNat (48 + (n - 52))
  else if n = 62 then '-'
  else '_'

/-- The six bits of a letter, of either alphabet. -/
def value (c : Char) : Option ℕ :=
  let v := c.toNat
  if 65 ≤ v ∧ v ≤ 90 then some (v - 65)
  else if 97 ≤ v ∧ v ≤ 122 then some (v - 97 + 26)
  else if 48 ≤ v ∧ v ≤ 57 then some (v - 48 + 52)
  else if c = '-' ∨ c = '+' then some 62
  else if c = '_' ∨ c = '/' then some 63
  else none

/-- Six bits at a time; what is missing from the last is zero. -/
def sextets : Bytes → List ℕ
  | [] => []
  | [a] => [a.toNat / 4, a.toNat % 4 * 16]
  | [a, b] => [a.toNat / 4, a.toNat % 4 * 16 + b.toNat / 16, b.toNat % 16 * 4]
  | a :: b :: c :: rest =>
      a.toNat / 4 :: (a.toNat % 4 * 16 + b.toNat / 16) :: (b.toNat % 16 * 4 + c.toNat / 64) ::
        c.toNat % 64 :: sextets rest

/-- Eight bits at a time; what does not fill a byte is dropped. -/
def bytes : List ℕ → Bytes
  | w :: x :: y :: z :: rest =>
      .ofNat (w * 4 + x / 16) :: .ofNat (x % 16 * 16 + y / 4) :: .ofNat (y % 4 * 64 + z) ::
        bytes rest
  | [w, x, y] => [.ofNat (w * 4 + x / 16), .ofNat (x % 16 * 16 + y / 4)]
  | [w, x] => [.ofNat (w * 4 + x / 16)]
  | _ => []

def encode (bs : Bytes) : List Char := (sextets bs).map letter

def decode (text : List Char) : Bytes := bytes ((text.takeWhile (· ≠ '=')).filterMap value)

/-! ### The round trip -/

theorem sextets_lt (bs : Bytes) : ∀ n ∈ sextets bs, n < 64 := by
  induction bs using sextets.induct with
  | case1 => simp [sextets]
  | case2 a =>
      have := a.toNat_lt
      simp only [sextets, List.mem_cons, List.not_mem_nil, or_false]
      omega
  | case3 a b =>
      have := a.toNat_lt
      have := b.toNat_lt
      simp only [sextets, List.mem_cons, List.not_mem_nil, or_false]
      omega
  | case4 a b c rest ih =>
      have := a.toNat_lt
      have := b.toNat_lt
      have := c.toNat_lt
      simp only [sextets, List.mem_cons]
      rintro n (rfl | rfl | rfl | rfl | hn)
      · omega
      · omega
      · omega
      · omega
      · exact ih n hn

theorem ofNat_eq {n : ℕ} {b : UInt8} (h : n = b.toNat) : UInt8.ofNat n = b := by
  rw [h, UInt8.ofNat_toNat]

theorem bytes_sextets (bs : Bytes) : bytes (sextets bs) = bs := by
  induction bs using sextets.induct with
  | case1 => rfl
  | case2 a =>
      have := a.toNat_lt
      rw [sextets, bytes, @ofNat_eq _ a (by omega)]
  | case3 a b =>
      have := a.toNat_lt
      have := b.toNat_lt
      rw [sextets, bytes, @ofNat_eq _ a (by omega), @ofNat_eq _ b (by omega)]
  | case4 a b c rest ih =>
      have := a.toNat_lt
      have := b.toNat_lt
      have := c.toNat_lt
      rw [sextets, bytes, @ofNat_eq _ a (by omega), @ofNat_eq _ b (by omega),
        @ofNat_eq _ c (by omega), ih]

/-- A letter is read as its six bits, and is no padding and no point. -/
theorem value_letter : ∀ n < 64, value (letter n) = some n ∧ letter n ≠ '=' ∧ letter n ≠ '.' := by
  decide

/-- **The round trip.** -/
theorem decode_encode (bs : Bytes) : decode (encode bs) = bs := by
  have hread : ∀ ns : List ℕ, (∀ n ∈ ns, n < 64) →
      ((ns.map letter).takeWhile (· ≠ '=')).filterMap value = ns := by
    intro ns hns
    induction ns with
    | nil => rfl
    | cons n ns ih =>
        obtain ⟨hn, hrest⟩ := List.forall_mem_cons.mp hns
        obtain ⟨hvalue, hpadding, -⟩ := value_letter n hn
        rw [List.map_cons, List.takeWhile_cons_of_pos (by simpa using hpadding),
          List.filterMap_cons_some hvalue, ih hrest]
  rw [decode, encode, hread _ (sextets_lt bs), bytes_sextets]

theorem encode_no_point (bs : Bytes) : '.' ∉ encode bs := by
  intro h
  obtain ⟨n, hn, hletter⟩ := List.mem_map.mp h
  exact (value_letter n (sextets_lt bs n hn)).2.2 hletter

theorem encode_inj {bs bs' : Bytes} (h : encode bs = encode bs') : bs = bs' := by
  rw [← decode_encode bs, h, decode_encode]

end SnakeArena.Library.Base64
