import Mathlib.Tactic.Positivity
import Mathlib.Tactic.Zify
import SnakeArena.Library.Borsh

/-!
# Library — buffers

A buffer of fixed length, written and read at offsets, integers least significant byte first.
What goes out of its bounds is an error.

`Written size out buffer` says that the first bytes of the buffer are `out`; a write where they end
appends to them (`Written.write`).  `At buffer offset bs` says that `bs` is at the offset; it is
split along a concatenation (`At.append`), and a read there gives what was written (`getUint_at`).
-/

namespace SnakeArena.Library.Buffers
open Borsh

structure RangeError where
  message : String
deriving DecidableEq

def outOfBounds : RangeError := ⟨"Offset is outside the bounds of the DataView"⟩

theorem ok_bind {α β : Type} (a : α) (f : α → Except RangeError β) : (.ok a >>= f) = f a := rfl

/-! ### Writing -/

/-- The bytes in place of as many. -/
def write (buffer : Bytes) (offset : ℕ) (bs : Bytes) : Bytes :=
  buffer.take offset ++ bs ++ buffer.drop (offset + bs.length)

/-- The bytes written, if there is room. -/
def setBytes (buffer : Bytes) (offset : ℕ) (bs : Bytes) : Except RangeError Bytes :=
  if offset + bs.length ≤ buffer.length then .ok (write buffer offset bs) else .error outOfBounds

/-- The bytes of an integer, of a width, whatever is above them. -/
def intBytes (width : ℕ) (v : ℤ) : Bytes := leBytes width (v % 256 ^ width).toNat

def setInt (width : ℕ) (buffer : Bytes) (offset : ℕ) (v : ℤ) : Except RangeError Bytes :=
  setBytes buffer offset (intBytes width v)

@[simp] theorem length_intBytes (width : ℕ) (v : ℤ) : (intBytes width v).length = width :=
  length_leBytes width _

/-- The buffer has the size, and starts with what was written. -/
structure Written (size : ℕ) (out buffer : Bytes) : Prop where
  length : buffer.length = size
  fits : out.length ≤ size
  take : buffer.take out.length = out

section Written
variable {size : ℕ} {out buffer bs : Bytes}

/-- An empty buffer is zeros. -/
theorem Written.zero (size : ℕ) : Written size [] (List.replicate size 0) :=
  ⟨List.length_replicate, Nat.zero_le _, rfl⟩

/-- What is written after the rest stands after it. -/
theorem Written.write (h : Written size out buffer) (hfits : out.length + bs.length ≤ size) :
    Written size (out ++ bs) (write buffer out.length bs) := by
  have hlength : (buffer.take out.length ++ bs).length = out.length + bs.length := by
    rw [List.length_append, List.length_take, h.length, min_eq_left h.fits]
  refine ⟨?_, by rwa [List.length_append], ?_⟩
  · rw [Buffers.write, List.length_append, hlength, List.length_drop, h.length]
    omega
  · rw [Buffers.write, List.length_append, ← hlength, List.take_left, h.take]

/-- Where there is room, a write succeeds. -/
theorem Written.setBytes (h : Written size out buffer) (hfits : out.length + bs.length ≤ size) :
    ∃ buffer', setBytes buffer out.length bs = .ok buffer' ∧ Written size (out ++ bs) buffer' := by
  refine ⟨_, if_pos ?_, h.write hfits⟩
  rw [h.length]
  exact hfits

/-- The same, of an integer. -/
theorem Written.setInt (h : Written size out buffer) {width offset : ℕ} (v : ℤ)
    (hoffset : out.length = offset) (hfits : offset + width ≤ size) : ∃ buffer',
      setInt width buffer offset v = .ok buffer' ∧
        Written size (out ++ intBytes width v) buffer' := by
  subst hoffset
  exact h.setBytes (by rwa [length_intBytes])

/-- A buffer that is full. -/
theorem Written.full (h : Written size out buffer) (hfull : out.length = size) : buffer = out := by
  rw [← h.take, hfull, ← h.length, List.take_length]

end Written

/-! ### Reading -/

def getUint (width : ℕ) (buffer : Bytes) (offset : ℕ) : Except RangeError ℕ :=
  if offset + width ≤ buffer.length then .ok (leValue ((buffer.drop offset).take width))
  else .error outOfBounds

/-- Two's complement. -/
def signed (width n : ℕ) : ℤ := if 2 * n < 256 ^ width then n else n - 256 ^ width

def getInt (width : ℕ) (buffer : Bytes) (offset : ℕ) : Except RangeError ℤ :=
  signed width <$> getUint width buffer offset

/-- The value of bytes fits their number. -/
theorem leValue_lt (bs : Bytes) : leValue bs < 256 ^ bs.length := by
  induction bs with
  | nil => exact Nat.one_pos
  | cons b bs ih =>
      have hb : b.toNat < 256 := b.toNat_lt
      rw [leValue, List.length_cons, pow_succ]
      omega

/-- A read inside of what is fixed of a buffer. -/
theorem getUint_inside {width offset : ℕ} {fixed : Bytes} (h : offset + width ≤ fixed.length) :
    ∃ n < 256 ^ width, ∀ rest, getUint width (fixed ++ rest) offset = .ok n := by
  have hlength : ((fixed.drop offset).take width).length = width := by
    rw [List.length_take, List.length_drop]
    omega
  refine ⟨leValue ((fixed.drop offset).take width), ?_, fun rest => ?_⟩
  · have := leValue_lt ((fixed.drop offset).take width)
    rwa [hlength] at this
  · unfold getUint
    rw [if_pos (by rw [List.length_append]; omega), List.drop_append_of_le_length (by omega),
      List.take_append_of_le_length (by rw [List.length_drop]; omega)]

/-- The bytes are at the offset. -/
def At (buffer : Bytes) (offset : ℕ) (bs : Bytes) : Prop := bs <+: buffer.drop offset

section At
variable {buffer bs bs' : Bytes} {offset width : ℕ}

/-- The bytes of a buffer stand at its start. -/
theorem At.all (bs : Bytes) : At bs 0 bs := List.prefix_rfl

/-- Two parts stand one after the other. -/
theorem At.append (h : At buffer offset (bs ++ bs')) :
    At buffer offset bs ∧ At buffer (offset + bs.length) bs' := by
  obtain ⟨rest, hrest⟩ := h
  rw [List.append_assoc] at hrest
  refine ⟨⟨bs' ++ rest, hrest⟩, rest, ?_⟩
  rw [← List.drop_drop, ← hrest, List.drop_left]

theorem At.take (h : At buffer offset bs) : (buffer.drop offset).take bs.length = bs :=
  (List.prefix_iff_eq_take.mp h).symm

/-- There is room for bytes that are there. -/
theorem At.room (h : At buffer offset bs) (hpos : 0 < bs.length) :
    offset + bs.length ≤ buffer.length := by
  have hle := h.length_le
  rw [List.length_drop] at hle
  omega

theorem At.get? (h : At buffer offset bs) {i : ℕ} (hi : i < bs.length) :
    buffer[offset + i]? = bs[i]? := by
  obtain ⟨rest, hrest⟩ := h
  rw [← List.getElem?_drop, ← hrest, List.getElem?_append_left hi]

/-- Bytes that are there are there in what is left of a buffer, if it is long enough. -/
theorem At.cut (h : At buffer offset bs) {cut : ℕ} (hcut : offset + bs.length ≤ cut) :
    At (buffer.take cut) offset bs := by
  rw [At, List.drop_take]
  exact List.prefix_take_iff.mpr ⟨h, by omega⟩

/-- What is above the width is lost. -/
theorem getUint_mod {v : ℤ} (hwidth : 0 < width) (h : At buffer offset (intBytes width v)) :
    getUint width buffer offset = .ok (v % 256 ^ width).toNat := by
  have hpow : (0 : ℤ) < 256 ^ width := by positivity
  have hroom := h.room (by rwa [length_intBytes])
  have htake := h.take
  rw [length_intBytes] at hroom htake
  unfold getUint
  rw [if_pos hroom, htake, intBytes, leValue_leBytes]
  zify
  rw [Int.toNat_of_nonneg (Int.emod_nonneg v hpow.ne')]
  exact Int.emod_lt_of_pos v hpow

/-- A number that fits its width comes back. -/
theorem getUint_at {v : ℤ} (hwidth : 0 < width) (h : At buffer offset (intBytes width v))
    (hv : 0 ≤ v) (hlt : v < 256 ^ width) : getUint width buffer offset = .ok v.toNat := by
  rw [getUint_mod hwidth h, Int.emod_eq_of_lt hv hlt]

/-- A number with a sign that fits its width comes back. -/
theorem getInt_at {v : ℤ} (hwidth : 0 < width) (h : At buffer offset (intBytes width v))
    (hlo : -(256 ^ width) ≤ 2 * v) (hhi : 2 * v < 256 ^ width) :
    getInt width buffer offset = .ok v := by
  have hmod : intBytes width v = intBytes width (v % 256 ^ width) := by
    unfold intBytes
    rw [Int.emod_emod_of_dvd _ dvd_rfl]
  have hpow : (0 : ℤ) < 256 ^ width := by positivity
  have hnonneg := Int.emod_nonneg v hpow.ne'
  have hlt := Int.emod_lt_of_pos v hpow
  rw [hmod] at h
  have hsigned : signed width (v % 256 ^ width).toNat = v := by
    have hcast : (((v % 256 ^ width).toNat : ℕ) : ℤ) = v % 256 ^ width :=
      Int.toNat_of_nonneg hnonneg
    have hiff : 2 * (v % 256 ^ width).toNat < 256 ^ width ↔
        2 * (v % 256 ^ width) < 256 ^ width := by
      rw [← hcast]
      exact_mod_cast Iff.rfl
    unfold signed
    simp only [hiff, hcast]
    -- what is not negative is as it was, and the rest is a turn above
    rcases le_or_gt 0 v with hv | hv
    · rw [Int.emod_eq_of_lt hv (by omega), if_pos hhi]
    · have hturn : v % 256 ^ width = v + 256 ^ width := by
        rw [← Int.add_emod_right, Int.emod_eq_of_lt (by omega) (by omega)]
      rw [hturn, if_neg (by omega)]
      omega
  unfold getInt
  rw [getUint_at hwidth h hnonneg hlt]
  exact congrArg Except.ok hsigned

end At

/-! ### A cursor -/

/-- A buffer, and where it is written next. -/
structure Cursor where
  buffer : Bytes
  offset : ℕ

/-- Appends those bytes to what was written. -/
def Writes (w : Cursor → Except RangeError Cursor) (bs : Bytes) : Prop :=
  ∀ (size : ℕ) (out buffer : Bytes), Written size out buffer → out.length + bs.length ≤ size →
    ∃ buffer', w ⟨buffer, out.length⟩ = .ok ⟨buffer', out.length + bs.length⟩ ∧
      Written size (out ++ bs) buffer'

section Writes
variable {w w' : Cursor → Except RangeError Cursor} {bs bs' : Bytes}

theorem Writes.nil : Writes (fun s => .ok s) [] := by
  intro size out buffer h _
  exact ⟨buffer, rfl, by rwa [List.append_nil]⟩

/-- Writers in a row write their bytes in a row. -/
theorem Writes.bind (h : Writes w bs) (h' : Writes w' bs') :
    Writes (fun s => w s >>= w') (bs ++ bs') := by
  intro size out buffer hwritten hfits
  rw [List.length_append] at hfits
  obtain ⟨buffer₁, hw, hwritten₁⟩ := h size out buffer hwritten (by omega)
  obtain ⟨buffer₂, hw', hwritten₂⟩ :=
    h' size _ buffer₁ hwritten₁ (by rw [List.length_append]; omega)
  refine ⟨buffer₂, ?_, by rwa [← List.append_assoc]⟩
  rw [List.length_append, Nat.add_assoc] at hw'
  dsimp only
  rw [hw, List.length_append]
  exact hw'

/-- A loop of writers writes the bytes of each. -/
theorem Writes.foldlM {α : Type} {xs : List α} {w : Cursor → α → Except RangeError Cursor}
    {f : α → Bytes} (h : ∀ x, Writes (fun s => w s x) (f x)) :
    Writes (fun s => xs.foldlM w s) (xs.flatMap f) := by
  induction xs with
  | nil => exact Writes.nil
  | cons x xs ih =>
      simp only [List.flatMap_cons, List.foldlM_cons]
      exact (h x).bind ih

end Writes

/-- Takes a value at an offset, and goes on behind it. -/
def ReadsAt {α : Type} (buffer : Bytes) (d : ℕ → Except RangeError (α × ℕ)) (bs : Bytes) (a : α) :
    Prop :=
  ∀ offset, At buffer offset bs → d offset = .ok (a, offset + bs.length)

/-- So many values, one after the other. -/
def readMany {α : Type} (d : ℕ → Except RangeError (α × ℕ)) :
    ℕ → ℕ → Except RangeError (List α × ℕ)
  | 0, offset => .ok ([], offset)
  | count + 1, offset => do
      let (a, offset) ← d offset
      let (as, offset) ← readMany d count offset
      .ok (a :: as, offset)

/-- A loop of readers reads what a loop of writers wrote. -/
theorem ReadsAt.many {α β : Type} {buffer : Bytes} {d : ℕ → Except RangeError (α × ℕ)}
    {f : β → Bytes} {g : β → α} {xs : List β} (h : ∀ x ∈ xs, ReadsAt buffer d (f x) (g x)) :
    ReadsAt buffer (readMany d xs.length) (xs.flatMap f) (xs.map g) := by
  induction xs with
  | nil => exact fun offset _ => rfl
  | cons x xs ih =>
      intro offset hat
      rw [List.flatMap_cons] at hat ⊢
      have hfirst := h x List.mem_cons_self offset hat.append.1
      have hrest := ih (fun y hy => h y (List.mem_cons_of_mem _ hy)) _ hat.append.2
      simp only [List.length_cons, readMany, hfirst, ok_bind, hrest, List.map_cons,
        List.length_append, Nat.add_assoc]

/-- So many values of one size each, inside of what the readers agree on. -/
theorem readMany_inside {α ι : Type} {d : ι → ℕ → Except RangeError (α × ℕ)} {P : α → Prop}
    {size limit : ℕ}
    (h : ∀ offset, offset + size ≤ limit → ∃ a, P a ∧ ∀ i, d i offset = .ok (a, offset + size))
    {count : ℕ} : ∀ {offset : ℕ}, offset + count * size ≤ limit → ∃ as : List α,
      as.length = count ∧ (∀ a ∈ as, P a) ∧
        ∀ i, readMany (d i) count offset = .ok (as, offset + count * size) := by
  induction count with
  | zero =>
      intro offset _
      refine ⟨[], rfl, List.forall_mem_nil _, fun i => ?_⟩
      rw [Nat.zero_mul]
      rfl
  | succ count ih =>
      intro offset hlimit
      rw [Nat.succ_mul] at hlimit
      obtain ⟨a, ha, hfirst⟩ := h offset (by omega)
      obtain ⟨as, hlength, has, hrest⟩ := @ih (offset + size) (by omega)
      refine ⟨a :: as, by rw [List.length_cons, hlength], List.forall_mem_cons.mpr ⟨ha, has⟩,
        fun i => ?_⟩
      have hend : offset + size + count * size = offset + (count + 1) * size := by ring
      rw [hend] at hrest
      simp only [readMany, hfirst, hrest, ok_bind]

/-! ### Readers that check -/

/-- A sequence that succeeds is of two that do. -/
theorem ok_of_bind {α β : Type} {x : Except RangeError α} {f : α → Except RangeError β} {b : β}
    (h : (x >>= f) = .ok b) : ∃ a, x = .ok a ∧ f a = .ok b := by
  cases x with
  | ok a => exact ⟨a, rfl, h⟩
  | error e => cases h

/-- A read that succeeds is inside the buffer, and does not see what follows it. -/
theorem getUint_ok {buffer : Bytes} {width offset n : ℕ}
    (h : getUint width buffer offset = .ok n) :
    offset + width ≤ buffer.length ∧ ∀ rest, getUint width (buffer ++ rest) offset = .ok n := by
  unfold getUint at h
  split_ifs at h with hroom
  obtain ⟨n', -, hget⟩ := @getUint_inside width offset buffer hroom
  have hself := hget []
  rw [List.append_nil, getUint, if_pos hroom, h] at hself
  exact ⟨hroom, Except.ok.inj hself ▸ hget⟩

/-- The same, with a sign. -/
theorem getInt_ok {buffer : Bytes} {width offset : ℕ} {v : ℤ}
    (h : getInt width buffer offset = .ok v) :
    offset + width ≤ buffer.length ∧ ∀ rest, getInt width (buffer ++ rest) offset = .ok v := by
  cases hget : getUint width buffer offset with
  | error e =>
      rw [getInt, hget] at h
      cases h
  | ok n =>
      obtain ⟨hroom, hext⟩ := getUint_ok hget
      refine ⟨hroom, fun rest => ?_⟩
      rw [getInt, hget] at h
      rw [getInt, hext rest]
      exact h

/-- Values of one size each. -/
theorem readMany_size {α : Type} {d : ℕ → Except RangeError (α × ℕ)} {size : ℕ}
    (h : ∀ offset a next, d offset = .ok (a, next) → next = offset + size) {count : ℕ} :
    ∀ {offset next : ℕ} {as : List α}, readMany d count offset = .ok (as, next) →
      next = offset + count * size := by
  induction count with
  | zero =>
      intro offset next as hread
      obtain ⟨-, rfl⟩ := Prod.mk.inj (Except.ok.inj hread)
      rw [Nat.zero_mul, Nat.add_zero]
  | succ count ih =>
      intro offset next as hread
      obtain ⟨⟨a, offset'⟩, hfirst, hread⟩ := ok_of_bind hread
      obtain ⟨⟨as', next'⟩, hrest, hread⟩ := ok_of_bind hread
      obtain ⟨-, rfl⟩ := Prod.mk.inj (Except.ok.inj hread)
      rw [ih hrest, h _ _ _ hfirst]
      ring

/-- What it returns is of what is inside, and what follows has no part in it. -/
def Checked {α : Type} (d : Bytes → ℕ → Except RangeError (α × ℕ)) : Prop :=
  ∀ buffer offset a next, d buffer offset = .ok (a, next) →
    next ≤ buffer.length ∧ ∀ rest, d (buffer ++ rest) offset = .ok (a, next)

/-- A loop of reads that stay inside stays inside. -/
theorem Checked.many {α : Type} {d : Bytes → ℕ → Except RangeError (α × ℕ)} (hd : Checked d)
    {buffer : Bytes} {count : ℕ} : ∀ {offset next : ℕ} {as : List α},
      readMany (d buffer) count offset = .ok (as, next) →
      (next ≤ buffer.length ∨ count = 0 ∧ next = offset) ∧
        ∀ rest, readMany (d (buffer ++ rest)) count offset = .ok (as, next) := by
  induction count with
  | zero =>
      intro offset next as h
      obtain ⟨rfl, rfl⟩ := Prod.mk.inj (Except.ok.inj h)
      exact ⟨.inr ⟨rfl, rfl⟩, fun _ => rfl⟩
  | succ count ih =>
      intro offset next as h
      obtain ⟨⟨a, offset'⟩, hfirst, h⟩ := ok_of_bind h
      obtain ⟨⟨as', next'⟩, hrest, h⟩ := ok_of_bind h
      obtain ⟨rfl, rfl⟩ := Prod.mk.inj (Except.ok.inj h)
      obtain ⟨hle, hfirst'⟩ := hd _ _ _ _ hfirst
      obtain ⟨hend, hrest'⟩ := ih hrest
      refine ⟨.inl ?_, fun rest => ?_⟩
      · rcases hend with hend | ⟨-, rfl⟩
        · exact hend
        · exact hle
      · rw [readMany, hfirst' rest, ok_bind]
        dsimp only
        rw [hrest' rest, ok_bind]

/-! ### Bytes one at a time -/

/-- `out[offset + i] = bs[i]` for each; what is outside is ignored. -/
def put (out : Bytes) (offset : ℕ) : Bytes → Bytes
  | [] => out
  | b :: bs => put (out.set offset b) (offset + 1) bs

/-- Bytes put one by one are the bytes written. -/
theorem put_eq {bs : Bytes} : ∀ {buffer : Bytes} {offset : ℕ},
    offset + bs.length ≤ buffer.length → put buffer offset bs = write buffer offset bs := by
  induction bs with
  | nil =>
      intro buffer offset _
      simp [put, write]
  | cons b bs ih =>
      intro buffer offset hfits
      rw [List.length_cons] at hfits
      rw [put, ih (by rw [List.length_set]; omega), write, write]
      have hlt : offset < buffer.length := by omega
      rw [List.drop_set_of_lt (by omega),
        List.take_succ_eq_append_getElem (by rwa [List.length_set]),
        List.take_set_of_le le_rfl, List.getElem_set_self, List.length_cons, List.append_assoc,
        List.append_assoc, List.append_assoc, Nat.add_assoc, Nat.add_comm 1]
      rfl

end SnakeArena.Library.Buffers
