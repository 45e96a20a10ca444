import Mathlib.Data.List.Basic
import Mathlib.Tactic.Ring

/-!
# Library — Borsh

Byte strings and the readers that take values off their front.  `Reads d bs a` says that the
reader `d`, given a string that starts with `bs`, returns `a` and leaves what follows `bs`.
It is closed under sequencing (`Reads.bind`), so that the reader of a record reads the
concatenation of what its fields' readers read.

The formats are Borsh's: integers of a fixed width, least significant byte first; a boolean as
one byte; an option as a presence byte and then its value; a vector as its length in four
bytes and then its elements; an array of bytes as it stands.
-/

namespace SnakeArena.Library.Borsh

abbrev Bytes := List UInt8

/-- Takes a value off the front of a byte string and leaves the rest, or fails. -/
abbrev Reader (α : Type) := StateT Bytes Option α

/-- `d` takes `a` off any string that starts with `bs`, and leaves what follows. -/
def Reads {α : Type} (d : Reader α) (bs : Bytes) (a : α) : Prop :=
  ∀ rest, d.run (bs ++ rest) = some (a, rest)

section Reads
variable {α β : Type} {d : Reader α} {bs bs' : Bytes} {a : α}

theorem Reads.pure (a : α) : Reads (Pure.pure a) [] a := fun _ => rfl

theorem Reads.bind {f : α → Reader β} {b : β} (h : Reads d bs a) (h' : Reads (f a) bs' b) :
    Reads (d >>= f) (bs ++ bs') b := by
  intro rest
  rw [StateT.run_bind, List.append_assoc, h, ← h' rest]
  rfl

theorem Reads.map (f : α → β) (h : Reads d bs a) : Reads (f <$> d) bs (f a) := by
  intro rest
  rw [StateT.run_map, h]
  rfl

/-- The reader of a last field: nothing follows it. -/
theorem Reads.bind_pure (f : α → β) (h : Reads d bs a) :
    Reads (d >>= fun a => Pure.pure (f a)) bs (f a) := by
  have h' : Reads (d >>= fun a => Pure.pure (f a)) (bs ++ []) (f a) := h.bind (Reads.pure _)
  rwa [List.append_nil] at h'

theorem Reads.run_eq (h : Reads d bs a) : d.run bs = some (a, []) := by
  have := h []
  rwa [List.append_nil] at this

end Reads

/-! ### Bytes as they stand -/

def bytes (n : ℕ) : Reader Bytes := fun bs =>
  if n ≤ bs.length then some (bs.take n, bs.drop n) else none

theorem reads_bytes {n : ℕ} {bs : Bytes} (h : bs.length = n) : Reads (bytes n) bs bs := by
  intro rest
  subst h
  simp [bytes, StateT.run]

/-! ### Integers -/

/-- The `width` least significant bytes of a natural number, the least significant first. -/
def leBytes : ℕ → ℕ → Bytes
  | 0, _ => []
  | width + 1, n => UInt8.ofNat n :: leBytes width (n / 256)

def leValue : Bytes → ℕ
  | [] => 0
  | b :: bs => b.toNat + 256 * leValue bs

@[simp] theorem length_leBytes (width n : ℕ) : (leBytes width n).length = width := by
  induction width generalizing n with
  | zero => rfl
  | succ width ih => simp [leBytes, ih]

theorem leValue_leBytes {width n : ℕ} (h : n < 256 ^ width) : leValue (leBytes width n) = n := by
  induction width generalizing n with
  | zero =>
      have : n = 0 := by simpa using h
      simp [leBytes, leValue, this]
  | succ width ih =>
      have hdiv : n / 256 < 256 ^ width := by
        rw [Nat.div_lt_iff_lt_mul (by decide), ← pow_succ]
        exact h
      have hmod : (UInt8.ofNat n).toNat = n % 256 := by simp
      rw [leBytes, leValue, ih hdiv, hmod]
      exact Nat.mod_add_div n 256

def uint (width : ℕ) : Reader ℕ := leValue <$> bytes width

theorem reads_uint {width n : ℕ} (h : n < 256 ^ width) :
    Reads (uint width) (leBytes width n) n := by
  have := (reads_bytes (length_leBytes width n)).map leValue
  rwa [leValue_leBytes h] at this

/-! ### Booleans and options -/

def bool : Reader Bool := do
  match ← bytes 1 with
  | [0] => pure false
  | [1] => pure true
  | _ => failure

theorem reads_bool (b : Bool) : Reads bool [if b then 1 else 0] b := by
  have h : Reads (bytes 1) [if b then 1 else 0] [if b then 1 else 0] := reads_bytes rfl
  cases b <;> exact h.bind (Reads.pure _)

section Compound
variable {α : Type} {d : Reader α}

def option (d : Reader α) : Reader (Option α) := do
  if ← bool then some <$> d else pure none

theorem reads_none : Reads (option d) [0] none := (reads_bool false).bind (Reads.pure _)

theorem reads_some {bs : Bytes} {a : α} (h : Reads d bs a) :
    Reads (option d) ([1] ++ bs) (some a) :=
  (reads_bool true).bind (h.map some)

/-! ### Vectors -/

/-- So many values, one after the other. -/
def many (d : Reader α) : ℕ → Reader (List α)
  | 0 => pure []
  | n + 1 => do
      let a ← d
      let as ← many d n
      pure (a :: as)

theorem reads_many {bss : List Bytes} {as : List α} (h : List.Forall₂ (Reads d) bss as) :
    Reads (many d as.length) bss.flatten as := by
  induction h with
  | nil => exact Reads.pure _
  | cons h _ ih =>
      rw [List.flatten_cons]
      exact h.bind (ih.bind_pure _)

def vec (d : Reader α) : Reader (List α) := do
  many d (← uint 4)

end Compound

end SnakeArena.Library.Borsh
