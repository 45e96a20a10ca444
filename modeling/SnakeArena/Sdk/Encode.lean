import SnakeArena.Library.Borsh

/-!
# SDK — encoding (`packages/solana/src/tx/encode.ts`)

Instruction data, encoded by hand: the first eight bytes of the hash of the instruction's name,
then its arguments.  The encoders throw on what their type cannot hold.  `Encodes enc val d`
says that whatever `enc` accepts is `val` of some value, and that the reader `d` takes this value
off what `enc` wrote.
-/

namespace SnakeArena.Sdk
open SnakeArena.Library SnakeArena.Library.Borsh

/-- A JavaScript number, as far as `Number.isInteger` tells numbers apart.  One that is no
integer keeps the text it prints as. -/
inductive Number where
  | integer (n : ℤ)
  | other (text : String)
deriving DecidableEq

/-- What the SDK throws. -/
inductive Thrown where
  | rangeError (message : String)
  | solanaServiceError (message : String)
deriving DecidableEq

/-- A sequence that throws nothing threw at neither step. -/
theorem bind_returns {α β : Type} {x : Except Thrown α} {f : α → Except Thrown β} {b : β} :
    x >>= f = .ok b ↔ ∃ a, x = .ok a ∧ f a = .ok b := by
  cases x <;> simp [bind, Except.bind]

/-- `PublicKey`: 32 bytes. -/
structure PublicKey where
  toBytes : Bytes
  length_eq : toBytes.length = 32
deriving DecidableEq

/-- What the SDK takes from `@solana/web3.js` and `@noble/hashes`.  The program derives its
addresses and its discriminators by the same two functions. -/
structure Web3 where
  findProgramAddressSync : List Bytes → PublicKey → PublicKey × ℕ
  toBase58 : PublicKey → String
  sha256 : Bytes → Bytes
  sha256_length : ∀ m, (sha256 m).length = 32

/-- `TextEncoder.encode`, and `Buffer.from` of a string. -/
def utf8 (text : String) : Bytes := text.toUTF8.data.toList

/-! ### Instruction data -/

/-- Anchor's eight-byte instruction discriminator. -/
def instructionDiscriminator (web3 : Web3) (name : String) : Bytes :=
  (web3.sha256 (utf8 s!"global:{name}")).take 8

@[simp] theorem length_instructionDiscriminator (web3 : Web3) (name : String) :
    (instructionDiscriminator web3 name).length = 8 := by
  simp [instructionDiscriminator, web3.sha256_length]

/-- An unsigned integer of `width` bytes, least significant first. -/
def encodeInteger (type : String) (width : ℕ) : Number → Except Thrown Bytes
  | .integer n =>
      if n < 0 ∨ n > 256 ^ width - 1 then .error (.rangeError s!"{type} out of range: {n}")
      else .ok (leBytes width n.toNat)
  | .other text => .error (.rangeError s!"{type} out of range: {text}")

def encodeU64 (value : ℤ) : Except Thrown Bytes := encodeInteger "u64" 8 (.integer value)
def encodeU16 : Number → Except Thrown Bytes := encodeInteger "u16" 2
def encodeU32 : Number → Except Thrown Bytes := encodeInteger "u32" 4

def encodeBool (value : Bool) : Bytes := [if value then 1 else 0]

def encodePubkey (value : PublicKey) : Bytes := value.toBytes

/-- A presence byte, then the value when there is one. -/
def encodeOption {α : Type} (value : Option α) (encoder : α → Except Thrown Bytes) :
    Except Thrown Bytes :=
  match value with
  | none => .ok [0]
  | some inner => do
      let bs ← encoder inner
      .ok ([1] ++ bs)

/-- The length in four bytes, then the elements. -/
def encodeVec {α : Type} (values : List α) (encoder : α → Except Thrown Bytes) :
    Except Thrown Bytes := do
  let length ← encodeU32 (.integer values.length)
  let items ← values.mapM encoder
  .ok (length ++ items.flatten)

/-- Written as it stands, with no length. -/
def encodeFixedBytes (value : Bytes) (length : ℕ) : Except Thrown Bytes :=
  let got := value.length
  if got ≠ length then .error (.rangeError s!"Expected exactly {length} bytes, got {got}")
  else .ok value

def encodeInstruction (web3 : Web3) (name : String) (args : List Bytes) : Bytes :=
  instructionDiscriminator web3 name ++ args.flatten

/-! ### What is written is read back -/

/-- What `enc` accepts is `val` of a value that `d` reads off what `enc` wrote. -/
def Encodes {α β : Type} (enc : α → Except Thrown Bytes) (val : β → α) (d : Reader β) : Prop :=
  ∀ v bs, enc v = .ok bs → ∃ b, v = val b ∧ Reads d bs b

theorem encodeInteger_encodes (type : String) (width : ℕ) :
    Encodes (encodeInteger type width) (fun n : ℕ => .integer n) (uint width) := by
  intro v bs h
  cases v with
  | other text => cases h
  | integer n =>
      simp only [encodeInteger] at h
      split at h
      · cases h
      · rename_i hr
        push Not at hr
        obtain ⟨m, rfl⟩ := Int.eq_ofNat_of_zero_le hr.1
        cases h
        have hm : m < 256 ^ width := by
          have hlt : (m : ℤ) < (256 : ℤ) ^ width := by have := hr.2; omega
          exact_mod_cast hlt
        exact ⟨m, rfl, reads_uint hm⟩

theorem encodeU16_encodes : Encodes encodeU16 (fun n : ℕ => .integer n) (uint 2) :=
  encodeInteger_encodes "u16" 2

theorem encodeU64_encodes : Encodes encodeU64 (fun n : ℕ => (n : ℤ)) (uint 8) := by
  intro v bs h
  obtain ⟨n, hn, hr⟩ := encodeInteger_encodes "u64" 8 _ _ h
  exact ⟨n, Number.integer.inj hn, hr⟩

/-- A `Pubkey` argument. -/
def pubkey : Reader PublicKey := fun bs =>
  if h : 32 ≤ bs.length then some (⟨bs.take 32, List.length_take_of_le h⟩, bs.drop 32) else none

theorem reads_pubkey (k : PublicKey) : Reads pubkey (encodePubkey k) k := by
  intro rest
  obtain ⟨bs, hk⟩ := k
  have hlen : 32 ≤ (bs ++ rest).length := by simp [hk]
  simp only [pubkey, encodePubkey, StateT.run, dif_pos hlen, List.take_left' hk,
    List.drop_left' hk]

/-- An encoder that never throws. -/
theorem Encodes.of_reads {α : Type} {enc : α → Bytes} {d : Reader α} (h : ∀ a, Reads d (enc a) a) :
    Encodes (fun a => .ok (enc a)) id d := by
  intro v bs hv
  cases hv
  exact ⟨v, rfl, h v⟩

section Compound
variable {α β : Type} {enc : α → Except Thrown Bytes} {val : β → α} {d : Reader β}

theorem Encodes.option (h : Encodes enc val d) :
    Encodes (encodeOption · enc) (Option.map val) (Borsh.option d) := by
  intro v bs hv
  cases v with
  | none =>
      cases hv
      exact ⟨none, rfl, reads_none⟩
  | some a =>
      simp only [encodeOption, bind_returns] at hv
      obtain ⟨bs', ha, hbs⟩ := hv
      cases hbs
      obtain ⟨b, rfl, hr⟩ := h _ _ ha
      exact ⟨some b, rfl, reads_some hr⟩

theorem Encodes.mapM (h : Encodes enc val d) {as : List α} {bss : List Bytes}
    (hm : as.mapM enc = .ok bss) : ∃ bs, as = bs.map val ∧ List.Forall₂ (Reads d) bss bs := by
  induction as generalizing bss with
  | nil =>
      cases hm
      exact ⟨[], rfl, .nil⟩
  | cons a as ih =>
      simp only [List.mapM_cons, bind_returns] at hm
      obtain ⟨x, hx, xs, hxs, heq⟩ := hm
      cases heq
      obtain ⟨b, rfl, hr⟩ := h _ _ hx
      obtain ⟨bs, rfl, hrs⟩ := ih hxs
      exact ⟨b :: bs, rfl, .cons hr hrs⟩

theorem Encodes.vec (h : Encodes enc val d) :
    Encodes (encodeVec · enc) (List.map val) (Borsh.vec d) := by
  intro v bs hv
  simp only [encodeVec, bind_returns] at hv
  obtain ⟨lbs, hl, items, hi, heq⟩ := hv
  cases heq
  obtain ⟨as, rfl, has⟩ := h.mapM hi
  obtain ⟨n, hn, hr⟩ := encodeInteger_encodes "u32" 4 _ _ hl
  have hlen : n = as.length := by
    have := Number.integer.inj hn
    rw [List.length_map] at this
    exact_mod_cast this.symm
  subst hlen
  exact ⟨as, rfl, hr.bind (reads_many has)⟩

end Compound

end SnakeArena.Sdk
