import SnakeArena.Program.State

/-!
# Program — checked arithmetic, account checks, lamport movement

`utils.rs` and `settlement_math.rs`, and under them what Anchor and the System Program do for a
handler: deserialising an account, testing its constraints, creating it, transferring lamports.

A handler runs on a `Tx`: the state so far, the moves of lamports made so far, and the addresses
whose lamports the program lowered by writing them rather than through the System Program.
What each operation does to it is one lemma: `Tx.Paid t ms t'` says that only the moves `ms`
happened between `t` and `t'`.
-/

namespace SnakeArena.Program
open SnakeArena.Library

/-! ### Results -/

/-- `require!`. -/
def require (c : Prop) [Decidable c] (e : Error) : Result Unit := if c then .ok () else .error e

@[simp] theorem require_eq_ok {c : Prop} [Decidable c] {e : Error} {u : Unit} :
    require c e = .ok u ↔ c := by
  unfold require; split <;> simp [*]

@[simp] theorem bind_eq_ok {α β : Type} {x : Result α} {f : α → Result β} {b : β} :
    x >>= f = .ok b ↔ ∃ a, x = .ok a ∧ f a = .ok b := by
  cases x <;> simp [bind, Except.bind]

@[simp] theorem pure_eq_ok {α : Type} {a b : α} : (pure a : Result α) = .ok b ↔ a = b := by
  simp [pure, Except.pure]

/-- A sequence fails with its first failure. -/
theorem bind_eq_error {α β : Type} {x : Result α} {f : α → Result β} {e : Error} :
    x >>= f = .error e ↔ x = .error e ∨ ∃ a, x = .ok a ∧ f a = .error e := by
  cases x <;> simp [bind, Except.bind]

/-- A requirement that fails throws its own error. -/
theorem require_eq_error {c : Prop} [Decidable c] {e e' : Error} :
    require c e = .error e' ↔ ¬ c ∧ e = e' := by
  unfold require; split <;> simp [*]

/-! ### Checked arithmetic -/

/-- Checked add. -/
def add (a b : ℕ) : Result ℕ :=
  if a + b ≤ u64Max then .ok (a + b) else .error (.arena .overflow)

/-- Checked subtract. -/
def sub (a b : ℕ) : Result ℕ :=
  if b ≤ a then .ok (a - b) else .error (.arena .underflow)

/-- `checked_add(1)` at a width. -/
def checkedIncr (max n : ℕ) : Result ℕ :=
  if n + 1 ≤ max then .ok (n + 1) else .error (.arena .overflow)

/-- `amount * bps / 10_000`, the product in 128 bits. -/
def applyBps (amount bps : ℕ) : Result ℕ :=
  if amount * bps ≤ u128Max then
    let result := amount * bps / bpsDenominator
    if result ≤ u64Max then .ok result else .error (.arena .overflow)
  else .error (.arena .overflow)

@[simp] theorem add_eq_ok {a b c : ℕ} : add a b = .ok c ↔ a + b ≤ u64Max ∧ c = a + b := by
  unfold add; split <;> simp [*, eq_comm]

@[simp] theorem sub_eq_ok {a b c : ℕ} : sub a b = .ok c ↔ b ≤ a ∧ c = a - b := by
  unfold sub; split <;> simp [*, eq_comm]

@[simp] theorem checkedIncr_eq_ok {max n c : ℕ} :
    checkedIncr max n = .ok c ↔ n + 1 ≤ max ∧ c = n + 1 := by
  unfold checkedIncr; split <;> simp [*, eq_comm]

/-- A sum that overflows. -/
theorem add_eq_error {a b : ℕ} {e : Error} :
    add a b = .error e ↔ u64Max < a + b ∧ e = .arena .overflow := by
  unfold add; split <;> simp [*, eq_comm]; omega

/-- A difference that underflows. -/
theorem sub_eq_error {a b : ℕ} {e : Error} :
    sub a b = .error e ↔ a < b ∧ e = .arena .underflow := by
  unfold sub; split <;> simp [*, eq_comm]; omega

/-- A share fails by overflow only. -/
theorem applyBps_eq_error {amount bps : ℕ} {e : Error} (h : applyBps amount bps = .error e) :
    e = .arena .overflow := by
  unfold applyBps at h
  split at h
  · dsimp only at h
    split at h
    · cases h
    · exact (Except.error.inj h).symm
  · exact (Except.error.inj h).symm

/-- A fee never exceeds what it is charged on, and never fails on a `u64` at a capped rate. -/
theorem applyBps_eq_ok {amount bps fee : ℕ} (h : applyBps amount bps = .ok fee) :
    fee = amount * bps / bpsDenominator := by
  unfold applyBps at h
  split at h
  · dsimp only at h
    split at h
    · exact (Except.ok.inj h).symm
    · cases h
  · cases h

/-- A share of what fits, by a rate within the base, does not fail. -/
theorem applyBps_of_le {amount bps : ℕ} (ha : amount ≤ u64Max) (hb : bps ≤ bpsDenominator) :
    applyBps amount bps = .ok (amount * bps / bpsDenominator) := by
  have hprod : amount * bps ≤ u64Max * bpsDenominator := Nat.mul_le_mul ha hb
  have hle : amount * bps / bpsDenominator ≤ u64Max :=
    Nat.div_le_of_le_mul (by rw [Nat.mul_comm bpsDenominator]; exact hprod)
  have hmax : u64Max * bpsDenominator ≤ u128Max := by decide
  simp only [applyBps, hprod.trans hmax, hle, ↓reduceIte]

/-- A share is no more than the whole. -/
theorem bps_le {amount bps : ℕ} (hb : bps ≤ bpsDenominator) :
    amount * bps / bpsDenominator ≤ amount :=
  Nat.div_le_of_le_mul (by rw [Nat.mul_comm]; exact Nat.mul_le_mul_right _ hb)

/-! ### Settlement arithmetic -/

/-- The loop of `validate_payouts`. -/
def sumPayouts : ℕ → List ℕ → Result ℕ
  | total, [] => .ok total
  | total, amount :: rest => do
      require (amount > 0) (.arena .zeroPayout)
      let total ← add total amount
      sumPayouts total rest

/-- Sums a payout list and checks it against the prize pool. -/
def validatePayouts (payouts : List ℕ) (prizePool : ℕ) : Result ℕ := do
  require (payouts ≠ []) (.arena .noWinners)
  require (payouts.length ≤ maxWinnersPerDistribution) (.arena .tooManyWinners)
  let total ← sumPayouts 0 payouts
  require (total = prizePool) (.arena .payoutMismatch)
  .ok total

/-- Splits a pot into rake and prize pool.  The fee cap is checked again here. -/
def splitPot (pot feeBps : ℕ) : Result (ℕ × ℕ) := do
  require (feeBps ≤ maxFeeBps) (.arena .feeTooHigh)
  require (pot * feeBps ≤ u128Max) (.arena .overflow)
  let rake := pot * feeBps / bpsDenominator
  require (rake ≤ u64Max) (.arena .overflow)
  let prize ← sub pot rake
  .ok (rake, prize)

/-- The payouts add up, and none is zero. -/
theorem sumPayouts_eq_ok {payouts : List ℕ} : ∀ {total c : ℕ},
    sumPayouts total payouts = .ok c → c = total + payouts.sum ∧ ∀ a ∈ payouts, 0 < a := by
  induction payouts with
  | nil => simp [sumPayouts, eq_comm]
  | cons amount rest ih =>
      intro total c h
      simp only [sumPayouts, bind_eq_ok, require_eq_ok, add_eq_ok] at h
      obtain ⟨-, hpos, _, ⟨-, rfl⟩, h⟩ := h
      obtain ⟨rfl, hrest⟩ := ih h
      refine ⟨by simp [Nat.add_assoc], fun a ha => ?_⟩
      rcases List.mem_cons.mp ha with rfl | ha
      · exact hpos
      · exact hrest a ha

/-- An accepted payout list is positive, short, and sums to the prize pool. -/
theorem validatePayouts_eq_ok {payouts : List ℕ} {prizePool c : ℕ}
    (h : validatePayouts payouts prizePool = .ok c) :
    c = payouts.sum ∧ prizePool = payouts.sum ∧ (∀ a ∈ payouts, 0 < a) ∧ payouts ≠ [] ∧
      payouts.length ≤ maxWinnersPerDistribution := by
  simp only [validatePayouts, bind_eq_ok, require_eq_ok, Except.ok.injEq] at h
  obtain ⟨-, hne, -, hlen, t, hsum, -, rfl, rfl⟩ := h
  obtain ⟨ht, hpos⟩ := sumPayouts_eq_ok hsum
  rw [Nat.zero_add] at ht
  exact ⟨ht, ht, hpos, hne, hlen⟩

/-! ### The runtime -/

/-- What the program asks of the validator it runs on: the rent sysvar, and whether the
runtime refuses an instruction that lowers the lamports of an account its program does not
own.  Validators do refuse it. -/
structure Runtime where
  minimumBalance : ℕ → ℕ
  ownerRule : Bool

/-- An account as the caller passes it.  A signature exists only for an address that can
sign. -/
structure AccountInfo where
  key : Pubkey
  isSigner : Bool
  isWritable : Bool
  signer_ok : isSigner = true → key.CanSign
deriving DecidableEq

/-- The state of an instruction in execution. -/
structure Tx where
  state : State
  moves : List (Move Pubkey)
  debits : List Pubkey

def Tx.start (s : State) : Tx := ⟨s, [], []⟩

namespace Tx

def setConfig (t : Tx) (c : Config) : Tx :=
  { t with state := { t.state with config := some c } }

def setPlayer (t : Tx) (o : Pubkey) (p : PlayerAccount) : Tx :=
  { t with state := { t.state with players := t.state.players.upd o p } }

def setRoom (t : Tx) (id : RoomId) (r : Room) : Tx :=
  { t with state := { t.state with rooms := t.state.rooms.upd id r } }

def setRoomPlayer (t : Tx) (r p : Pubkey) (rp : RoomPlayer) : Tx :=
  { t with state := { t.state with roomPlayers := t.state.roomPlayers.upd (r, p) rp } }

def move (t : Tx) (m : Move Pubkey) : Tx :=
  { t with state := { t.state with lamports := m.apply t.state.lamports }
           moves := t.moves ++ [m] }

/-- A System Program transfer, from an account whose signature or seeds the caller has. -/
def transfer (t : Tx) (source dest : Pubkey) (amount : ℕ) : Result Tx := do
  let m : Move Pubkey := ⟨source, dest, amount⟩
  require (amount ≤ t.state.lamports source) (.system .resultWithNegativeLamports)
  require (m.apply t.state.lamports dest ≤ u64Max) (.system .arithmeticOverflow)
  .ok (t.move m)

/-- Lamports moved by writing the two balances, as `close_room` and the `close` constraint
do. -/
def writeMove (t : Tx) (source dest : Pubkey) : Result Tx := do
  let m : Move Pubkey := ⟨source, dest, t.state.lamports source⟩
  require (m.apply t.state.lamports dest ≤ u64Max) (.arena .overflow)
  .ok { t.move m with debits := t.debits ++ [source] }

end Tx

/-! ### Vaults -/

/-- Transfers lamports into a vault from a user wallet. -/
def transferToVault (t : Tx) (source : AccountInfo) (vault : Pubkey) (amount : ℕ) : Result Tx :=
  t.transfer source.key vault amount

/-- Transfers lamports out of a program-derived vault, refusing to leave it below rent
exemption. -/
def transferFromVault (rt : Runtime) (t : Tx) (vault dest : Pubkey) (amount : ℕ) : Result Tx :=
  if amount = 0 then .ok t
  else do
    let balance := t.state.lamports vault
    require (amount ≤ balance) (.arena .insufficientVaultFunds)
    require (rt.minimumBalance 0 ≤ balance - amount) (.arena .wouldBreakRentExemption)
    t.transfer vault dest amount

/-- Ensures a freshly seeded vault holds enough lamports to be rent exempt. -/
def fundRentExemption (rt : Runtime) (t : Tx) (payer : AccountInfo) (vault : Pubkey) :
    Result Tx :=
  let required := rt.minimumBalance 0
  let current := t.state.lamports vault
  if required ≤ current then .ok t
  else transferToVault t payer vault (required - current)

/-! ### Account checks -/

/-- `Account::try_from`: ownership, then the discriminator (in the loaders below). -/
def tryFrom (s : State) (a : Pubkey) : Result Account :=
  match s.account a with
  | some d => .ok d
  | none =>
      if s.lamports a = 0 then .error (.anchor .accountNotInitialized)
      else .error (.anchor .accountOwnedByWrongProgram)

def loadConfig (s : State) (a : Pubkey) : Result Config := do
  match ← tryFrom s a with
  | .config c => .ok c
  | _ => .error (.anchor .accountDiscriminatorMismatch)

def loadPlayer (s : State) (a : Pubkey) : Result PlayerAccount := do
  match ← tryFrom s a with
  | .player p => .ok p
  | _ => .error (.anchor .accountDiscriminatorMismatch)

def loadRoom (s : State) (a : Pubkey) : Result Room := do
  match ← tryFrom s a with
  | .room r => .ok r
  | _ => .error (.anchor .accountDiscriminatorMismatch)

def loadRoomPlayer (s : State) (a : Pubkey) : Result RoomPlayer := do
  match ← tryFrom s a with
  | .roomPlayer rp => .ok rp
  | _ => .error (.anchor .accountDiscriminatorMismatch)

/-- `seeds = [..]`. -/
def seeds (info : AccountInfo) (a : Pubkey) : Result Unit :=
  require (info.key = a) (.anchor .constraintSeeds)

/-- `mut`. -/
def mutable (info : AccountInfo) : Result Unit :=
  require (info.isWritable = true) (.anchor .constraintMut)

/-- `Signer`. -/
def signer (info : AccountInfo) : Result Unit :=
  require (info.isSigner = true) (.anchor .accountNotSigner)

/-- `Program<System>`. -/
def system (info : AccountInfo) : Result Unit :=
  require (info.key = .systemProgram) (.anchor .invalidProgramId)

/-- `init`: the payer brings the address up to rent exemption, then the System Program
allocates it, which it refuses for an account in use. -/
def initAccount (rt : Runtime) (t : Tx) (payer info : AccountInfo) (a : Pubkey) (space : ℕ) :
    Result Tx := do
  seeds info a
  mutable info
  require (t.state.account a).isNone (.system .accountAlreadyInUse)
  t.transfer payer.key a (rt.minimumBalance space - t.state.lamports a)

/-- `init_if_needed` on a player account. -/
def initPlayerIfNeeded (rt : Runtime) (t : Tx) (payer info : AccountInfo) (o : Pubkey) :
    Result (Tx × PlayerAccount) :=
  match t.state.players.get o with
  | some p => do
      seeds info (.player o)
      mutable info
      .ok (t, p)
  | none => do
      let t ← initAccount rt t payer info (.player o) playerAccountSpace
      .ok (t, .zeroed)

/-! ### What a successful check says -/

@[simp] theorem seeds_eq_ok {info : AccountInfo} {a : Pubkey} {u : Unit} :
    seeds info a = .ok u ↔ info.key = a := by simp [seeds]

@[simp] theorem mutable_eq_ok {info : AccountInfo} {u : Unit} :
    mutable info = .ok u ↔ info.isWritable = true := by simp [mutable]

@[simp] theorem signer_eq_ok {info : AccountInfo} {u : Unit} :
    signer info = .ok u ↔ info.isSigner = true := by simp [signer]

@[simp] theorem system_eq_ok {info : AccountInfo} {u : Unit} :
    system info = .ok u ↔ info.key = .systemProgram := by simp [system]

@[simp] theorem tryFrom_eq_ok {s : State} {a : Pubkey} {d : Account} :
    tryFrom s a = .ok d ↔ s.account a = some d := by
  unfold tryFrom
  cases s.account a with
  | some d' => simp
  | none => simp only [reduceCtorEq, iff_false]; split <;> simp

@[simp] theorem loadConfig_eq_ok {s : State} {a : Pubkey} {c : Config} :
    loadConfig s a = .ok c ↔ a = .config ∧ s.config = some c := by
  simp only [loadConfig, bind_eq_ok, tryFrom_eq_ok]
  cases a <;> simp only [State.account, Option.map_eq_some_iff, reduceCtorEq, false_and,
    exists_false, true_and, iff_false, not_exists, not_and] <;> aesop

@[simp] theorem loadPlayer_eq_ok {s : State} {a : Pubkey} {p : PlayerAccount} :
    loadPlayer s a = .ok p ↔ ∃ o, a = .player o ∧ s.players.get o = some p := by
  simp only [loadPlayer, bind_eq_ok, tryFrom_eq_ok]
  cases a <;> simp only [State.account, Option.map_eq_some_iff, reduceCtorEq, false_and,
    exists_false, iff_false, not_exists, not_and] <;> aesop

@[simp] theorem loadRoom_eq_ok {s : State} {a : Pubkey} {r : Room} :
    loadRoom s a = .ok r ↔ ∃ id, a = .room id ∧ s.rooms.get id = some r := by
  simp only [loadRoom, bind_eq_ok, tryFrom_eq_ok]
  cases a <;> simp only [State.account, Option.map_eq_some_iff, reduceCtorEq, false_and,
    exists_false, iff_false, not_exists, not_and] <;> aesop

@[simp] theorem loadRoomPlayer_eq_ok {s : State} {a : Pubkey} {rp : RoomPlayer} :
    loadRoomPlayer s a = .ok rp ↔
      ∃ r p, a = .roomPlayer r p ∧ s.roomPlayers.get (r, p) = some rp := by
  simp only [loadRoomPlayer, bind_eq_ok, tryFrom_eq_ok]
  cases a <;> simp only [State.account, Option.map_eq_some_iff, reduceCtorEq, false_and,
    exists_false, iff_false, not_exists, not_and] <;> aesop

/-! ### What a failed check says -/

/-- The loaders fail with an account error only. -/
theorem load_error {α : Type} {s : State} {a : Pubkey} {f : Account → Result α} {e : Error}
    (hf : ∀ d e, f d = .error e → ∃ k, e = .anchor k) (h : tryFrom s a >>= f = .error e) :
    ∃ k, e = .anchor k := by
  rcases bind_eq_error.mp h with h | ⟨d, -, h⟩
  · unfold tryFrom at h
    cases hd : s.account a with
    | some d => simp [hd] at h
    | none =>
        simp only [hd] at h
        split at h
        · exact ⟨_, (Except.error.inj h).symm⟩
        · exact ⟨_, (Except.error.inj h).symm⟩
  · exact hf d e h

/-- An account that is not what it should be fails in the runtime's checks. -/
theorem loadConfig_error {s : State} {a : Pubkey} {e : Error} (h : loadConfig s a = .error e) :
    ∃ k, e = .anchor k :=
  load_error (fun d e h => by cases d <;> simp at h <;> exact ⟨_, h.symm⟩) h

theorem loadPlayer_error {s : State} {a : Pubkey} {e : Error} (h : loadPlayer s a = .error e) :
    ∃ k, e = .anchor k :=
  load_error (fun d e h => by cases d <;> simp at h <;> exact ⟨_, h.symm⟩) h

theorem loadRoom_error {s : State} {a : Pubkey} {e : Error} (h : loadRoom s a = .error e) :
    ∃ k, e = .anchor k :=
  load_error (fun d e h => by cases d <;> simp at h <;> exact ⟨_, h.symm⟩) h

theorem loadRoomPlayer_error {s : State} {a : Pubkey} {e : Error}
    (h : loadRoomPlayer s a = .error e) : ∃ k, e = .anchor k :=
  load_error (fun d e h => by cases d <;> simp at h <;> exact ⟨_, h.symm⟩) h

/-! ### What a successful movement says -/

/-- `t'` is `t` after the covered moves `ms`, and nothing else. -/
def Tx.Paid (t : Tx) (ms : List (Move Pubkey)) (t' : Tx) : Prop :=
  ∃ l, Moved t.state.lamports ms l ∧
    t' = ⟨{ t.state with lamports := l }, t.moves ++ ms, t.debits⟩

/-- The moves of a payment that is skipped at zero. -/
def payment (source dest : Pubkey) (amount : ℕ) : List (Move Pubkey) :=
  if amount = 0 then [] else [⟨source, dest, amount⟩]

@[simp] theorem inflow_payment (a v d : Pubkey) (n : ℕ) :
    inflow a (payment v d n) = if d = a then n else 0 := by
  unfold payment; split <;> simp [*]

@[simp] theorem outflow_payment (a v d : Pubkey) (n : ℕ) :
    outflow a (payment v d n) = if v = a then n else 0 := by
  unfold payment; split <;> simp [*]

/-- A payment is one move, or none of a zero amount. -/
theorem mem_payment {m : Move Pubkey} {v d : Pubkey} {n : ℕ} (h : m ∈ payment v d n) :
    m = ⟨v, d, n⟩ := by
  unfold payment at h
  split at h
  · simp at h
  · simpa using h

/-- A transfer that goes through moves what it says. -/
theorem transfer_eq_ok {t t' : Tx} {v d : Pubkey} {n : ℕ} (h : t.transfer v d n = .ok t') :
    t.Paid [⟨v, d, n⟩] t' := by
  simp only [Tx.transfer, bind_eq_ok, require_eq_ok, Except.ok.injEq] at h
  obtain ⟨-, hn, -, -, rfl⟩ := h
  exact ⟨_, Moved.snoc (.nil _) _ hn, rfl⟩

/-- A vault pays above its rent floor, or pays nothing. -/
theorem transferFromVault_eq_ok {rt : Runtime} {t t' : Tx} {v d : Pubkey} {n : ℕ}
    (h : transferFromVault rt t v d n = .ok t') :
    t.Paid (payment v d n) t' ∧ (n ≠ 0 → n + rt.minimumBalance 0 ≤ t.state.lamports v) := by
  unfold transferFromVault at h
  split at h
  · next h₀ =>
      obtain rfl : t = t' := Except.ok.inj h
      refine ⟨⟨t.state.lamports, ?_, ?_⟩, fun h => absurd h₀ h⟩
      · rw [payment, if_pos h₀]; exact .nil _
      · simp [payment, h₀]
  · next h₀ =>
      simp only [bind_eq_ok, require_eq_ok] at h
      obtain ⟨-, hle, -, hrent, h⟩ := h
      rw [payment, if_neg h₀]
      exact ⟨transfer_eq_ok h, fun _ => by omega⟩

/-- The errors of a vault that holds too little. -/
inductive Shortage : Error → Prop where
  | funds : Shortage (.arena .insufficientVaultFunds)
  | rent : Shortage (.arena .wouldBreakRentExemption)
  | negative : Shortage (.system .resultWithNegativeLamports)

/-- A shortage is the program's or the system's own error. -/
theorem Shortage.not_anchor {e : Error} (he : Shortage e) : ¬ ∃ k, e = .anchor k := by
  rintro ⟨k, rfl⟩
  cases he

/-- A vault that holds the amount and its rent is not short. -/
theorem transferFromVault_covered {rt : Runtime} {t : Tx} {v d : Pubkey} {n : ℕ} {e : Error}
    (hc : n ≠ 0 → n + rt.minimumBalance 0 ≤ t.state.lamports v) (he : Shortage e) :
    transferFromVault rt t v d n ≠ .error e := by
  intro h
  unfold transferFromVault at h
  split at h
  · cases h
  · next h₀ =>
      have := hc h₀
      simp only [bind_eq_error, require_eq_error, require_eq_ok, Tx.transfer, reduceCtorEq,
        and_false, exists_false, or_false] at h
      rcases h with ⟨h, -⟩ | ⟨-, -, ⟨h, -⟩ | ⟨-, -, ⟨h, -⟩ | ⟨-, -, -, rfl⟩⟩⟩
      · exact h (by omega)
      · exact h (by omega)
      · exact h (by omega)
      · cases he

/-- Covered, and with the receiver inside the lamport type, a payment succeeds. -/
theorem transferFromVault_ok {rt : Runtime} {t : Tx} {v d : Pubkey} {n : ℕ} (hne : v ≠ d)
    (hc : n + rt.minimumBalance 0 ≤ t.state.lamports v)
    (hb : Bounded (u64Max + 1) t.state.lamports) : ∃ t', transferFromVault rt t v d n = .ok t' := by
  unfold transferFromVault
  split
  · exact ⟨t, rfl⟩
  · have hpair := hb.pair hne
    have hd : (Move.apply ⟨v, d, n⟩ t.state.lamports) d ≤ u64Max := by
      simp only [Move.apply, Function.update_self, Function.update_of_ne hne.symm]
      omega
    simp only [bind_eq_ok, require_eq_ok, Tx.transfer, Except.ok.injEq]
    exact ⟨_, (), by omega, (), by omega, (), by omega, (), hd, rfl⟩

/-- The payer adds what the vault lacks to its floor. -/
theorem fundRentExemption_eq_ok {rt : Runtime} {t t' : Tx} {payer : AccountInfo} {v : Pubkey}
    (h : fundRentExemption rt t payer v = .ok t') :
    t.Paid (payment payer.key v (rt.minimumBalance 0 - t.state.lamports v)) t' := by
  unfold fundRentExemption at h
  dsimp only at h
  split at h
  · next hle =>
      obtain rfl : t = t' := Except.ok.inj h
      have h₀ : rt.minimumBalance 0 - t.state.lamports v = 0 := by omega
      rw [payment, if_pos h₀]
      exact ⟨t.state.lamports, .nil _, by simp⟩
  · next hlt =>
      rw [payment, if_neg (by omega)]
      exact transfer_eq_ok h

/-- A new account is where its seeds say, was not there, and is paid up to its rent. -/
theorem initAccount_eq_ok {rt : Runtime} {t t' : Tx} {payer info : AccountInfo} {a : Pubkey}
    {space : ℕ} (h : initAccount rt t payer info a space = .ok t') :
    info.key = a ∧ t.state.account a = none ∧
      t.Paid [⟨payer.key, a, rt.minimumBalance space - t.state.lamports a⟩] t' := by
  simp only [initAccount, bind_eq_ok, seeds_eq_ok, mutable_eq_ok, require_eq_ok,
    Option.isNone_iff_eq_none] at h
  obtain ⟨-, ha, -, -, -, hn, h⟩ := h
  exact ⟨ha, hn, transfer_eq_ok h⟩

end SnakeArena.Program
