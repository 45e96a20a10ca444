import SnakeArena.Auth.Wallets
import SnakeArena.Program.Refunds
import SnakeArena.Worker.Cycle

/-!
# Gateway — can this player afford a room?

`/wallet/can-afford` compares the wallet's lamports with the entry fee and a fixed headroom.
What the wallet then pays in `enter_room` is the fee, the rent of its entry record and one
signature; and the runtime lets no payer end with less than the rent of an empty account,
unless it ends with nothing.

The headroom covers the first of these and not the last, so between the two sums
(`enterRoomHeadroom`) the answer is wrong.
-/

namespace SnakeArena.Gateway
open SnakeArena.Library SnakeArena.Program SnakeArena.Auth SnakeArena.Worker

/-! ### The route -/

def conflict (message : String) : AppError := ⟨409, "CONFLICT", message⟩

/-- What a handler throws: an error of the application, or any other. -/
inductive Thrown where
  | app (e : AppError)
  | error (message : String)
deriving DecidableEq

/-- The lamports are decimal strings in the response. -/
structure AffordResponse where
  tierId : String
  requiredLamports : ℤ
  walletLamports : ℤ
  sufficient : Bool
deriving DecidableEq

/-- Headroom left for the entry transaction itself, 0.002 SOL. -/
def transactionHeadroom : ℕ := 2000000

/-- `POST /wallet/can-afford`, for the wallet of the session. -/
def canAfford (getBalance : Pubkey → ℕ) (wallet : Option Pubkey) (tierId : String) :
    Except Thrown AffordResponse :=
  match requireTier tierId with
  -- `requireTier` throws before the route's own test for a missing tier
  | none => .error (.error ("Unknown room tier: " ++ tierId))
  | some tier =>
      if tier.entryFeeLamports = 0 then .ok ⟨tier.id, 0, 0, true⟩
      else
        match wallet with
        | none => .error (.app (conflict "No wallet is connected to this session"))
        | some address =>
            let lamports : ℤ := getBalance address
            let needed := tier.entryFeeLamports + transactionHeadroom
            .ok ⟨tier.id, needed, lamports, decide (lamports ≥ needed)⟩

theorem requireTier_id {tier : RoomTier} (h : tier ∈ roomTiers) :
    requireTier tier.id = some tier := by
  simp only [roomTiers, List.mem_cons, List.not_mem_nil, or_false] at h
  rcases h with rfl | rfl | rfl | rfl | rfl | rfl | rfl <;> rfl

/-- What a paid tier is answered with. -/
theorem canAfford_paid {tier : RoomTier} (h : tier ∈ roomTiers)
    (hpaid : tier.entryFeeLamports ≠ 0) (getBalance : Pubkey → ℕ) (wallet : Pubkey) :
    canAfford getBalance (some wallet) tier.id
      = .ok ⟨tier.id, tier.entryFeeLamports + transactionHeadroom, getBalance wallet,
          decide ((getBalance wallet : ℤ) ≥ tier.entryFeeLamports + transactionHeadroom)⟩ := by
  rw [canAfford, requireTier_id h]
  simp only [hpaid, ↓reduceIte]

/-! ### The prize of a match (`match-wallet.service.ts`) -/

def bpsDenominator : ℤ := 10000

/-- The winner's share of a pot. -/
def prizeAfterRake (potLamports : ℤ) (rakeBps : ℕ) : ℤ :=
  if potLamports ≤ 0 then 0
  else
    let rake := (potLamports * rakeBps).tdiv bpsDenominator
    potLamports - rake

/-! ### The transaction that pays -/

/-- What the network takes for one signature. -/
def signatureFee : ℕ := 5000

/-- The wallet has paid the network. -/
def charge (s : State) (wallet : Pubkey) : State :=
  { s with lamports := Function.update s.lamports wallet (s.lamports wallet - signatureFee) }

/-- An `enter_room` transaction that the wallet alone pays for goes through: the wallet has the
signature's fee, the instruction succeeds, and the wallet ends with nothing or with at least the
rent of an empty account. -/
def EnterPays (rt : Runtime) (now : ℤ) (s : State) (wallet : Pubkey) (id : RoomId) : Prop :=
  signatureFee ≤ s.lamports wallet ∧
    ∃ t, exec rt now (charge s wallet) (Call.enterRoom wallet id) = .ok t ∧
      (t.state.lamports wallet = 0 ∨ rt.minimumBalance 0 ≤ t.state.lamports wallet)

/-- All that `enter_room` asks besides the wallet's lamports: the room is open and has a seat,
its counters have room for one more, and the wallet has no entry record yet. -/
structure Enterable (s : State) (wallet : Pubkey) (id : RoomId) (r : Room) : Prop where
  unpaused : ∃ c, s.config = some c ∧ c.paused = false
  room : s.rooms.get id = some r
  roomId : r.roomId = id
  isOpen : r.status = .open
  seat : r.playerCount < r.maxPlayers
  players : r.playerCount < u16Max
  locked : r.lockedCount < u16Max
  total : r.totalLocked + r.entryFee ≤ u64Max
  unseated : s.roomPlayers.get (.room id, wallet) = none
  unfunded : s.lamports (.roomPlayer (.room id) wallet) = 0
  wallet : wallet.CanSign
  supply : Bounded (u64Max + 1) s.lamports

section Payment
variable {s : State} {wallet : Pubkey} {id : RoomId} {r : Room}

/-- A transfer that is covered goes through. -/
theorem transfer_ok {t : Tx} {a b : Pubkey} {n : ℕ} (hne : a ≠ b) (hn : n ≤ t.state.lamports a)
    (hb : Bounded (u64Max + 1) t.state.lamports) :
    t.transfer a b n = .ok (t.move ⟨a, b, n⟩) ∧
      (t.move ⟨a, b, n⟩).state.lamports a + n = t.state.lamports a ∧
      Bounded (u64Max + 1) (t.move ⟨a, b, n⟩).state.lamports := by
  have hpair := hb.pair hne
  have hd : (Move.apply ⟨a, b, n⟩ t.state.lamports) b ≤ u64Max := by
    simp only [Move.apply, Function.update_self, Function.update_of_ne hne.symm]
    omega
  have hmoved : Moved t.state.lamports [⟨a, b, n⟩] (t.move ⟨a, b, n⟩).state.lamports :=
    Moved.snoc (.nil _) _ hn
  have hbalance := hmoved.balance a
  simp only [outflow_cons, outflow_nil, inflow_cons, inflow_nil, hne.symm, ↓reduceIte,
    Nat.add_zero] at hbalance
  refine ⟨?_, hbalance, hmoved.bounded hb⟩
  simp only [Tx.transfer, bind_eq_ok, require_eq_ok]
  exact ⟨(), hn, (), hd, trivial⟩

theorem Enterable.charge (h : Enterable s wallet id r) :
    Enterable (charge s wallet) wallet id r :=
  { h with
    unfunded := by
      have hne := (h.wallet.ne (b := .roomPlayer (.room id) wallet) trivial).symm
      simpa [Gateway.charge, Function.update_of_ne hne] using h.unfunded
    supply := fun S => (Finset.sum_le_sum fun a _ => by
      simp only [Gateway.charge, Function.update_apply]
      split
      · next e => subst e; exact Nat.sub_le _ _
      · exact le_rfl).trans_lt (h.supply S) }

/-- Entering costs the wallet the rent of its record and the entry fee. -/
theorem Enterable.exec (h : Enterable s wallet id r) (rt : Runtime) (now : ℤ)
    (hfunds : rt.minimumBalance roomPlayerSpace + r.entryFee ≤ s.lamports wallet) :
    ∃ t, exec rt now s (Call.enterRoom wallet id) = .ok t ∧
      t.state.lamports wallet + rt.minimumBalance roomPlayerSpace + r.entryFee
        = s.lamports wallet := by
  obtain ⟨c, hc, hpaused⟩ := h.unpaused
  obtain rfl := h.roomId
  have hrecord := h.wallet.ne (b := .roomPlayer (.room r.roomId) wallet) trivial
  have hvault := h.wallet.ne (b := .roomVault r.roomId) trivial
  obtain ⟨h₁, hleft, hb⟩ := transfer_ok (t := .start s) (n := rt.minimumBalance roomPlayerSpace)
    hrecord (by show _ ≤ s.lamports wallet; omega) h.supply
  set t₁ := (Tx.start s).move
    ⟨wallet, .roomPlayer (.room r.roomId) wallet, rt.minimumBalance roomPlayerSpace⟩
  have hleft : t₁.state.lamports wallet + rt.minimumBalance roomPlayerSpace
    = s.lamports wallet := hleft
  obtain ⟨h₂, hend, -⟩ := transfer_ok (n := r.entryFee) hvault (by omega) hb
  refine ⟨_, exec_ok (t := ((t₁.move ⟨wallet, .roomVault r.roomId, r.entryFee⟩).setRoomPlayer
    (.room r.roomId) wallet ⟨.room r.roomId, wallet, r.entryFee, 0, now, .locked⟩).setRoom
    r.roomId { r with
      playerCount := r.playerCount + 1
      lockedCount := r.lockedCount + 1
      totalLocked := r.totalLocked + r.entryFee }) ?_ rfl, ?_⟩
  · simp only [handle, Call.enterRoom, enterRoom, initAccount, bind_eq_ok, loadConfig_eq_ok,
      loadRoom_eq_ok, seeds_eq_ok, require_eq_ok, mutable_eq_ok, signer_eq_ok, system_eq_ok,
      checkedIncr_eq_ok, add_eq_ok, AccountInfo.full_key, AccountInfo.full_isWritable,
      AccountInfo.full_isSigner]
    have hrent : rt.minimumBalance roomPlayerSpace
        - (Tx.start s).state.lamports (.roomPlayer (.room r.roomId) wallet)
        = rt.minimumBalance roomPlayerSpace := by
      show _ - s.lamports _ = _
      rw [h.unfunded, Nat.sub_zero]
    exact ⟨c, ⟨trivial, hc⟩, (), trivial, (), hpaused, r, ⟨_, rfl, h.room⟩, (), trivial, (), rfl,
      t₁, ⟨(), trivial, (), trivial, (), by simpa [Tx.start, State.account] using h.unseated,
        hrent.symm ▸ h₁⟩, (), trivial, (), rfl, (), trivial, (), h.wallet, (), trivial, (),
      h.isOpen, (), h.seat, _, h₂, _, ⟨h.players, rfl⟩, _, ⟨h.locked, rfl⟩, _, ⟨h.total, rfl⟩, rfl⟩
  · show (t₁.move ⟨wallet, .roomVault r.roomId, r.entryFee⟩).state.lamports wallet + _ + _ = _
    omega

end Payment

/-! ### What the headroom would have to be -/

/-- The signature, the rent of the entry record, and what the wallet may not end below. -/
def enterRoomHeadroom : ℕ :=
  signatureFee + Runtime.validator.minimumBalance roomPlayerSpace
    + Runtime.validator.minimumBalance 0

example : enterRoomHeadroom = 2468840 := rfl

/-- A wallet that the route finds sufficient, whose headroom falls short of the rent of an empty
account, executes the instruction and is refused for what it has left. -/
theorem enterPays_iff {now : ℤ} {s : State} {wallet : Pubkey} {id : RoomId} {r : Room}
    (h : Enterable s wallet id r)
    (hsufficient : r.entryFee + transactionHeadroom ≤ s.lamports wallet) :
    EnterPays .validator now s wallet id ↔
      r.entryFee + enterRoomHeadroom ≤ s.lamports wallet := by
  have hrent : Runtime.validator.minimumBalance roomPlayerSpace = 1572960 := rfl
  have hempty : Runtime.validator.minimumBalance 0 = 890880 := rfl
  have hcharged : (charge s wallet).lamports wallet = s.lamports wallet - signatureFee :=
    Function.update_self _ _ _
  simp only [enterRoomHeadroom, transactionHeadroom, signatureFee, hrent, hempty]
    at hsufficient hcharged ⊢
  obtain ⟨t, ht, hend⟩ := h.charge.exec .validator now (by
    rw [hcharged, hrent]
    omega)
  rw [hcharged, hrent] at hend
  constructor
  · rintro ⟨-, t', ht', hleft⟩
    obtain rfl : t = t' := Except.ok.inj (ht.symm.trans ht')
    rw [hempty] at hleft
    omega
  · rintro hcovered
    refine ⟨by show 5000 ≤ _; omega, t, ht, .inr ?_⟩
    rw [hempty]
    omega

/-- **Affordable means payable, except** for a wallet that holds the entry fee and the headroom
and less than the entry fee and what the transaction needs. -/
theorem affordable_payable {now : ℤ} {s : State} {wallet : Pubkey} {id : RoomId} {r : Room}
    {tier : RoomTier} (htier : tier ∈ roomTiers) (hpaid : tier.entryFeeLamports ≠ 0)
    (hroom : Enterable s wallet id r) (hfee : (r.entryFee : ℤ) = tier.entryFeeLamports) :
    (∀ answer, canAfford s.lamports (some wallet) tier.id = .ok answer →
      answer.sufficient = true → EnterPays .validator now s wallet id) ↔
      (s.lamports wallet : ℤ) < tier.entryFeeLamports + transactionHeadroom ∨
        tier.entryFeeLamports + enterRoomHeadroom ≤ s.lamports wallet := by
  rw [canAfford_paid htier hpaid, ← hfee]
  constructor
  · intro hpayable
    by_cases hsufficient : r.entryFee + transactionHeadroom ≤ s.lamports wallet
    · refine .inr ?_
      have hpays := hpayable _ rfl (decide_eq_true (by exact_mod_cast hsufficient))
      exact_mod_cast (enterPays_iff hroom hsufficient).mp hpays
    · exact .inl (by exact_mod_cast not_le.mp hsufficient)
  · rintro hholds answer ⟨⟩ hok
    have hsufficient : r.entryFee + transactionHeadroom ≤ s.lamports wallet := by
      exact_mod_cast of_decide_eq_true hok
    rcases hholds with hless | hcovered
    · exact absurd hsufficient (not_le.mpr (by exact_mod_cast hless))
    · exact (enterPays_iff hroom hsufficient).mpr (by exact_mod_cast hcovered)

/-- A bronze room, and a player whose wallet holds `lamports`. -/
def bronzeRoom (lamports : ℕ) : State where
  lamports
    | .key 4 => lamports
    | _ => 0
  config := some ⟨.key 1, none, .key 2, .treasury, .key 3, 500, 50, false, 1⟩
  players := .empty
  rooms := Table.empty.upd (.ofByte 7) (.opened (.ofByte 7) (.key 2) 10000000 4 1000 0)
  roomPlayers := .empty

theorem bronzeRoom_enterable (lamports : ℕ) (h : lamports ≤ u64Max) :
    Enterable (bronzeRoom lamports) (.key 4) (.ofByte 7)
      (.opened (.ofByte 7) (.key 2) 10000000 4 1000 0) where
  unpaused := ⟨_, rfl, rfl⟩
  room := Table.get_upd_same _ _ _
  roomId := rfl
  isOpen := rfl
  seat := by decide
  players := by decide
  locked := by decide
  total := by decide
  unseated := rfl
  unfunded := rfl
  wallet := by decide
  supply := by
    intro S
    have hsum : ∑ a ∈ S, (bronzeRoom lamports).lamports a
        ≤ ∑ a ∈ S, if a = .key 4 then lamports else 0 := by
      refine Finset.sum_le_sum fun a _ => ?_
      unfold bronzeRoom
      split <;> simp_all
    refine hsum.trans_lt ?_
    rw [Finset.sum_ite_eq']
    split <;> omega

theorem bronze_mem : paidTier "bronze" 10000000 ∈ roomTiers := by simp [roomTiers]

/-- A wallet with 0.013 SOL can pay for the bronze room. -/
theorem affordable_payable_bronze :
    EnterPays .validator 5 (bronzeRoom 13000000) (.key 4) (.ofByte 7) := by
  have hroom := bronzeRoom_enterable 13000000 (by decide)
  have hpaid := canAfford_paid bronze_mem (by decide) (bronzeRoom 13000000).lamports (.key 4)
  exact (affordable_payable bronze_mem (by decide)
    hroom rfl).mpr (.inr (by decide)) _ hpaid (by decide)

/-- A wallet with 0.012 SOL is told that it can afford the bronze room.  It would be left with
less than half of the rent of an empty account, and the runtime refuses. -/
theorem affordable_payable_short : ¬ ∀ (now : ℤ) (s : State) (wallet : Pubkey) (id : RoomId)
    (r : Room) (tier : RoomTier), tier ∈ roomTiers → tier.entryFeeLamports ≠ 0 →
    Enterable s wallet id r → (r.entryFee : ℤ) = tier.entryFeeLamports →
    ∀ answer, canAfford s.lamports (some wallet) tier.id = .ok answer →
      answer.sufficient = true → EnterPays .validator now s wallet id := by
  intro hclaim
  have hroom := bronzeRoom_enterable 12000000 (by decide)
  have hpaid := canAfford_paid bronze_mem (by decide) (bronzeRoom 12000000).lamports (.key 4)
  have hpays := hclaim 5 (bronzeRoom 12000000) (.key 4) (.ofByte 7) _ _
    bronze_mem (by decide) hroom rfl _ hpaid (by decide)
  exact absurd ((enterPays_iff hroom (by decide)).mp hpays) (by decide)

end SnakeArena.Gateway
