import SnakeArena.Library.Table
import SnakeArena.Library.Transfers

/-!
# Program — addresses, accounts, errors

The data model of the arena program (`state.rs`, `constants.rs`, `errors.rs`).

An address is either a key outside the program or one of the addresses the program derives
from its seeds; distinct seeds are distinct constructors, so a derived address names its
seeds, and no derived address has a private key (`Pubkey.CanSign`).  Every derivation the
program makes uses the canonical bump, which it stores and passes back, so bumps are left out.

A program account lives at the address its seeds give, so the state keeps one table for each
account type, keyed by the seeds.  `State.account` is what stands at an address.

Amounts are naturals; the widths of the source's integers are the bounds the checked
operations test.
-/

namespace SnakeArena.Program
open SnakeArena.Library

/-! ### Constants -/

def roomIdLen : ℕ := 16
def bpsDenominator : ℕ := 10000
def maxFeeBps : ℕ := 1000
def maxWithdrawalFeeBps : ℕ := 200
def maxPlayersPerRoom : ℕ := 65535
def minPlayersPerRoom : ℕ := 2
def maxWinnersPerDistribution : ℕ := 8
def minDepositLamports : ℕ := 10000
def minWithdrawalLamports : ℕ := 10000
def minEntryFeeLamports : ℕ := 1000
def permissionlessCancelDelaySeconds : ℤ := 3600

/-- The bounds of the source's integer types. -/
def u16Max : ℕ := 2 ^ 16 - 1
def u32Max : ℕ := 2 ^ 32 - 1
def u64Max : ℕ := 2 ^ 64 - 1
def u128Max : ℕ := 2 ^ 128 - 1
def i64Max : ℤ := 2 ^ 63 - 1

/-! ### Addresses -/

/-- `[u8; ROOM_ID_LEN]`. -/
structure RoomId where
  bytes : List UInt8
  length_eq : bytes.length = roomIdLen
deriving DecidableEq

inductive Pubkey where
  /-- A key the program derives nothing from: a wallet, another program, a sysvar.  `key 0`
  is the System Program, whose address is `Pubkey::default()`. -/
  | key (n : ℕ)
  | config
  | pool
  | treasury
  | player (owner : Pubkey)
  | room (roomId : RoomId)
  | roomVault (roomId : RoomId)
  | roomPlayer (room player : Pubkey)
deriving DecidableEq

namespace Pubkey

/-- `Pubkey::default()`, the System Program's address. -/
def systemProgram : Pubkey := .key 0

/-- A signature can exist for this address: it is neither derived by the program nor the
System Program's. -/
def CanSign : Pubkey → Prop
  | .key n => n ≠ 0
  | _ => False

instance : DecidablePred CanSign := fun a => by
  unfold CanSign
  rcases a <;> dsimp only <;> infer_instance

theorem CanSign.eq_key {a : Pubkey} (h : a.CanSign) : ∃ n, a = .key n := by
  cases a <;> first | exact ⟨_, rfl⟩ | exact h.elim

/-- An address the program derives. -/
def Derived : Pubkey → Prop
  | .key _ => False
  | _ => True

theorem CanSign.not_derived {a : Pubkey} (h : a.CanSign) : ¬ a.Derived := by
  obtain ⟨n, rfl⟩ := h.eq_key
  exact id

/-- A signer is none of the program's addresses. -/
theorem CanSign.ne {a b : Pubkey} (h : a.CanSign) (hb : b.Derived) : a ≠ b :=
  fun e => h.not_derived (e ▸ hb)

end Pubkey

/-! ### Accounts -/

structure Config where
  admin : Pubkey
  pendingAdmin : Option Pubkey
  settlementAuthority : Pubkey
  treasury : Pubkey
  feeDestination : Pubkey
  feeBps : ℕ
  withdrawalFeeBps : ℕ
  paused : Bool
  totalRooms : ℕ
deriving DecidableEq

structure PlayerAccount where
  owner : Pubkey
  balance : ℕ
  totalDeposited : ℕ
  totalWithdrawn : ℕ
  totalWagered : ℕ
  totalWinnings : ℕ
  roomsJoined : ℕ
deriving DecidableEq

inductive RoomStatus where
  | open | inProgress | unlocked | settled | cancelled
deriving DecidableEq

structure Room where
  roomId : RoomId
  creator : Pubkey
  status : RoomStatus
  entryFee : ℕ
  maxPlayers : ℕ
  playerCount : ℕ
  lockedCount : ℕ
  totalLocked : ℕ
  prizePool : ℕ
  rakeAmount : ℕ
  distributed : ℕ
  winnersPaid : ℕ
  feeBps : ℕ
  createdAt : ℤ
  unlockedAt : ℤ
  settledAt : ℤ
deriving DecidableEq

inductive PlayerRoomState where
  | joined | locked | paid | refunded
deriving DecidableEq

structure RoomPlayer where
  room : Pubkey
  player : Pubkey
  lockedAmount : ℕ
  payout : ℕ
  joinedAt : ℤ
  state : PlayerRoomState
deriving DecidableEq

/-- A freshly created account is zeroed. -/
def PlayerAccount.zeroed : PlayerAccount :=
  ⟨.systemProgram, 0, 0, 0, 0, 0, 0⟩

/-- `8 + T::INIT_SPACE`: the discriminator and the Borsh size of each account. -/
def configSpace : ℕ := 8 + 177
def playerAccountSpace : ℕ := 8 + 77
def roomSpace : ℕ := 8 + 125
def roomPlayerSpace : ℕ := 8 + 90

/-! ### Errors -/

/-- `errors.rs`, in its order: the number of an error is 6000 plus its position. -/
inductive ArenaError where
  | programPaused | unauthorizedAdmin | unauthorizedSettlement | noPendingAdmin
  | notPendingAdmin | feeTooHigh | treasuryMismatch | depositTooSmall | withdrawalTooSmall
  | insufficientBalance | insufficientVaultFunds | wouldBreakRentExemption
  | playerOwnerMismatch | roomNotOpen | roomNotInProgress | prizeNotUnlocked
  | roomAlreadySettled | roomCancelled | roomNotCancelled | roomFull | invalidRoomCapacity
  | entryFeeTooSmall | entryFeesNotLocked | cancelDelayNotElapsed | entryFeeAlreadyLocked
  | entryFeeNotLocked | alreadyPaid | alreadyRefunded | roomPlayerMismatch
  | roomPlayerOwnerMismatch | noWinners | tooManyWinners | winnerAccountMismatch
  | payoutMismatch | zeroPayout | duplicateWinner | overflow | underflow | roomNotFinished
  | playerNotFinished
deriving DecidableEq

/-- The errors of the account checks. -/
inductive AnchorError where
  | accountNotInitialized | accountOwnedByWrongProgram | accountDiscriminatorMismatch
  | accountNotSigner | constraintSeeds | constraintMut | constraintHasOne | constraintClose
  | invalidProgramId | tryingToInitPayerAsProgramAccount
deriving DecidableEq

/-- The errors of the System Program, and of the runtime when it compares the accounts before
and after an instruction. -/
inductive SystemError where
  | accountAlreadyInUse | resultWithNegativeLamports | arithmeticOverflow
  | externalAccountLamportSpend
deriving DecidableEq

inductive Error where
  | arena (e : ArenaError)
  | anchor (e : AnchorError)
  | system (e : SystemError)
deriving DecidableEq

abbrev Result := Except Error

/-! ### The state of the chain, as far as the program sees it -/

structure State where
  lamports : Pubkey → ℕ
  config : Option Config
  /-- Keyed by the owner. -/
  players : Table Pubkey PlayerAccount
  rooms : Table RoomId Room
  /-- Keyed by the room's address and the player. -/
  roomPlayers : Table (Pubkey × Pubkey) RoomPlayer

inductive Account where
  | config (c : Config)
  | player (p : PlayerAccount)
  | room (r : Room)
  | roomPlayer (rp : RoomPlayer)

/-- The program account at an address. -/
def State.account (s : State) : Pubkey → Option Account
  | .config => s.config.map .config
  | .player o => (s.players.get o).map .player
  | .room id => (s.rooms.get id).map .room
  | .roomPlayer r p => (s.roomPlayers.get (r, p)).map .roomPlayer
  | _ => none

/-- Before the program was first called. -/
def State.Genesis (s : State) : Prop :=
  s.config = none ∧ s.players = .empty ∧ s.rooms = .empty ∧ s.roomPlayers = .empty ∧
    Bounded (u64Max + 1) s.lamports

end SnakeArena.Program
