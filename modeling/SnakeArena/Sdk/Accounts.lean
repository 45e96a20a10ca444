import SnakeArena.Sdk.Instructions

/-!
# SDK — the program's side (`constants.rs`, `lib.rs`, `#[derive(Accounts)]`)

What the program makes of an instruction's bytes and accounts.  `dispatch` picks the handler whose
discriminator the data starts with and reads its arguments.  For each handler there is what its
`Accounts` struct asks of the accounts at its positions: the signer flag, `mut`, the seeds and the
constraints on addresses, field by field, in the order of the struct (`HandlerCall.Accepts`).

`Stored` is what the program has stored when the instruction arrives, as far as the structs read
it: the addresses in the config and those the records name.  A record stands at the address
derived from what it names, and the config names the treasury's; these are fields of `Stored`.
Bumps are the canonical ones.
-/

namespace SnakeArena.Sdk
open SnakeArena.Library SnakeArena.Library.Borsh

/-! ### The handlers and their arguments -/

/-- A call of a handler, with its arguments. -/
inductive HandlerCall where
  | initializeProgram (settlementAuthority feeDestination : PublicKey)
      (feeBps withdrawalFeeBps : ℕ)
  | updateConfig (feeBps withdrawalFeeBps : Option ℕ)
      (settlementAuthority feeDestination : Option PublicKey) (paused : Option Bool)
  | transferAdmin (newAdmin : PublicKey)
  | acceptAdmin
  | withdrawTreasury (amount : ℕ)
  | deposit (amount : ℕ)
  | withdraw (amount : ℕ)
  | createRoom (roomId : Bytes) (entryFee maxPlayers : ℕ)
  | joinRoom
  | enterRoom
  | lockEntryFee
  | startRoom
  | unlockPrize
  | distributeWinnings (payouts : List ℕ)
  | settleToWinner
  | cancelRoom
  | claimRefund
  | closeRoom
  | closeRoomPlayer

/-- The functions of `lib.rs`, each with the reader of its arguments. -/
def handlers : List (String × Reader HandlerCall) := [
  ("initialize", do
    let settlementAuthority ← pubkey
    let feeDestination ← pubkey
    let feeBps ← uint 2
    let withdrawalFeeBps ← uint 2
    pure (.initializeProgram settlementAuthority feeDestination feeBps withdrawalFeeBps)),
  ("update_config", do
    let feeBps ← option (uint 2)
    let withdrawalFeeBps ← option (uint 2)
    let settlementAuthority ← option pubkey
    let feeDestination ← option pubkey
    let paused ← option bool
    pure (.updateConfig feeBps withdrawalFeeBps settlementAuthority feeDestination paused)),
  ("transfer_admin", do
    let newAdmin ← pubkey
    pure (.transferAdmin newAdmin)),
  ("accept_admin", pure .acceptAdmin),
  ("withdraw_treasury", do
    let amount ← uint 8
    pure (.withdrawTreasury amount)),
  ("deposit", do
    let amount ← uint 8
    pure (.deposit amount)),
  ("withdraw", do
    let amount ← uint 8
    pure (.withdraw amount)),
  ("create_room", do
    let roomId ← bytes 16
    let entryFee ← uint 8
    let maxPlayers ← uint 2
    pure (.createRoom roomId entryFee maxPlayers)),
  ("join_room", pure .joinRoom),
  ("enter_room", pure .enterRoom),
  ("lock_entry_fee", pure .lockEntryFee),
  ("start_room", pure .startRoom),
  ("unlock_prize", pure .unlockPrize),
  ("distribute_winnings", do
    let payouts ← vec (uint 8)
    pure (.distributeWinnings payouts)),
  ("settle_to_winner", pure .settleToWinner),
  ("cancel_room", pure .cancelRoom),
  ("claim_refund", pure .claimRefund),
  ("close_room", pure .closeRoom),
  ("close_room_player", pure .closeRoomPlayer)]

/-- The handler whose discriminator the data starts with reads its arguments from the rest.
Returns what it left unread. -/
def dispatch (web3 : Web3) (data : Bytes) : Option (HandlerCall × Bytes) :=
  match handlers.find? fun h => instructionDiscriminator web3 h.1 = data.take 8 with
  | some (_, args) => args.run (data.drop 8)
  | none => none

/-- No two of the program's functions have the same discriminator. -/
def Web3.Distinct (web3 : Web3) : Prop :=
  (handlers.map fun h => instructionDiscriminator web3 h.1).Nodup

/-! ### Seeds -/

/-- A byte string literal of the program. -/
def literal (text : String) : Bytes := text.toList.map fun c => UInt8.ofNat c.toNat

namespace Seeds

def config : Bytes := literal "config"
def pool : Bytes := literal "pool"
def treasury : Bytes := literal "treasury"
def player : Bytes := literal "player"
def room : Bytes := literal "room"
def roomVault : Bytes := literal "room_vault"
def roomPlayer : Bytes := literal "room_player"

end Seeds

/-- `Pubkey::find_program_address`. -/
def Web3.derive (web3 : Web3) (programId : PublicKey) (seeds : List Bytes) : PublicKey :=
  (web3.findProgramAddressSync seeds programId).1

/-- What is stored, as far as the `Accounts` structs read it: the config's addresses, the
`room_id` of the room at an address, the `owner` of the player account at an address, the `room`
and `player` of the entry record at an address. -/
structure Stored (web3 : Web3) (programId : PublicKey) where
  admin : PublicKey
  settlementAuthority : PublicKey
  treasury : PublicKey
  feeDestination : PublicKey
  roomId : PublicKey → Option Bytes
  owner : PublicKey → Option PublicKey
  roomPlayer : PublicKey → Option (PublicKey × PublicKey)
  treasury_eq : treasury = web3.derive programId [Seeds.treasury]
  roomId_eq : ∀ id id', id.length = 16 →
    roomId (web3.derive programId [Seeds.room, id]) = some id' → id' = id
  owner_eq : ∀ o o', owner (web3.derive programId [Seeds.player, o.toBytes]) = some o' → o' = o
  roomPlayer_eq : ∀ r p k,
    roomPlayer (web3.derive programId [Seeds.roomPlayer, r.toBytes, p.toBytes]) = some k →
      k = (r, p)

/-! ### The `Accounts` structs -/

namespace AccountMeta

/-- Not a `Signer`, and not `mut`. -/
def Plain (m : AccountMeta) : Prop := m.isSigner = false

/-- `#[account(mut)]`, or `init`, which is `mut` as well. -/
def Mut (m : AccountMeta) : Prop := m.isSigner = false ∧ m.isWritable = true

/-- `Signer`. -/
def Signer (m : AccountMeta) : Prop := m.isSigner = true

/-- `#[account(mut)]` of a `Signer`, as the payer of an `init` is. -/
def MutSigner (m : AccountMeta) : Prop := m.isSigner = true ∧ m.isWritable = true

/-- `Program<System>`. -/
def System (m : AccountMeta) : Prop := m.Plain ∧ m.pubkey = systemProgramId

end AccountMeta

section Structs
variable {web3 : Web3} {programId : PublicKey} (st : Stored web3 programId)

namespace Stored

/-- `seeds = [..]`. -/
def Seeded (_ : Stored web3 programId) (m : AccountMeta) (seeds : List Bytes) : Prop :=
  m.pubkey = web3.derive programId seeds

/-- `seeds = [seed, room.room_id.as_ref()]`, with the id the room stores. -/
def OfRoom (room m : AccountMeta) (seed : Bytes) : Prop :=
  ∀ id ∈ st.roomId room.pubkey, st.Seeded m [seed, id]

/-- `seeds = [PLAYER_SEED, player]` and `player_account.owner == player.key()`. -/
def PlayerOf (player m : AccountMeta) : Prop :=
  st.Seeded m [Seeds.player, player.pubkey.toBytes] ∧ ∀ o ∈ st.owner m.pubkey, o = player.pubkey

/-- `seeds = [ROOM_PLAYER_SEED, room, player]`. -/
def RecordOf (room player m : AccountMeta) : Prop :=
  st.Seeded m [Seeds.roomPlayer, room.pubkey.toBytes, player.pubkey.toBytes]

/-- `room_player.room == room.key()`. -/
def NamesRoom (room m : AccountMeta) : Prop := ∀ k ∈ st.roomPlayer m.pubkey, k.1 = room.pubkey

/-- `room_player.player == player.key()`. -/
def NamesPlayer (player m : AccountMeta) : Prop :=
  ∀ k ∈ st.roomPlayer m.pubkey, k.2 = player.pubkey

end Stored

namespace Accounts

structure Initialize (config pool treasury admin systemProgram : AccountMeta) : Prop where
  config_ok : config.Mut ∧ st.Seeded config [Seeds.config]
  pool_ok : pool.Mut ∧ st.Seeded pool [Seeds.pool]
  treasury_ok : treasury.Mut ∧ st.Seeded treasury [Seeds.treasury]
  admin_ok : admin.MutSigner
  system_ok : systemProgram.System

structure UpdateConfig (config admin : AccountMeta) : Prop where
  config_ok : config.Mut ∧ st.Seeded config [Seeds.config] ∧ admin.pubkey = st.admin
  admin_ok : admin.Signer

structure TransferAdmin (config admin : AccountMeta) : Prop where
  config_ok : config.Mut ∧ st.Seeded config [Seeds.config] ∧ admin.pubkey = st.admin
  admin_ok : admin.Signer

structure AcceptAdmin (config newAdmin : AccountMeta) : Prop where
  config_ok : config.Mut ∧ st.Seeded config [Seeds.config]
  newAdmin_ok : newAdmin.Signer

structure WithdrawTreasury (config treasury destination admin systemProgram : AccountMeta) :
    Prop where
  config_ok : config.Plain ∧ st.Seeded config [Seeds.config] ∧ admin.pubkey = st.admin
  treasury_ok : treasury.Mut ∧ st.Seeded treasury [Seeds.treasury] ∧ treasury.pubkey = st.treasury
  destination_ok : destination.Mut
  admin_ok : admin.Signer
  system_ok : systemProgram.System

structure Deposit (config playerAccount pool player systemProgram : AccountMeta) : Prop where
  config_ok : config.Plain ∧ st.Seeded config [Seeds.config]
  playerAccount_ok : playerAccount.Mut ∧
    st.Seeded playerAccount [Seeds.player, player.pubkey.toBytes]
  pool_ok : pool.Mut ∧ st.Seeded pool [Seeds.pool]
  player_ok : player.MutSigner
  system_ok : systemProgram.System

structure Withdraw (config playerAccount pool treasury player systemProgram : AccountMeta) :
    Prop where
  config_ok : config.Plain ∧ st.Seeded config [Seeds.config]
  playerAccount_ok : playerAccount.Mut ∧ st.PlayerOf player playerAccount
  pool_ok : pool.Mut ∧ st.Seeded pool [Seeds.pool]
  treasury_ok : treasury.Mut ∧ st.Seeded treasury [Seeds.treasury] ∧ treasury.pubkey = st.treasury
  player_ok : player.MutSigner
  system_ok : systemProgram.System

/-- The room does not exist yet: its seeds are the argument's. -/
structure CreateRoom (roomId : Bytes)
    (config room roomVault settlementAuthority systemProgram : AccountMeta) : Prop where
  config_ok : config.Mut ∧ st.Seeded config [Seeds.config]
  room_ok : room.Mut ∧ st.Seeded room [Seeds.room, roomId]
  roomVault_ok : roomVault.Mut ∧ st.Seeded roomVault [Seeds.roomVault, roomId]
  settlementAuthority_ok : settlementAuthority.MutSigner ∧
    settlementAuthority.pubkey = st.settlementAuthority
  system_ok : systemProgram.System

structure JoinRoom (config room roomPlayer playerAccount player systemProgram : AccountMeta) :
    Prop where
  config_ok : config.Plain ∧ st.Seeded config [Seeds.config]
  room_ok : room.Mut ∧ st.OfRoom room room Seeds.room
  roomPlayer_ok : roomPlayer.Mut ∧ st.RecordOf room player roomPlayer
  playerAccount_ok : playerAccount.Mut ∧ st.PlayerOf player playerAccount
  player_ok : player.MutSigner
  system_ok : systemProgram.System

structure LockEntryFee (config room roomPlayer playerAccount pool roomVault player
    systemProgram : AccountMeta) : Prop where
  config_ok : config.Plain ∧ st.Seeded config [Seeds.config]
  room_ok : room.Mut ∧ st.OfRoom room room Seeds.room
  roomPlayer_ok : roomPlayer.Mut ∧ st.RecordOf room player roomPlayer ∧
    st.NamesRoom room roomPlayer ∧ st.NamesPlayer player roomPlayer
  playerAccount_ok : playerAccount.Mut ∧ st.PlayerOf player playerAccount
  pool_ok : pool.Mut ∧ st.Seeded pool [Seeds.pool]
  roomVault_ok : roomVault.Mut ∧ st.OfRoom room roomVault Seeds.roomVault
  player_ok : player.Signer
  system_ok : systemProgram.System

structure StartRoom (config room settlementAuthority : AccountMeta) : Prop where
  config_ok : config.Plain ∧ st.Seeded config [Seeds.config]
  room_ok : room.Mut ∧ st.OfRoom room room Seeds.room
  settlementAuthority_ok : settlementAuthority.Signer ∧
    settlementAuthority.pubkey = st.settlementAuthority

structure EnterRoom (config room roomPlayer roomVault player systemProgram : AccountMeta) :
    Prop where
  config_ok : config.Plain ∧ st.Seeded config [Seeds.config]
  room_ok : room.Mut ∧ st.OfRoom room room Seeds.room
  roomPlayer_ok : roomPlayer.Mut ∧ st.RecordOf room player roomPlayer
  roomVault_ok : roomVault.Mut ∧ st.OfRoom room roomVault Seeds.roomVault
  player_ok : player.MutSigner
  system_ok : systemProgram.System

structure UnlockPrize (config room settlementAuthority : AccountMeta) : Prop where
  config_ok : config.Plain ∧ st.Seeded config [Seeds.config]
  room_ok : room.Mut ∧ st.OfRoom room room Seeds.room
  settlementAuthority_ok : settlementAuthority.Signer ∧
    settlementAuthority.pubkey = st.settlementAuthority

/-- The accounts after the struct's own are the loop's: for each payout the record and the
account of a winner, both writable, and no winner twice. -/
structure DistributeWinnings (payouts : List ℕ)
    (config room roomVault pool feeDestination settlementAuthority systemProgram : AccountMeta)
    (remaining : List AccountMeta) : Prop where
  config_ok : config.Plain ∧ st.Seeded config [Seeds.config]
  room_ok : room.Mut ∧ st.OfRoom room room Seeds.room
  roomVault_ok : roomVault.Mut ∧ st.OfRoom room roomVault Seeds.roomVault
  pool_ok : pool.Mut ∧ st.Seeded pool [Seeds.pool]
  feeDestination_ok : feeDestination.Mut ∧ feeDestination.pubkey = st.feeDestination
  settlementAuthority_ok : settlementAuthority.Signer ∧
    settlementAuthority.pubkey = st.settlementAuthority
  system_ok : systemProgram.System
  remaining_ok : ∃ winners : List PublicKey, winners.length = payouts.length ∧ winners.Nodup ∧
    remaining = winners.flatMap fun winner =>
      [writable (web3.derive programId [Seeds.roomPlayer, room.pubkey.toBytes, winner.toBytes]),
        writable (web3.derive programId [Seeds.player, winner.toBytes])]

structure CancelRoom (config room caller : AccountMeta) : Prop where
  config_ok : config.Plain ∧ st.Seeded config [Seeds.config]
  room_ok : room.Mut ∧ st.OfRoom room room Seeds.room
  caller_ok : caller.Signer

structure ClaimRefund (config room roomPlayer playerAccount roomVault pool player claimant
    systemProgram : AccountMeta) : Prop where
  config_ok : config.Plain ∧ st.Seeded config [Seeds.config]
  room_ok : room.Mut ∧ st.OfRoom room room Seeds.room
  roomPlayer_ok : roomPlayer.Mut ∧ st.RecordOf room player roomPlayer ∧
    st.NamesRoom room roomPlayer ∧ st.NamesPlayer player roomPlayer
  playerAccount_ok : playerAccount.Mut ∧ st.PlayerOf player playerAccount
  roomVault_ok : roomVault.Mut ∧ st.OfRoom room roomVault Seeds.roomVault
  pool_ok : pool.Mut ∧ st.Seeded pool [Seeds.pool]
  player_ok : player.Plain
  claimant_ok : claimant.MutSigner
  system_ok : systemProgram.System

structure SettleToWinner (config room roomVault winnerRoomPlayer winner feeDestination
    settlementAuthority systemProgram : AccountMeta) : Prop where
  config_ok : config.Plain ∧ st.Seeded config [Seeds.config]
  room_ok : room.Mut ∧ st.OfRoom room room Seeds.room
  roomVault_ok : roomVault.Mut ∧ st.OfRoom room roomVault Seeds.roomVault
  winnerRoomPlayer_ok : winnerRoomPlayer.Mut ∧ st.RecordOf room winner winnerRoomPlayer ∧
    st.NamesPlayer winner winnerRoomPlayer
  winner_ok : winner.Mut
  feeDestination_ok : feeDestination.Mut ∧ feeDestination.pubkey = st.feeDestination
  settlementAuthority_ok : settlementAuthority.Signer ∧
    settlementAuthority.pubkey = st.settlementAuthority
  system_ok : systemProgram.System

structure CloseRoom (config room roomVault settlementAuthority : AccountMeta) : Prop where
  config_ok : config.Plain ∧ st.Seeded config [Seeds.config]
  room_ok : room.Mut ∧ st.OfRoom room room Seeds.room
  roomVault_ok : roomVault.Mut ∧ st.OfRoom room roomVault Seeds.roomVault
  settlementAuthority_ok : settlementAuthority.Mut ∧
    settlementAuthority.pubkey = st.settlementAuthority

structure CloseRoomPlayer (room roomPlayer player : AccountMeta) : Prop where
  room_ok : room.Plain ∧ st.OfRoom room room Seeds.room
  roomPlayer_ok : roomPlayer.Mut ∧ st.RecordOf room player roomPlayer ∧
    st.NamesPlayer player roomPlayer
  player_ok : player.Mut

end Accounts

/-- The accounts of an instruction, position by position, are what the struct of the handler
asks for. -/
def HandlerCall.Accepts : HandlerCall → List AccountMeta → Prop
  | .initializeProgram .., [config, pool, treasury, admin, systemProgram] =>
      Accounts.Initialize st config pool treasury admin systemProgram
  | .updateConfig .., [config, admin] => Accounts.UpdateConfig st config admin
  | .transferAdmin _, [config, admin] => Accounts.TransferAdmin st config admin
  | .acceptAdmin, [config, newAdmin] => Accounts.AcceptAdmin st config newAdmin
  | .withdrawTreasury _, [config, treasury, destination, admin, systemProgram] =>
      Accounts.WithdrawTreasury st config treasury destination admin systemProgram
  | .deposit _, [config, playerAccount, pool, player, systemProgram] =>
      Accounts.Deposit st config playerAccount pool player systemProgram
  | .withdraw _, [config, playerAccount, pool, treasury, player, systemProgram] =>
      Accounts.Withdraw st config playerAccount pool treasury player systemProgram
  | .createRoom roomId .., [config, room, roomVault, settlementAuthority, systemProgram] =>
      Accounts.CreateRoom st roomId config room roomVault settlementAuthority systemProgram
  | .joinRoom, [config, room, roomPlayer, playerAccount, player, systemProgram] =>
      Accounts.JoinRoom st config room roomPlayer playerAccount player systemProgram
  | .enterRoom, [config, room, roomPlayer, roomVault, player, systemProgram] =>
      Accounts.EnterRoom st config room roomPlayer roomVault player systemProgram
  | .lockEntryFee, [config, room, roomPlayer, playerAccount, pool, roomVault, player,
      systemProgram] =>
      Accounts.LockEntryFee st config room roomPlayer playerAccount pool roomVault player
        systemProgram
  | .startRoom, [config, room, settlementAuthority] =>
      Accounts.StartRoom st config room settlementAuthority
  | .unlockPrize, [config, room, settlementAuthority] =>
      Accounts.UnlockPrize st config room settlementAuthority
  | .distributeWinnings payouts, config :: room :: roomVault :: pool :: feeDestination ::
      settlementAuthority :: systemProgram :: remaining =>
      Accounts.DistributeWinnings st payouts config room roomVault pool feeDestination
        settlementAuthority systemProgram remaining
  | .settleToWinner, [config, room, roomVault, winnerRoomPlayer, winner, feeDestination,
      settlementAuthority, systemProgram] =>
      Accounts.SettleToWinner st config room roomVault winnerRoomPlayer winner feeDestination
        settlementAuthority systemProgram
  | .cancelRoom, [config, room, caller] => Accounts.CancelRoom st config room caller
  | .claimRefund, [config, room, roomPlayer, playerAccount, roomVault, pool, player, claimant,
      systemProgram] =>
      Accounts.ClaimRefund st config room roomPlayer playerAccount roomVault pool player claimant
        systemProgram
  | .closeRoom, [config, room, roomVault, settlementAuthority] =>
      Accounts.CloseRoom st config room roomVault settlementAuthority
  | .closeRoomPlayer, [room, roomPlayer, player] =>
      Accounts.CloseRoomPlayer st room roomPlayer player
  | _, _ => False

end Structs

end SnakeArena.Sdk
