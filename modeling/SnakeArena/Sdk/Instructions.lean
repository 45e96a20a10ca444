import SnakeArena.Sdk.Encode

/-!
# SDK — instruction builders (`pda.ts`, `instructions.ts`)

The builders of the program's instructions: the accounts of each, in order, with their flags, and
its encoded data.  `Builder.build` is the builder a set of parameters is for.
-/

namespace SnakeArena.Sdk
open SnakeArena.Library SnakeArena.Library.Borsh

/-! ### Addresses (`constants.ts`, `pda.ts`): the seeds, and what is found from them -/

def configSeed : Bytes := utf8 "config"
def poolSeed : Bytes := utf8 "pool"
def treasurySeed : Bytes := utf8 "treasury"
def playerSeed : Bytes := utf8 "player"
def roomSeed : Bytes := utf8 "room"
def roomVaultSeed : Bytes := utf8 "room_vault"
def roomPlayerSeed : Bytes := utf8 "room_player"

def roomIdLen : ℕ := 16
def maxWinnersPerDistribution : ℕ := 8

/-- An address and its bump. -/
abbrev Pda := PublicKey × ℕ

/-- Room ids are 16 bytes on chain; a shorter one is padded with zeros. -/
def normalizeRoomId (roomId : Bytes) : Except Thrown Bytes :=
  let got := roomId.length
  if got > roomIdLen then
    .error (.rangeError s!"Room id must be at most {roomIdLen} bytes, got {got}")
  else .ok (roomId ++ List.replicate (roomIdLen - got) 0)

/-- A room id is of sixteen bytes, or is refused. -/
theorem length_normalizeRoomId {roomId id : Bytes} (h : normalizeRoomId roomId = .ok id) :
    id.length = roomIdLen := by
  simp only [normalizeRoomId] at h
  split at h
  · cases h
  · cases h
    simp only [List.length_append, List.length_replicate]
    omega

theorem normalizeRoomId_of_length {id : Bytes} (h : id.length = roomIdLen) :
    normalizeRoomId id = .ok id := by
  simp [normalizeRoomId, h]

section Pda
variable (web3 : Web3) (programId : PublicKey)

def findConfigPda : Pda := web3.findProgramAddressSync [configSeed] programId

def findPoolPda : Pda := web3.findProgramAddressSync [poolSeed] programId

def findTreasuryPda : Pda := web3.findProgramAddressSync [treasurySeed] programId

def findPlayerPda (owner : PublicKey) : Pda :=
  web3.findProgramAddressSync [playerSeed, owner.toBytes] programId

def findRoomPda (roomId : Bytes) : Except Thrown Pda := do
  let id ← normalizeRoomId roomId
  .ok (web3.findProgramAddressSync [roomSeed, id] programId)

def findRoomVaultPda (roomId : Bytes) : Except Thrown Pda := do
  let id ← normalizeRoomId roomId
  .ok (web3.findProgramAddressSync [roomVaultSeed, id] programId)

def findRoomPlayerPda (room player : PublicKey) : Pda :=
  web3.findProgramAddressSync [roomPlayerSeed, room.toBytes, player.toBytes] programId

end Pda

/-! ### Withdrawals -/

def bpsDenominator : ℤ := 10000

def maxWithdrawalFeeBps : ℤ := 200

/-- What a withdrawal sends, and what it costs. -/
structure WithdrawalSplit where
  gross : ℤ
  fee : ℤ
  net : ℤ
deriving DecidableEq

/-- Splits a gross withdrawal into the net payout and the treasury fee; the error is the text of
a `SolanaServiceError`. -/
def splitWithdrawal (grossLamports withdrawalFeeBps : ℤ) : Except String WithdrawalSplit :=
  if grossLamports < 0 then .error "Withdrawal amount must be positive"
  else if withdrawalFeeBps < 0 ∨ withdrawalFeeBps > maxWithdrawalFeeBps then
    .error ("Withdrawal fee must be between 0 and " ++ toString maxWithdrawalFeeBps ++ " bps")
  else
    let fee := (grossLamports * withdrawalFeeBps).tdiv bpsDenominator
    .ok ⟨grossLamports, fee, grossLamports - fee⟩

/-! ### Instructions -/

/-- An account of an instruction, and what the transaction says of it. -/
structure AccountMeta where
  pubkey : PublicKey
  isSigner : Bool
  isWritable : Bool
deriving DecidableEq

/-- What is sent: the program, its accounts in order, and the data. -/
structure TransactionInstruction where
  programId : PublicKey
  keys : List AccountMeta
  data : Bytes
deriving DecidableEq

/-- `SystemProgram.programId`. -/
def systemProgramId : PublicKey := ⟨List.replicate 32 0, rfl⟩

def readonly (pubkey : PublicKey) : AccountMeta := ⟨pubkey, false, false⟩
def writable (pubkey : PublicKey) : AccountMeta := ⟨pubkey, false, true⟩
def signer (pubkey : PublicKey) (isWritable : Bool := false) : AccountMeta :=
  ⟨pubkey, true, isWritable⟩

/-- A winner, and what they are paid. -/
structure WinnerPayout where
  player : PublicKey
  lamports : ℤ

/-- The loop over the winners: none twice, and every payout above zero. -/
def checkWinners (web3 : Web3) (seen : List String) : List WinnerPayout → Except Thrown Unit
  | [] => .ok ()
  | winner :: winners => do
      let key := web3.toBase58 winner.player
      if key ∈ seen then
        .error (.solanaServiceError s!"Duplicate winner in payout list: {key}")
      else if winner.lamports ≤ 0 then
        .error (.solanaServiceError s!"Payout for {key} must be greater than zero")
      else checkWinners web3 (key :: seen) winners

section Builders
variable (web3 : Web3) (programId : PublicKey)

/-- The player signs for the pool's new lamports. -/
def createDepositInstruction (player : PublicKey) (lamports : ℤ) :
    Except Thrown TransactionInstruction := do
  let config := (findConfigPda web3 programId).1
  let playerAccount := (findPlayerPda web3 programId player).1
  let pool := (findPoolPda web3 programId).1
  let amount ← encodeU64 lamports
  .ok { programId
        keys := [readonly config, writable playerAccount, writable pool, signer player true,
          readonly systemProgramId]
        data := encodeInstruction web3 "deposit" [amount] }

/-- The player signs; the fee goes to the treasury. -/
def createWithdrawInstruction (player : PublicKey) (lamports : ℤ) :
    Except Thrown TransactionInstruction := do
  let config := (findConfigPda web3 programId).1
  let playerAccount := (findPlayerPda web3 programId player).1
  let pool := (findPoolPda web3 programId).1
  let treasury := (findTreasuryPda web3 programId).1
  let amount ← encodeU64 lamports
  .ok { programId
        keys := [readonly config, writable playerAccount, writable pool, writable treasury,
          signer player true, readonly systemProgramId]
        data := encodeInstruction web3 "withdraw" [amount] }

/-- The admin signs for the config, the pool and the treasury. -/
def createInitializeInstruction (admin settlementAuthority feeDestination : PublicKey)
    (feeBps withdrawalFeeBps : Number) : Except Thrown TransactionInstruction := do
  let config := (findConfigPda web3 programId).1
  let pool := (findPoolPda web3 programId).1
  let treasury := (findTreasuryPda web3 programId).1
  let fee ← encodeU16 feeBps
  let withdrawalFee ← encodeU16 withdrawalFeeBps
  .ok { programId
        keys := [writable config, writable pool, writable treasury, signer admin true,
          readonly systemProgramId]
        data := encodeInstruction web3 "initialize"
          [settlementAuthority.toBytes, feeDestination.toBytes, fee, withdrawalFee] }

/-- Every field is optional, and `none` leaves the stored value alone. -/
def createUpdateConfigInstruction (admin : PublicKey) (feeBps withdrawalFeeBps : Option Number)
    (settlementAuthority feeDestination : Option PublicKey) (paused : Option Bool) :
    Except Thrown TransactionInstruction := do
  let config := (findConfigPda web3 programId).1
  let fee ← encodeOption feeBps encodeU16
  let withdrawalFee ← encodeOption withdrawalFeeBps encodeU16
  let authority ← encodeOption settlementAuthority fun k => .ok (encodePubkey k)
  let destination ← encodeOption feeDestination fun k => .ok (encodePubkey k)
  let isPaused ← encodeOption paused fun b => .ok (encodeBool b)
  .ok { programId
        keys := [writable config, signer admin true]
        data := encodeInstruction web3 "update_config"
          [fee, withdrawalFee, authority, destination, isPaused] }

/-- The settlement authority signs, and funds the vault. -/
def createRoomInstruction (settlementAuthority : PublicKey) (roomId : Bytes)
    (entryFeeLamports : ℤ) (maxPlayers : Number) : Except Thrown TransactionInstruction := do
  let roomId ← normalizeRoomId roomId
  let config := (findConfigPda web3 programId).1
  let room ← findRoomPda web3 programId roomId
  let roomVault ← findRoomVaultPda web3 programId roomId
  let id ← encodeFixedBytes roomId roomIdLen
  let entryFee ← encodeU64 entryFeeLamports
  let players ← encodeU16 maxPlayers
  .ok { programId
        keys := [writable config, writable room.1, writable roomVault.1,
          signer settlementAuthority true, readonly systemProgramId]
        data := encodeInstruction web3 "create_room" [id, entryFee, players] }

/-- The player signs for a seat that is not paid yet. -/
def createJoinRoomInstruction (player : PublicKey) (roomId : Bytes) :
    Except Thrown TransactionInstruction := do
  let roomId ← normalizeRoomId roomId
  let config := (findConfigPda web3 programId).1
  let room ← findRoomPda web3 programId roomId
  let roomPlayer := (findRoomPlayerPda web3 programId room.1 player).1
  let playerAccount := (findPlayerPda web3 programId player).1
  .ok { programId
        keys := [readonly config, writable room.1, writable roomPlayer, writable playerAccount,
          signer player true, readonly systemProgramId]
        data := encodeInstruction web3 "join_room" [] }

/-- The player signs for the fee, out of the pool. -/
def createLockEntryFeeInstruction (player : PublicKey) (roomId : Bytes) :
    Except Thrown TransactionInstruction := do
  let roomId ← normalizeRoomId roomId
  let config := (findConfigPda web3 programId).1
  let room ← findRoomPda web3 programId roomId
  let roomPlayer := (findRoomPlayerPda web3 programId room.1 player).1
  let playerAccount := (findPlayerPda web3 programId player).1
  let pool := (findPoolPda web3 programId).1
  let roomVault ← findRoomVaultPda web3 programId roomId
  .ok { programId
        keys := [readonly config, writable room.1, writable roomPlayer, writable playerAccount,
          writable pool, writable roomVault.1, signer player, readonly systemProgramId]
        data := encodeInstruction web3 "lock_entry_fee" [] }

/-- The settlement authority signs. -/
def createStartRoomInstruction (settlementAuthority : PublicKey) (roomId : Bytes) :
    Except Thrown TransactionInstruction := do
  let roomId ← normalizeRoomId roomId
  let config := (findConfigPda web3 programId).1
  let room ← findRoomPda web3 programId roomId
  .ok { programId
        keys := [readonly config, writable room.1, signer settlementAuthority]
        data := encodeInstruction web3 "start_room" [] }

/-- The settlement authority signs. -/
def createUnlockPrizeInstruction (settlementAuthority : PublicKey) (roomId : Bytes) :
    Except Thrown TransactionInstruction := do
  let roomId ← normalizeRoomId roomId
  let config := (findConfigPda web3 programId).1
  let room ← findRoomPda web3 programId roomId
  .ok { programId
        keys := [readonly config, writable room.1, signer settlementAuthority]
        data := encodeInstruction web3 "unlock_prize" [] }

/-- The winners' accounts follow the others as `[RoomPlayer, PlayerAccount]` pairs, in the order
of the payouts. -/
def createDistributeWinningsInstruction (settlementAuthority : PublicKey) (roomId : Bytes)
    (winners : List WinnerPayout) : Except Thrown TransactionInstruction := do
  let count := winners.length
  if count = 0 then .error (.solanaServiceError "At least one winner is required")
  else if count > maxWinnersPerDistribution then
    .error (.solanaServiceError
      s!"At most {maxWinnersPerDistribution} winners per distribution, got {count}")
  else do
    checkWinners web3 [] winners
    let roomId ← normalizeRoomId roomId
    let config := (findConfigPda web3 programId).1
    let room ← findRoomPda web3 programId roomId
    let roomVault ← findRoomVaultPda web3 programId roomId
    let pool := (findPoolPda web3 programId).1
    let treasury := (findTreasuryPda web3 programId).1
    let remaining := winners.flatMap fun winner =>
      [writable (findRoomPlayerPda web3 programId room.1 winner.player).1,
        writable (findPlayerPda web3 programId winner.player).1]
    let payouts ← encodeVec (winners.map (·.lamports)) encodeU64
    .ok { programId
          keys := [readonly config, writable room.1, writable roomVault.1, writable pool,
            writable treasury, signer settlementAuthority, readonly systemProgramId] ++ remaining
          data := encodeInstruction web3 "distribute_winnings" [payouts] }

/-- Whoever cancels signs. -/
def createCancelRoomInstruction (caller : PublicKey) (roomId : Bytes) :
    Except Thrown TransactionInstruction := do
  let roomId ← normalizeRoomId roomId
  let config := (findConfigPda web3 programId).1
  let room ← findRoomPda web3 programId roomId
  .ok { programId
        keys := [readonly config, writable room.1, signer caller]
        data := encodeInstruction web3 "cancel_room" [] }

/-- Whoever claims signs, for a player. -/
def createClaimRefundInstruction (player claimant : PublicKey) (roomId : Bytes) :
    Except Thrown TransactionInstruction := do
  let roomId ← normalizeRoomId roomId
  let config := (findConfigPda web3 programId).1
  let room ← findRoomPda web3 programId roomId
  let roomPlayer := (findRoomPlayerPda web3 programId room.1 player).1
  let playerAccount := (findPlayerPda web3 programId player).1
  let roomVault ← findRoomVaultPda web3 programId roomId
  let pool := (findPoolPda web3 programId).1
  .ok { programId
        keys := [readonly config, writable room.1, writable roomPlayer, writable playerAccount,
          writable roomVault.1, writable pool, readonly player, signer claimant true,
          readonly systemProgramId]
        data := encodeInstruction web3 "claim_refund" [] }

/-- The admin signs. -/
def createWithdrawTreasuryInstruction (admin destination : PublicKey) (lamports : ℤ) :
    Except Thrown TransactionInstruction := do
  let config := (findConfigPda web3 programId).1
  let treasury := (findTreasuryPda web3 programId).1
  let amount ← encodeU64 lamports
  .ok { programId
        keys := [readonly config, writable treasury, writable destination, signer admin,
          readonly systemProgramId]
        data := encodeInstruction web3 "withdraw_treasury" [amount] }

/-- The player signs for seat and fee, out of the wallet. -/
def createEnterRoomInstruction (player : PublicKey) (roomId : Bytes) :
    Except Thrown TransactionInstruction := do
  let roomId ← normalizeRoomId roomId
  let config := (findConfigPda web3 programId).1
  let room ← findRoomPda web3 programId roomId
  let roomPlayer := (findRoomPlayerPda web3 programId room.1 player).1
  let roomVault ← findRoomVaultPda web3 programId roomId
  .ok { programId
        keys := [readonly config, writable room.1, writable roomPlayer, writable roomVault.1,
          signer player, readonly systemProgramId]
        data := encodeInstruction web3 "enter_room" [] }

/-- The settlement authority signs; the winner's wallet is paid. -/
def createSettleToWinnerInstruction (settlementAuthority feeDestination winner : PublicKey)
    (roomId : Bytes) : Except Thrown TransactionInstruction := do
  let roomId ← normalizeRoomId roomId
  let config := (findConfigPda web3 programId).1
  let room ← findRoomPda web3 programId roomId
  let roomVault ← findRoomVaultPda web3 programId roomId
  let winnerRoomPlayer := (findRoomPlayerPda web3 programId room.1 winner).1
  .ok { programId
        keys := [readonly config, writable room.1, writable roomVault.1,
          writable winnerRoomPlayer, writable winner, writable feeDestination,
          signer settlementAuthority, readonly systemProgramId]
        data := encodeInstruction web3 "settle_to_winner" [] }

/-- The settlement authority gets the rents, and is not marked as a signer. -/
def createCloseRoomInstruction (settlementAuthority : PublicKey) (roomId : Bytes) :
    Except Thrown TransactionInstruction := do
  let roomId ← normalizeRoomId roomId
  let config := (findConfigPda web3 programId).1
  let room ← findRoomPda web3 programId roomId
  let roomVault ← findRoomVaultPda web3 programId roomId
  .ok { programId
        keys := [readonly config, writable room.1, writable roomVault.1,
          writable settlementAuthority]
        data := encodeInstruction web3 "close_room" [] }

/-- Anyone may send it; the player gets the rent. -/
def createCloseRoomPlayerInstruction (player : PublicKey) (roomId : Bytes) :
    Except Thrown TransactionInstruction := do
  let roomId ← normalizeRoomId roomId
  let room ← findRoomPda web3 programId roomId
  let roomPlayer := (findRoomPlayerPda web3 programId room.1 player).1
  .ok { programId
        keys := [readonly room.1, writable roomPlayer, writable player]
        data := encodeInstruction web3 "close_room_player" [] }

end Builders

/-- A builder with its parameters. -/
inductive Builder where
  | deposit (player : PublicKey) (lamports : ℤ)
  | withdraw (player : PublicKey) (lamports : ℤ)
  | initializeProgram (admin settlementAuthority feeDestination : PublicKey)
      (feeBps withdrawalFeeBps : Number)
  | updateConfig (admin : PublicKey) (feeBps withdrawalFeeBps : Option Number)
      (settlementAuthority feeDestination : Option PublicKey) (paused : Option Bool)
  | createRoom (settlementAuthority : PublicKey) (roomId : Bytes) (entryFeeLamports : ℤ)
      (maxPlayers : Number)
  | joinRoom (player : PublicKey) (roomId : Bytes)
  | lockEntryFee (player : PublicKey) (roomId : Bytes)
  | startRoom (settlementAuthority : PublicKey) (roomId : Bytes)
  | unlockPrize (settlementAuthority : PublicKey) (roomId : Bytes)
  | distributeWinnings (settlementAuthority : PublicKey) (roomId : Bytes)
      (winners : List WinnerPayout)
  | cancelRoom (caller : PublicKey) (roomId : Bytes)
  | claimRefund (player claimant : PublicKey) (roomId : Bytes)
  | withdrawTreasury (admin destination : PublicKey) (lamports : ℤ)
  | enterRoom (player : PublicKey) (roomId : Bytes)
  | settleToWinner (settlementAuthority feeDestination winner : PublicKey) (roomId : Bytes)
  | closeRoom (settlementAuthority : PublicKey) (roomId : Bytes)
  | closeRoomPlayer (player : PublicKey) (roomId : Bytes)

def Builder.build (web3 : Web3) (programId : PublicKey) :
    Builder → Except Thrown TransactionInstruction
  | .deposit player lamports => createDepositInstruction web3 programId player lamports
  | .withdraw player lamports => createWithdrawInstruction web3 programId player lamports
  | .initializeProgram admin settlementAuthority feeDestination feeBps withdrawalFeeBps =>
      createInitializeInstruction web3 programId admin settlementAuthority feeDestination feeBps
        withdrawalFeeBps
  | .updateConfig admin feeBps withdrawalFeeBps settlementAuthority feeDestination paused =>
      createUpdateConfigInstruction web3 programId admin feeBps withdrawalFeeBps
        settlementAuthority feeDestination paused
  | .createRoom settlementAuthority roomId entryFeeLamports maxPlayers =>
      createRoomInstruction web3 programId settlementAuthority roomId entryFeeLamports maxPlayers
  | .joinRoom player roomId => createJoinRoomInstruction web3 programId player roomId
  | .lockEntryFee player roomId => createLockEntryFeeInstruction web3 programId player roomId
  | .startRoom settlementAuthority roomId =>
      createStartRoomInstruction web3 programId settlementAuthority roomId
  | .unlockPrize settlementAuthority roomId =>
      createUnlockPrizeInstruction web3 programId settlementAuthority roomId
  | .distributeWinnings settlementAuthority roomId winners =>
      createDistributeWinningsInstruction web3 programId settlementAuthority roomId winners
  | .cancelRoom caller roomId => createCancelRoomInstruction web3 programId caller roomId
  | .claimRefund player claimant roomId =>
      createClaimRefundInstruction web3 programId player claimant roomId
  | .withdrawTreasury admin destination lamports =>
      createWithdrawTreasuryInstruction web3 programId admin destination lamports
  | .enterRoom player roomId => createEnterRoomInstruction web3 programId player roomId
  | .settleToWinner settlementAuthority feeDestination winner roomId =>
      createSettleToWinnerInstruction web3 programId settlementAuthority feeDestination winner
        roomId
  | .closeRoom settlementAuthority roomId =>
      createCloseRoomInstruction web3 programId settlementAuthority roomId
  | .closeRoomPlayer player roomId => createCloseRoomPlayerInstruction web3 programId player roomId

end SnakeArena.Sdk
