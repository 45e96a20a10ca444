import SnakeArena.Books.Calls
import SnakeArena.Library.Async
import SnakeArena.Program.Calls
import SnakeArena.Worker.Entrants
import SnakeArena.Worker.Payout

/-!
# Worker — settling a match

`settleGame` of `settlement/settle.ts`, await by await, over the services it reads and writes:
the database, the result the realtime node left in Redis, and the chain.

An answer can be late for ever: the call happened, and the caller sees a network error.  What a
call that failed says is left to `SettleDeps.message`, of which the code tests only whether it
names one of the program's errors.  The columns that nothing reads are left out, so that the
standings of `game_players` and the notification are awaits with no effect.
-/

namespace SnakeArena.Worker
open SnakeArena.Library SnakeArena.Db SnakeArena.Program SnakeArena.Books

/-! ### The services -/

/-- A window of the table, with the key of a period of it. -/
inductive LeaderboardPeriod where
  | daily (day : ℤ)
  | weekly (year week : ℤ)
  | monthly (year month : ℤ)
  | allTime
deriving DecidableEq

structure LeaderboardEntry where
  score : ℤ
  gamesPlayed : ℕ
  wins : ℕ
  kills : ℤ
deriving DecidableEq

structure Services where
  database : Database
  wallets : List Wallet
  /-- The rewards, by `payout:{gameId}:{playerId}`. -/
  rewards : Table (ℕ × ℕ) ℤ
  leaderboard : Table (LeaderboardPeriod × ℕ) LeaderboardEntry
  /-- `match:result:{gameId}`: a report, or something that is not JSON. -/
  results : Table ℕ (Option MatchResultReport)
  /-- The players queued for each tier. -/
  lobbies : Table String ℕ
  chain : State

inductive Arrival where
  | answered
  /-- It happened, and the answer was lost. -/
  | lost
  | failed
deriving DecidableEq

/-- What an await gets from outside. -/
structure Reply where
  arrival : Arrival := .answered
  /-- A network error that is worth another attempt. -/
  retry : Bool := false
  now : ℤ := 0
  uuid : ℕ := 0
  signature : String := ""
deriving DecidableEq

/-- What an await is for. -/
inductive Op where
  | read
  | write
  | startRoom (gameId : ℕ)
  /-- With the split that is to be recorded. -/
  | unlockPrize (gameId : ℕ) (pot : ℤ) (rakeBps : ℕ)
  | settleToWinner (gameId : ℕ)
deriving DecidableEq

/-- The program rejected the instruction, or the network failed. -/
inductive Failure where
  | program (e : Error)
  | rpc
deriving DecidableEq

structure SettleDeps where
  runtime : Runtime
  /-- Signs on chain, if configured. -/
  settlementAuthority : Option Pubkey
  feeDestination : Pubkey
  /-- The text of a failed call. -/
  message : Failure → String

inductive SettleOutcome where
  | settled (winnerId : ℕ) (split : Split) (signature : Option String)
  | noResult (reason : String)
  | rejected (reasons : List String)
  | alreadySettled
deriving DecidableEq

/-- What a stage of the cycle answers. -/
inductive StageResult where
  | patch
  | abort (reason : String)
  | cancel (reason : String)
deriving DecidableEq

inductive Outcome where
  | settle (gameId : ℕ) (outcome : SettleOutcome)
  | stage (result : StageResult)
deriving DecidableEq

abbrev Prog := Async Services Op Reply Outcome

/-! ### Awaits -/

section Awaits
variable {β : Type}

/-- Reads something, or throws. -/
def read (f : Services → β) (throw : Prog) (k : β → Prog) : Prog :=
  .await .read (fun s _ => s) fun s c => if c.arrival = .answered then k (f s) else throw

/-- Reads something, with a default when that fails. -/
def readOr (f : Services → β) (default : β) (k : β → Prog) : Prog :=
  .await .read (fun s _ => s) fun s c => k (if c.arrival = .answered then f s else default)

/-- Writes something, if it can be written. -/
def write (f : Services → Option Services) (throw k : Prog) : Prog :=
  .await .write (fun s c => if c.arrival = .failed then s else (f s).getD s)
    fun s c => if c.arrival = .answered ∧ (f s).isSome then k else throw

/-- One after the other. -/
def forEach (xs : List β) (body : β → Prog → Prog) (k : Prog) : Prog := xs.foldr body k

def Services.updateGame (gameId : ℕ) (data : Game → Game) (s : Services) : Option Services :=
  (s.database.games.get gameId).map fun game =>
    { s with
      database := { s.database with games := s.database.games.upd gameId (data game) } }

/-- `prisma.game.update`. -/
def updateGame (gameId : ℕ) (data : Game → Game) (throw k : Prog) : Prog :=
  write (Services.updateGame gameId data) throw k

/-- A transaction: its statements are seen when it commits.  None of the errors in it is
caught. -/
def transaction (throw k : Prog) : Books.Prog → List Statement → Prog
  | .done, _ => k
  | .read f, pending =>
      .await .read (fun s _ => s) fun s c =>
        match c.arrival, runAll Database.exec pending s.database with
        | .answered, .ok view => transaction throw k (f view) pending
        | _, _ => throw
  | .execute b f, pending =>
      .await .read (fun s _ => s) fun s c =>
        match c.arrival, runAll Database.exec (pending ++ [b]) s.database with
        | .answered, .ok _ => transaction throw k (f none) (pending ++ [b])
        | _, _ => throw
  | .commit _ next, pending =>
      .await .write
        (fun s c =>
          match c.arrival, runAll Database.exec pending s.database with
          | .answered, .ok database | .lost, .ok database => { s with database }
          | _, _ => s)
        fun s c =>
          match c.arrival, runAll Database.exec pending s.database with
          | .answered, .ok _ => transaction throw k next []
          | _, _ => throw
  | .ask f, pending => .await .read (fun s _ => s) fun _ c =>
      transaction throw k (f (.uuid c.uuid)) pending

/-! ### The chain -/

/-- The state after an instruction, whether it succeeds or not. -/
def Services.land (rt : Runtime) (now : ℤ) (i : Instruction) (s : Services) : Services :=
  match exec rt now s.chain i with
  | .ok t => { s with chain := t.state }
  | .error _ => s

def Services.answer (rt : Runtime) (now : ℤ) (i : Instruction) (s : Services) :
    Except Failure Unit :=
  match exec rt now s.chain i with
  | .ok _ => .ok ()
  | .error e => .error (.program e)

/-- `sendSigned`, with the attempts left: a network error is retried when that is worth it, and
then what the caller learns is what the next copy of the transaction met. -/
def sendSigned (rt : Runtime) (op : Op) (i : Instruction) (k : Except Failure String → Prog) :
    ℕ → Prog
  | 0 => k (.error .rpc)
  | attempts + 1 =>
      .await op (fun s c => if c.arrival = .failed then s else s.land rt c.now i)
        fun s c =>
          if c.arrival = .answered then k ((s.answer rt c.now i).map fun _ => c.signature)
          else if c.retry = true then sendSigned rt op i k attempts
          else k (.error .rpc)

def maxAttempts : ℕ := 4

end Awaits

/-- The message of a program error names it: `PrizeNotUnlocked` or `RoomAlreadySettled`. -/
def isAlreadyDone : Failure → Bool
  | .program (.arena .prizeNotUnlocked) | .program (.arena .roomAlreadySettled) => true
  | _ => false

/-- `/already|InvalidRoomStatus|RoomNotOpen/i`. -/
def isAlreadyStarted : Failure → Bool
  | .program (.arena .roomNotOpen) | .program (.arena .roomAlreadySettled)
  | .program (.arena .alreadyPaid) | .program (.arena .alreadyRefunded)
  | .program (.arena .entryFeeAlreadyLocked) => true
  | _ => false

/-! ### The steps of a settlement -/

section Steps
variable (gameId : ℕ) (throw : Prog)

/-- Whether an account exists at an address. -/
def Services.accountExists (s : Services) (address : Pubkey) : Bool :=
  (s.chain.account address).isSome || decide (0 < s.chain.lamports address)

/-- The loop over the reported players, with those who paid so far. -/
def findPaid (wallets : ℕ → Option Pubkey) (k : List ℕ → Prog) : List ℕ → List ℕ → Prog
  | paid, [] => k paid
  | paid, playerId :: reported =>
      match wallets playerId with
      | none => findPaid wallets k paid reported
      | some address =>
          read (·.accountExists (.roomPlayer (.room (roomIdFromUuid gameId)) address)) throw
            fun found => findPaid wallets k (if found then paid ++ [playerId] else paid) reported

/-- The entrants and the node to check the report against. -/
def adopt (game : Game) (report : MatchResultReport) (k : VerificationContext → Prog) : Prog :=
  if game.gamePlayers = [] then
    let reported := report.standings.map (·.playerId)
    read (resolveWallets ·.wallets reported) throw fun wallets =>
      findPaid gameId throw wallets
        (fun paid =>
          if paid ≠ [] then k ⟨gameId, paid, some report.nodeId⟩
          else k ⟨gameId, game.gamePlayers, some game.nodeId⟩)
        [] reported
  else k ⟨gameId, game.gamePlayers, some game.nodeId⟩

/-- What stands in a vault, and its rent. -/
def readVault (rt : Runtime) (failed : ℤ) (k : ℤ → ℤ → Prog) : Prog :=
  readOr (fun s => (s.chain.lamports (.roomVault (roomIdFromUuid gameId)) : ℤ)) failed
    fun balance => readOr (fun _ => (rt.minimumBalance 0 : ℤ)) 0
      fun rentFloor => k balance rentFloor

def finishGame (status : SettlementStatus) (signature : Option String) (k : Prog) : Prog :=
  updateGame gameId
    (fun game =>
      { game with
        status := .completed
        settlementStatus := status
        settlementSignature := signature <|> game.settlementSignature
        settlementError := none })
    throw k

/-- `BigInt`, and an integer column: neither takes a fraction. -/
def Number.toInt? : Number → Option ℤ
  | some q => if q.den = 1 then some q.num else none
  | none => none

def Services.saveEntry (key : LeaderboardPeriod × ℕ) (entry : Option LeaderboardEntry)
    (s : Services) : Option Services :=
  entry.map fun entry => { s with leaderboard := s.leaderboard.upd key entry }

/-- A match that is not in the window yet. -/
def LeaderboardEntry.first (standing : ReportedStanding) : Option LeaderboardEntry := do
  let score ← Number.toInt? standing.score
  let kills ← Number.toInt? standing.kills
  some ⟨score, 1, if standing.placement = 1 then 1 else 0, kills⟩

/-- The best score of the window, and one game more. -/
def LeaderboardEntry.next (existing : LeaderboardEntry) (standing : ReportedStanding) :
    Option LeaderboardEntry := do
  let score ← Number.toInt? (max ((existing.score : ℚ) : Number) standing.score)
  let kills ← Number.toInt? (((existing.kills : ℚ) : Number) + standing.kills)
  some ⟨score, existing.gamesPlayed + 1,
    existing.wins + if standing.placement = 1 then 1 else 0, kills⟩

/-- Reads the row, and writes what follows from it. -/
def updateEntry (standing : ReportedStanding) (period : LeaderboardPeriod) (k : Prog) : Prog :=
  let key := (period, standing.playerId)
  read (·.leaderboard.get key) throw fun
    | some existing => write (Services.saveEntry key (existing.next standing)) throw k
    | none =>
        write (fun s =>
          if (s.leaderboard.get key).isSome then none
          else s.saveEntry key (LeaderboardEntry.first standing)) throw k

def updateLeaderboard (standings : List ReportedStanding) (k : Prog) : Prog :=
  .await .read (fun s _ => s) fun _ c =>
    forEach standings
      (fun standing k =>
        forEach [.daily (c.now / 86400000), .allTime] (updateEntry throw standing) k)
      k

/-- Best effort: a failed notification never fails a settlement. -/
def notifyPlayers (k : Prog) : Prog := .await .write (fun s _ => s) fun _ _ => k

/-- A reward that is there already is not an error. -/
def createReward (payout : PayoutShare) (k : Prog) : Prog :=
  write
    (fun s =>
      match s.rewards.get (gameId, payout.playerId) with
      | some _ => some s
      | none => some { s with rewards := s.rewards.upd (gameId, payout.playerId) payout.lamports })
    throw k

def recordRewards (payouts : List PayoutShare) (rake : ℤ) (k : Prog) : Prog :=
  forEach payouts (createReward gameId throw) <|
    updateGame gameId
      (fun game =>
        { game with payoutLamports := totalPayout payouts, rakeLamports := rake }) throw <|
      transaction throw k
        (postSettlementLedger gameId (payouts.map fun payout => (payout.playerId, payout.lamports))
          rake) []

end Steps

/-! ### settleGame -/

/-- A settlement that is decided: the report verified, the pot read and split. -/
structure Decided where
  standings : List ReportedStanding
  winnerId : ℕ
  pot : ℤ
  rakeBps : ℕ

def Decided.split (d : Decided) : Split := splitPot d.pot d.rakeBps

def Decided.payouts (d : Decided) : List PayoutShare := computePayouts d.standings d.split.prizePool

section Settle
variable (deps : SettleDeps) (gameId : ℕ) (throw : Prog) (ret : SettleOutcome → Prog)

/-- Records what was paid. -/
def record (d : Decided) (signature : Option String) : Prog :=
  recordRewards gameId throw d.payouts d.split.rake <|
    updateLeaderboard throw d.standings <|
      finishGame gameId throw .confirmed signature <|
        notifyPlayers <| ret (.settled d.winnerId d.split signature)

def failSettlement (error : String) (k : Prog) : Prog :=
  updateGame gameId
    (fun game => { game with settlementStatus := .failed, settlementError := some error }) throw k

/-- Pays the winner on chain, to their own wallet. -/
def payWinner (authority : Pubkey) (d : Decided) : Prog :=
  read (resolveWallets ·.wallets [d.winnerId]) throw fun wallets =>
    match wallets d.winnerId with
    | none =>
        failSettlement gameId throw "winner has no wallet on record" <|
          ret (.rejected ["a winner has no verified wallet on record"])
    | some winner =>
        sendSigned deps.runtime (.settleToWinner gameId)
          (Call.settleToWinner authority deps.feeDestination winner (roomIdFromUuid gameId))
          (fun
            | .ok signature => record gameId throw ret d (some signature)
            | .error e =>
                if isAlreadyDone e then record gameId throw ret d none
                else failSettlement gameId throw (deps.message e) throw)
          maxAttempts

/-- Starts the room if nothing did, unlocks its prize, and pays it. -/
def settleOnChain (authority : Pubkey) (d : Decided) : Prog :=
  let caught (e : Failure) : Prog :=
    if isAlreadyDone e then payWinner deps gameId throw ret authority d else throw
  let unlock : Prog :=
    sendSigned deps.runtime (.unlockPrize gameId d.pot d.rakeBps)
      (Call.unlockPrize authority (roomIdFromUuid gameId))
      (fun
        | .ok _ => payWinner deps gameId throw ret authority d
        | .error e => caught e)
      maxAttempts
  sendSigned deps.runtime (.startRoom gameId) (Call.startRoom authority (roomIdFromUuid gameId))
    (fun
      | .ok _ => unlock
      | .error e => if isAlreadyStarted e then unlock else caught e)
    maxAttempts

/-- Everything here is money, unless the pot is empty. -/
def payOut (d : Decided) : Prog :=
  if d.pot = 0 ∨ d.payouts = [] then
    finishGame gameId throw .notRequired none <|
      updateLeaderboard throw d.standings <|
        notifyPlayers <| ret (.settled d.winnerId ⟨0, 0⟩ none)
  else if withinTransactionLimit d.payouts = false then
    ret (.rejected ["payout list exceeds the per-transaction winner cap"])
  else if totalPayout d.payouts ≠ d.split.prizePool then
    ret (.rejected ["payouts do not sum to the prize pool"])
  else
    updateGame gameId
      (fun game =>
        { game with
          settlementStatus := .pending
          settlementAttempts := game.settlementAttempts + 1 }) throw <|
      match deps.settlementAuthority with
      | some authority => settleOnChain deps gameId throw ret authority d
      | none => record gameId throw ret d none

/-- The pot: what was recorded, or what the vault holds. -/
def readPot (game : Game) (k : ℤ → Prog) : Prog :=
  if game.potLamports = 0 then
    readVault gameId deps.runtime 0 fun balance rentFloor =>
      if balance > rentFloor then
        updateGame gameId (fun game => { game with potLamports := balance - rentFloor }) throw <|
          k (balance - rentFloor)
      else k 0
  else k game.potLamports

/-- An empty vault means the money has already gone. -/
def checkVault (game : Game) (k : Prog) : Prog :=
  if game.potLamports > 0 ∧ deps.settlementAuthority.isSome then
    readVault gameId deps.runtime (-1) fun balance rentFloor =>
      if 0 ≤ balance ∧ balance ≤ rentFloor then
        finishGame gameId throw .confirmed none <| ret .alreadySettled
      else k
  else k

/-- The texts of the failures. -/
def describeFailure : VerificationFailure → String
  | .noStandings => "The report contained no standings"
  | .unknownPlayer => "A reported player never entered this game"
  | .missingPlayer => "An entrant is missing from the report"
  | .duplicatePlayer => "A player appears more than once"
  | .invalidPlacement => "Placements are not a gapless 1..N sequence"
  | .negativeMetric => "A score, kill count or duration was negative or non-finite"
  | .wrongGame => "The report is for a different game"
  | .wrongNode => "The report came from a node that did not host this game"

/-- The report verified, standings, vault and pot read. -/
def settleReport (game : Game) (report : MatchResultReport) : Prog :=
  adopt gameId throw game report fun context =>
    let verified := verifyResult report context
    if verified.ok = false then
      let reasons := verified.failures.map describeFailure
      failSettlement gameId throw ("; ".intercalate reasons) <| ret (.rejected reasons)
    else
      match detectWinner verified with
      | none => ret (.rejected ["no winner in a verified result"])
      | some winner =>
          forEach verified.standings (fun _ => write some throw) <|
            checkVault deps gameId throw ret game <|
              readPot deps gameId throw game fun pot =>
                payOut deps gameId throw ret
                  ⟨verified.standings, winner.playerId, pot, game.rakeBps⟩

/-- The post-game pipeline. -/
def settleGame : Prog :=
  read (·.database.games.get gameId) throw fun
    | none => ret (.noResult "game not found")
    | some game =>
        if game.settlementStatus = .confirmed then ret .alreadySettled
        else if game.status = .cancelled then
          ret (.rejected ["game was cancelled and its entry fees refunded"])
        else
          read (·.results.get gameId) throw fun
            | none => ret (.noResult "realtime node has not reported a result yet")
            | some none => ret (.rejected ["result payload was not valid JSON"])
            | some (some report) => settleReport deps gameId throw ret game report

end Settle

/-! ### The stage that closes the lobby -/

structure Tier where
  id : String
  entryFeeLamports : ℤ
  minPlayers : ℕ

/-- Seals the stakes in the room's own vault, if there are any. -/
def sealPot (deps : SettleDeps) (gameId : ℕ) (throw k : Prog) (pot : ℤ) : Prog :=
  match deps.settlementAuthority with
  | none => k
  | some authority =>
      if pot > 0 then
        sendSigned deps.runtime (.startRoom gameId)
          (Call.startRoom authority (roomIdFromUuid gameId))
          (fun
            | .ok _ => k
            | .error e =>
                if isAlreadyStarted e then k
                else
                  let message := deps.message e
                  failSettlement gameId throw
                    ((s!"start_room failed: {message}").take 500).toString k)
          maxAttempts
      else k

/-- `close-lobby`, of a cycle that has its game: reads the pot from the vault, and seals it. -/
def closeLobby (deps : SettleDeps) (tier : Tier) (gameId : ℕ) (throw : Prog)
    (ret : StageResult → Prog) : Prog :=
  let notEnough (players : ℕ) : Prog :=
    let minimum := tier.minPlayers
    ret (.abort s!"only {players} players; minimum is {minimum}")
  if tier.entryFeeLamports = 0 then ret .patch
  else
    read (·.lobbies.get tier.id) throw fun
      | none => notEnough 0
      | some playerCount =>
          if playerCount < tier.minPlayers then notEnough playerCount
          else
            read (·.database.poolAccounts.get (.escrow gameId)) throw fun escrow =>
              if tier.entryFeeLamports > 0 ∧ escrow = none then
                ret (.abort "escrow pool account is missing; create-pool did not run")
              else
                readVault gameId deps.runtime 0 fun vaultLamports rentFloor =>
                  let pot := if vaultLamports > rentFloor then vaultLamports - rentFloor else 0
                  updateGame gameId
                    (fun game => { game with status := .running, playerCount, potLamports := pot })
                    throw <|
                      sealPot deps gameId throw (ret .patch) pot

end SnakeArena.Worker
