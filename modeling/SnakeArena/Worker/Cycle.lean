import SnakeArena.Worker.Settle
import Mathlib.Data.List.Sort

/-!
# Worker — the cycle

What runs in the worker beside `settleGame`, over the store that it shares: the stages of the
ten-minute cycle and their jobs (`cycle/worker.ts`, `stages.ts`, `plan.ts`, `queue.ts`), the loop
that settles finished matches (`settle-finished.ts`), the one that opens rooms for queued tiers
(`ensure-rooms.ts`), and the realtime node's report of a result (`room-manager.ts`).

A worker can stop at any await.  Its job is then still in the queue, and is run again, unless
BullMQ gives up on a job that stalled.
-/

namespace SnakeArena.Worker
open SnakeArena.Library SnakeArena.Db SnakeArena.Program SnakeArena.Books

/-! ### The plan -/

inductive CycleStage where
  | createGame | createPool | openLobby | closeLobby | startMatch | endMatch | archiveGame
deriving DecidableEq

/-- The stage that follows, or none at the end of the pipeline. -/
def nextStage : CycleStage → Option CycleStage
  | .createGame => some .createPool
  | .createPool => some .openLobby
  | .openLobby => some .closeLobby
  | .closeLobby => some .startMatch
  | .startMatch => some .endMatch
  | .endMatch => some .archiveGame
  | .archiveGame => none

def CycleStage.text : CycleStage → String
  | .createGame => "create-game"
  | .createPool => "create-pool"
  | .openLobby => "open-lobby"
  | .closeLobby => "close-lobby"
  | .startMatch => "start-match"
  | .endMatch => "end-match"
  | .archiveGame => "archive-game"

/-- The attempt budget of a stage. -/
def attempts : CycleStage → ℕ
  | .createPool => 8
  | .endMatch => 10
  | .createGame | .openLobby | .closeLobby | .startMatch | .archiveGame => 5

/-- `close-lobby` is the first stage that can leave money behind. -/
def holdsMoney : CycleStage → Bool
  | .createGame | .createPool | .openLobby => false
  | .closeLobby | .startMatch | .endMatch | .archiveGame => true

structure RoomTier extends Tier where
  maxPlayers : Option ℕ
  rakeBps : ℕ

def paidTier (id : String) (entryFeeLamports : ℤ) : RoomTier where
  id
  entryFeeLamports
  minPlayers := 2
  maxPlayers := none
  rakeBps := 1000

/-- `ROOM_TIERS`. -/
def roomTiers : List RoomTier :=
  [⟨⟨"practice", 0, 1⟩, none, 0⟩, paidTier "bronze" 10000000, paidTier "silver" 50000000,
    paidTier "gold" 100000000, paidTier "platinum" 500000000, paidTier "diamond" 1000000000,
    paidTier "whale" 5000000000]

def requireTier (id : String) : Option RoomTier := roomTiers.find? (·.id = id)

def cycleDurationMs : ℤ := 10 * 60 * 1000

/-- A tier and the window it plays in. -/
structure CycleId where
  tierId : String
  windowStart : ℤ
deriving DecidableEq

/-- As the marker in a game's row. -/
def CycleId.text (id : CycleId) : String :=
  let tierId := id.tierId
  let windowStart := id.windowStart
  s!"{tierId}:{windowStart}"

/-- The payload of a stage job, and what the queue keeps of it. -/
structure Job where
  cycleId : CycleId
  stage : CycleStage
  gameId : Option ℕ
  attemptsMade : ℕ
  /-- Completed, or failed for good; kept for a while. -/
  finished : Bool
deriving DecidableEq

def Job.hasId (cycleId : CycleId) (stage : CycleStage) (job : Job) : Bool :=
  decide (job.cycleId = cycleId) && decide (job.stage = stage)

/-! ### The store -/

/-- The columns of a game that are written once. -/
structure CatalogueRow where
  gameId : ℕ
  /-- The code of its room. -/
  tierId : String
  startedAt : ℤ
deriving DecidableEq

structure Cycle where
  services : Services
  /-- The rake of each room. -/
  rooms : Table String ℕ
  /-- The games, in the order of their creation. -/
  catalogue : List CatalogueRow
  /-- The game that each lobby was opened for. -/
  lobbyGames : Table String ℕ
  /-- `settle:pending`. -/
  settleQueue : List ℕ
  jobs : List Job

/-- A call of the services for a game. -/
inductive GameCall where
  | createPool (tierId : String)
  | closeLobby (tierId : String) (minPlayers : ℕ)
  | settleGame
  | cancelGameAndRefund
deriving DecidableEq

inductive CycleOp where
  /-- The first thing that a call for a game looks at. -/
  | begins (call : GameCall) (gameId : ℕ)
  /-- What it awaits after that. -/
  | goesOn (gameId : ℕ)
  /-- The result key of a game is written. -/
  | report (gameId : ℕ)
  /-- A game is taken off the settle queue, after this outcome. -/
  | srem (gameId : ℕ) (outcome : SettleOutcome)
  /-- A job is completed, or fails for good. -/
  | finish (cycleId : CycleId) (stage : CycleStage)
  | other
deriving DecidableEq

abbrev CycleProg := Async Cycle CycleOp Reply Unit

namespace Cycle

/-- The upsert of `create-game`; the games of the room read its rake from there. -/
def upsertRoom (tier : RoomTier) (s : Cycle) : Cycle :=
  let games := (s.catalogue.filter (·.tierId = tier.id)).map (·.gameId)
  { s with
    rooms := s.rooms.upd tier.id tier.rakeBps
    services :=
      games.foldl
        (fun services gameId =>
          (services.updateGame gameId fun game => { game with rakeBps := tier.rakeBps }).getD
            services)
        s.services }

/-- The upsert of `bindGame`, which updates nothing. -/
def insertRoom (tier : RoomTier) (s : Cycle) : Cycle :=
  if (s.rooms.get tier.id).isSome then s
  else { s with rooms := s.rooms.upd tier.id tier.rakeBps }

def createGame (row : CatalogueRow) (nodeId : String) (s : Cycle) : Option Cycle :=
  if (s.services.database.games.get row.gameId).isSome then none
  else
    let game := Game.created nodeId ((s.rooms.get row.tierId).getD 0)
    let database :=
      { s.services.database with games := s.services.database.games.upd row.gameId game }
    some
      { s with
        catalogue := s.catalogue ++ [row]
        services := { s.services with database } }

/-- The game of a cycle. -/
def findGame (tierId nodeId : String) (s : Cycle) : Option ℕ :=
  (s.catalogue.find? fun row =>
    decide (row.tierId = tierId) &&
      (s.services.database.games.get row.gameId).any (·.nodeId = nodeId)).map (·.gameId)

/-- A game that the sweep looks for. -/
def sweepable (game : Game) : Bool :=
  (decide (game.status = .running) || decide (game.status = .pending)) &&
    (decide (game.settlementStatus = .pending) || decide (game.settlementStatus = .notRequired))

/-- The twenty of them that started last. -/
def running (s : Cycle) : List ℕ :=
  let games := s.catalogue.filter fun row =>
    (s.services.database.games.get row.gameId).any sweepable
  ((games.insertionSort fun a b => b.startedAt ≤ a.startedAt).take 20).map (·.gameId)

def bindLobby (tierId : String) (gameId : Option ℕ) (s : Cycle) : Cycle :=
  { s with lobbyGames := gameId.elim (s.lobbyGames.del tierId) (s.lobbyGames.upd tierId) }

def resetLobby (tierId : String) (s : Cycle) : Cycle :=
  { s with
    lobbyGames := s.lobbyGames.del tierId
    services := { s.services with lobbies := s.services.lobbies.upd tierId 0 } }

def saveResult (gameId : ℕ) (result : MatchResultReport) (s : Cycle) : Cycle :=
  { s with services := { s.services with results := s.services.results.upd gameId (some result) } }

def sadd (gameId : ℕ) (s : Cycle) : Cycle :=
  if gameId ∈ s.settleQueue then s else { s with settleQueue := s.settleQueue ++ [gameId] }

def srem (gameId : ℕ) (s : Cycle) : Cycle :=
  { s with settleQueue := s.settleQueue.filter (· ≠ gameId) }

def job (cycleId : CycleId) (stage : CycleStage) (s : Cycle) : Option Job :=
  s.jobs.find? (·.hasId cycleId stage)

/-- `queue.add`: a second job of the id is not added. -/
def addJob (job : Job) (s : Cycle) : Cycle :=
  if s.jobs.any (·.hasId job.cycleId job.stage) then s else { s with jobs := s.jobs ++ [job] }

def modifyJob (cycleId : CycleId) (stage : CycleStage) (data : Job → Job) (s : Cycle) : Cycle :=
  { s with jobs := s.jobs.map fun job => if job.hasId cycleId stage then data job else job }

/-- An attempt failed. -/
def countAttempt : CycleId → CycleStage → Cycle → Cycle :=
  fun cycleId stage => modifyJob cycleId stage fun job =>
    { job with attemptsMade := job.attemptsMade + 1 }

def finishJob : CycleId → CycleStage → Cycle → Cycle :=
  fun cycleId stage => modifyJob cycleId stage fun job => { job with finished := true }

end Cycle

/-! ### Awaits -/

section Awaits
variable {β : Type}

/-- Reads something, or throws. -/
def look (f : Cycle → β) (throw : CycleProg) (k : β → CycleProg) : CycleProg :=
  .await .other (fun s _ => s) fun s c => if c.arrival = .answered then k (f s) else throw

/-- Writes something, or throws. -/
def change (op : CycleOp) (f : Cycle → Cycle) (throw k : CycleProg) : CycleProg :=
  .await op (fun s c => if c.arrival = .failed then s else f s)
    fun _ c => if c.arrival = .answered then k else throw

/-- A function of the services. -/
def call (prog : Prog) (throw : CycleProg) (k : Outcome → CycleProg) : CycleProg :=
  .within (·.services) (fun s services => { s with services }) .other throw k prog

/-- A function of the services for a game. -/
def callFor (c : GameCall) (gameId : ℕ) (prog : Prog) (throw : CycleProg)
    (k : Outcome → CycleProg) :
    CycleProg :=
  match prog with
  | .returns o => k o
  | .throws => throw
  | .await _ act next =>
      .await (.begins c gameId) (fun s c => { s with services := act s.services c })
        fun s c =>
          .within (·.services) (fun s services => { s with services }) (.goesOn gameId) throw k
            (next s.services c)

def inTurn (xs : List β) (body : β → CycleProg → CycleProg) (k : CycleProg) : CycleProg :=
  xs.foldr body k

/-- `prisma.game.create`, at a clock. -/
def newGame (tierId : String) (nodeId : ℤ → String) (startedAt : ℤ → ℤ) (throw : CycleProg)
    (k : ℕ → CycleProg) : CycleProg :=
  let create (s : Cycle) (c : Reply) : Option Cycle :=
    s.createGame ⟨c.uuid, tierId, startedAt c.now⟩ (nodeId c.now)
  .await .other (fun s c => if c.arrival = .failed then s else (create s c).getD s)
    fun s c => if c.arrival = .answered ∧ (create s c).isSome then k c.uuid else throw

end Awaits

/-! ### The stages -/

def Services.upsertEscrow (gameId : ℕ) (s : Services) : Services :=
  match s.database.poolAccounts.get (.escrow gameId) with
  | some _ => s
  | none =>
      let account : PoolAccount := ⟨.gameEscrow, 0, 0, 0⟩
      { s with
        database :=
          { s.database with
            poolAccounts := s.database.poolAccounts.upd (.escrow gameId) account } }

namespace StageHandlers
variable (deps : SettleDeps)

def createGame (tier : RoomTier) (cycleId : CycleId) (throw : CycleProg) (ret : ℕ → CycleProg) :
    CycleProg :=
  change .other (Cycle.upsertRoom tier) throw <|
    look (Cycle.findGame tier.id cycleId.text) throw fun
      | some gameId => ret gameId
      | none => newGame tier.id (fun _ => cycleId.text) (fun _ => cycleId.windowStart) throw ret

/-- What an unlimited room passes to `create_room`. -/
def onChainUnlimitedPlayers : ℕ := 65535

/-- `create_room` for a game, where its vault is empty. -/
def openRoom (authority : Pubkey) (tier : RoomTier) (gameId : ℕ)
    (failed : Failure → Prog) (found created : Prog) : Prog :=
  .await .read (fun s _ => s) fun s c =>
    if c.arrival = .answered then
      if 0 < s.chain.lamports (.roomVault (roomIdFromUuid gameId)) then found
      else
        sendSigned deps.runtime .write
          (Call.createRoom authority (roomIdFromUuid gameId) tier.entryFeeLamports.toNat
            (tier.maxPlayers.getD onChainUnlimitedPlayers))
          (fun
            | .ok _ => created
            | .error e => failed e)
          maxAttempts
    else failed .rpc

/-- The escrow account, and the room on chain if somebody is waiting for it. -/
def createPool (tier : RoomTier) (gameId : ℕ) (throw : Prog) (ret : StageResult → Prog) : Prog :=
  if tier.entryFeeLamports = 0 then ret .patch
  else
    read (·.lobbies.get tier.id) throw fun queued =>
      if queued.getD 0 = 0 then ret .patch
      else
        write (fun s => some (s.upsertEscrow gameId)) throw <|
          updateGame gameId id throw <|
            match deps.settlementAuthority with
            | none =>
                failSettlement gameId throw
                  "on-chain settlement disabled: no settlement authority configured" (ret .patch)
            | some authority =>
                let failed (e : Failure) : Prog :=
                  let message := deps.message e
                  failSettlement gameId throw
                    ((s!"create_room failed: {message}").take 500).toString (ret .patch)
                openRoom deps authority tier gameId failed (ret .patch) <|
                  updateGame gameId
                    (fun game =>
                      { game with settlementStatus := .pending, settlementError := none })
                    (failed .rpc) (ret .patch)

def openLobby (tier : RoomTier) (gameId : Option ℕ) (throw : CycleProg)
    (ret : StageResult → CycleProg) : CycleProg :=
  look (·.services.lobbies.get tier.id) throw fun _ =>
    change .other (Cycle.bindLobby tier.id gameId) throw (ret .patch)

def endMatch (gameId : ℕ) (throw : CycleProg) (ret : StageResult → CycleProg) : CycleProg :=
  callFor .settleGame gameId (settleGame deps gameId .throws fun o => .returns (.settle gameId o))
      throw fun
    | .settle _ (.settled ..) | .settle _ .alreadySettled => ret .patch
    | .settle _ (.rejected reasons) =>
        let reasons := "; ".intercalate reasons
        ret (.cancel s!"settlement rejected: {reasons}")
    | .settle _ (.noResult _) | .stage _ => throw

/-- Takes the room's rent back if it can, writes the history, and frees the lobby. -/
def archiveGame (tier : RoomTier) (gameId : ℕ) (throw : CycleProg)
    (ret : StageResult → CycleProg) : CycleProg :=
  let archive : CycleProg :=
    -- the players, and then the game
    look (fun _ => ()) throw fun _ => look (fun s => s.services.database.games.get gameId) throw fun
      | none => ret .patch
      | some _ =>
          -- `match_history`
          change .other id throw <| change .other (Cycle.resetLobby tier.id) throw (ret .patch)
  match deps.settlementAuthority with
  | none => archive
  | some authority =>
      call
        (sendSigned deps.runtime .write (Call.closeRoom authority (roomIdFromUuid gameId))
          (fun _ => .returns (.stage .patch)) maxAttempts)
        archive fun _ => archive

end StageHandlers

open StageHandlers in
/-- `runStage`: what the stage answers, with the game of the next one. -/
def runStage (deps : SettleDeps) (job : Job) (throw : CycleProg)
    (ret : StageResult → Option ℕ → CycleProg) :
    CycleProg :=
  match requireTier job.cycleId.tierId with
  | none => throw
  | some tier =>
      let answer (r : StageResult) : CycleProg := ret r job.gameId
      let answered : Outcome → CycleProg
        | .stage r => answer r
        | .settle .. => throw
      match job.stage, job.gameId with
      | .createGame, _ =>
          StageHandlers.createGame tier job.cycleId throw fun gameId => ret .patch (some gameId)
      | .createPool, some gameId =>
          callFor (.createPool tier.id) gameId
            (createPool deps tier gameId .throws fun r => .returns (.stage r)) throw answered
      | .openLobby, gameId => openLobby tier gameId throw answer
      | .closeLobby, some gameId =>
          callFor (.closeLobby tier.id tier.minPlayers) gameId
            (closeLobby deps tier.toTier gameId .throws fun r => .returns (.stage r)) throw answered
      -- the match is announced to the lobby
      | .startMatch, some _ => change .other id throw (answer .patch)
      | .endMatch, some gameId => endMatch deps gameId throw answer
      | .archiveGame, some gameId => archiveGame deps tier gameId throw answer
      | _, none => throw

/-! ### The jobs -/

/-- Cancels the match and returns what the ledger took.  Whether a cancellation that was refused
is one to let pass (the game is settled, or is not there) is left open. -/
def refundAbandonedMatch (gameId : Option ℕ) (reason : String) (throw k : CycleProg) :
    CycleProg :=
  match gameId with
  | none => k
  | some gameId =>
      callFor .cancelGameAndRefund gameId
        (transaction .throws
          (.await .read (fun s _ => s) fun _ c =>
            if c.arrival = .answered then .returns (.stage .patch) else .throws)
          (cancelGameAndRefund gameId reason) [])
        throw fun _ => k

/-- An attempt that threw: another one follows, unless it was the last.  The text of the error is
left out of the reason. -/
def failJob (job : Job) : CycleProg :=
  let stage := job.stage.text
  let attemptsMade := job.attemptsMade + 1
  if attemptsMade < attempts job.stage then
    change .other (Cycle.countAttempt job.cycleId job.stage) .throws (.returns ())
  else
    change (.finish job.cycleId job.stage) (Cycle.finishJob job.cycleId job.stage) .throws <|
      if holdsMoney job.stage then
        refundAbandonedMatch job.gameId s!"stage {stage} failed after {attemptsMade} attempts"
          (.returns ()) (.returns ())
      else .returns ()

/-- The processor of the queue, on one stage. -/
def runJob (deps : SettleDeps) (cycleId : CycleId) (stage : CycleStage) : CycleProg :=
  look (Cycle.job cycleId stage) .throws fun
    | none => .returns ()
    | some job =>
        if job.finished then .returns ()
        else
          let done : CycleProg :=
            change (.finish cycleId stage) (Cycle.finishJob cycleId stage) .throws (.returns ())
          runStage deps job (failJob job) fun result gameId =>
            match result with
            | .cancel reason => refundAbandonedMatch job.gameId reason (failJob job) done
            | .abort _ => done
            | .patch =>
                match nextStage stage with
                | none => done
                | some following =>
                    change .other (Cycle.addJob ⟨cycleId, following, gameId, 0, false⟩)
                      (failJob job) done

/-- `handleSchedulerTick`: a new window for every tier. -/
def schedulerTick : CycleProg :=
  .await .other (fun s _ => s) fun _ c =>
    let windowStart := c.now / cycleDurationMs * cycleDurationMs
    inTurn roomTiers
      (fun tier k =>
        change .other (Cycle.addJob ⟨⟨tier.id, windowStart⟩, .createGame, none, 0, false⟩) k k)
      (.returns ())

/-! ### The loops -/

section Loops
variable (deps : SettleDeps)

/-- One game of the settle queue. -/
def settleQueued (gameId : ℕ) (k : CycleProg) : CycleProg :=
  callFor .settleGame gameId (settleGame deps gameId .throws fun o => .returns (.settle gameId o)) k
    fun
    | .settle _ (.noResult _) | .stage _ => k
    | .settle gameId outcome => change (.srem gameId outcome) (Cycle.srem gameId) k k

/-- One game of the sweep. -/
def sweepGame (gameId : ℕ) (k : CycleProg) : CycleProg :=
  look (·.services.results.get gameId) .throws fun
    | none => k
    | some _ =>
        callFor .settleGame gameId
          (settleGame deps gameId .throws fun o => .returns (.settle gameId o)) k fun _ => k

/-- The queue, and then the sweep for what it missed. -/
def settleFinished : CycleProg :=
  look (·.settleQueue) .throws fun queued =>
    inTurn queued (settleQueued deps) <|
      look Cycle.running .throws fun running => inTurn running (sweepGame deps) (.returns ())

def EnsureRooms.bindGame (tier : RoomTier) (throw : CycleProg) (k : ℕ → CycleProg) : CycleProg :=
  let id := tier.id
  change .other (Cycle.insertRoom tier) throw <|
    newGame id (fun now => s!"ensure:{id}:{now}") (fun now => now) throw k

/-- A tier that has someone waiting gets a game, and its room on chain. -/
def ensureRoom (authority : Pubkey) (tier : RoomTier) (k : CycleProg) : CycleProg :=
  if tier.entryFeeLamports = 0 then k
  else
    look (fun s => (s.services.lobbies.get tier.id, s.lobbyGames.get tier.id)) k
      fun (players, bound) =>
        if players.getD 0 = 0 then k
        else
          let room (gameId : ℕ) : CycleProg :=
            let done : Prog := .returns (.stage .patch)
            call (StageHandlers.openRoom deps authority tier gameId (fun _ => done) done done) k
              fun _ => k
          match bound with
          | some gameId => room gameId
          | none =>
              EnsureRooms.bindGame tier k fun gameId =>
                change .other (Cycle.bindLobby tier.id (some gameId)) k (room gameId)

def ensureRooms : CycleProg :=
  match deps.settlementAuthority with
  | none => .returns ()
  | some authority => inTurn roomTiers (ensureRoom deps authority) (.returns ())

/-- `reportFinishedMatches`, of one room; after a failure the next tick reports again. -/
def reportFinishedMatch (gameId : ℕ) (result : MatchResultReport) : CycleProg :=
  change (.report gameId) (Cycle.saveResult gameId result) .throws <|
    change .other (Cycle.sadd gameId) .throws (.returns ())

end Loops

/-! ### The system -/

inductive CycleCall where
  | settleFinished
  | ensureRooms
  | schedulerTick
  | runJob (cycleId : CycleId) (stage : CycleStage)
  | report (gameId : ℕ) (result : MatchResultReport)
  /-- The admin route. -/
  | cancel (gameId : ℕ) (reason : String)

/-- What the others do. -/
inductive CycleEvent where
  | exec (now : ℤ) (i : Instruction)
  /-- A transfer of lamports from a wallet. -/
  | transfer (m : Move Pubkey)
  /-- Players join and leave a lobby, and its launch resets it. -/
  | lobby (tierId : String) (players : ℕ) (gameId : Option ℕ)
  | wallets (wallets : List Wallet)
  /-- The other services write, but not to the games. -/
  | books (database : Database)
  /-- An operator puts a failed settlement back. -/
  | retrySettlement (gameId : ℕ)
  /-- The result key lives for a day. -/
  | expireResult (gameId : ℕ)
  /-- BullMQ gives up on a job that stalled. -/
  | stalled (cycleId : CycleId) (stage : CycleStage)
  /-- A finished job is forgotten. -/
  | forget (cycleId : CycleId) (stage : CycleStage)

def cycleEvent (rt : Runtime) (s : Cycle) : CycleEvent → Option Cycle
  | .exec now i => some { s with services := s.services.land rt now i }
  | .transfer m =>
      let chain := s.services.chain
      if m.source.CanSign ∧ m.amount ≤ chain.lamports m.source then
        let chain := { chain with lamports := m.apply chain.lamports }
        some { s with services := { s.services with chain } }
      else none
  | .lobby tierId players gameId =>
      let lobbies := s.services.lobbies.upd tierId players
      some ({ s with services := { s.services with lobbies } }.bindLobby tierId gameId)
  | .wallets wallets => some { s with services := { s.services with wallets } }
  | .books database =>
      let database := { database with games := s.services.database.games }
      some { s with services := { s.services with database } }
  | .retrySettlement gameId =>
      if (s.services.database.games.get gameId).any (·.settlementStatus = .failed) then
        (s.services.updateGame gameId fun game => { game with settlementStatus := .pending }).map
          fun services => { s with services }
      else none
  | .expireResult gameId =>
      some { s with
        services := { s.services with results := s.services.results.del gameId } }
  | .stalled cycleId stage => some (s.finishJob cycleId stage)
  | .forget cycleId stage =>
      some { s with
        jobs := s.jobs.filter fun job => !(job.finished && job.hasId cycleId stage) }

def cycle (deps : SettleDeps) : Functions Cycle CycleOp Reply Unit CycleCall CycleEvent where
  program
    | .settleFinished => settleFinished deps
    | .ensureRooms => ensureRooms deps
    | .schedulerTick => schedulerTick
    | .runJob cycleId stage => runJob deps cycleId stage
    | .report gameId result => reportFinishedMatch gameId result
    | .cancel gameId reason =>
        refundAbandonedMatch (some gameId) reason .throws (.returns ())
  outside := cycleEvent deps.runtime

end SnakeArena.Worker
