import SnakeArena.Matchmaker.Placement
import SnakeArena.Matchmaker.Ticket
import SnakeArena.Library.Table
import SnakeArena.Realtime.ConnectionGuard

/-!
# Matchmaker — a ticket for a player

`routes/match.routes.ts` and the launch of `plugins/lobbies.ts`, from one await to the next.  Each
leaves a ticket under the player's key, where the realtime node takes it, and the room under
another, the reconnect note.

A launch stages the tickets of its players under the same key.  What a player may do with a lobby
is in `Lobby`; here only the game that is bound to a tier counts, and it is what the lobby service
answers.
-/

namespace SnakeArena.Matchmaker
open SnakeArena.Library

/-! ### Redis -/

/-- A value with its `PX`. -/
structure Expiring (α : Type) where
  value : α
  deadline : ℕ

/-- `ticket:meta:`. -/
structure StagedMatch where
  roomId : String
  gameId : String
  tierId : String
  realtimeUrl : String

/-- The world direct entrants to one tier currently share. -/
structure OpenMatch where
  roomId : String
  nodeId : String
  realtimeUrl : String

/-- What `/matchmake` answers. -/
structure MatchTicket where
  playerId : String
  roomId : String
  realtimeUrl : String
  ticket : String
  expiresAt : ℕ

/-- A socket that the realtime node `nodeId` let in. -/
structure Admission where
  socket : ℕ
  nodeId : String
  ticket : String
  /-- What the socket's data is filled from. -/
  claims : TicketClaims
  /-- The registered ticket that its handshake took. -/
  taken : Option String
  /-- The ticket had been taken before, when the handshake read the note. -/
  again : Bool
deriving DecidableEq

/-- A handshake that was turned away. -/
structure Refusal where
  nodeId : String
  ticket : String
  message : String
deriving DecidableEq

/-- What happened.  No service stores any of this. -/
structure History where
  minted : List TicketClaims
  responses : List MatchTicket
  /-- The registered tickets that handshakes took. -/
  taken : List String
  admissions : List Admission
  refusals : List Refusal

structure Store where
  /-- Of Redis. -/
  clock : ℕ
  /-- `matchTicket`, by player. -/
  tickets : Table String (Expiring String)
  /-- `ticket:meta:`, by player. -/
  staged : Table String (Expiring StagedMatch)
  /-- `reconnectRoom`, by player. -/
  notes : Table String (Expiring String)
  /-- `match:open:`, by tier. -/
  openMatches : Table String (Expiring OpenMatch)
  /-- Of each realtime node. -/
  guards : Table String Realtime.ConnectionGuard
  history : History

def emptyHistory : History := ⟨[], [], [], [], []⟩

namespace Store

/-- What a key answers now. -/
def live {α : Type} (s : Store) (held : Option (Expiring α)) : Option α :=
  held.bind fun h => if s.clock ≤ h.deadline then some h.value else none

def ticket (s : Store) (playerId : String) : Option String := s.live (s.tickets.get playerId)

def note (s : Store) (playerId : String) : Option String := s.live (s.notes.get playerId)

def setTicket (s : Store) (playerId ticket : String) (ttlMs : ℕ) : Store :=
  { s with tickets := s.tickets.upd playerId ⟨ticket, s.clock + ttlMs⟩ }

def setStaged (s : Store) (playerId : String) (staged : StagedMatch) (ttlMs : ℕ) : Store :=
  { s with staged := s.staged.upd playerId ⟨staged, s.clock + ttlMs⟩ }

def setNote (s : Store) (playerId roomId : String) (ttlMs : ℕ) : Store :=
  { s with notes := s.notes.upd playerId ⟨roomId, s.clock + ttlMs⟩ }

def setOpenMatch (s : Store) (key : String) (world : OpenMatch) (ttlMs : ℕ) : Store :=
  { s with openMatches := s.openMatches.upd key ⟨world, s.clock + ttlMs⟩ }

def mint (s : Store) (claims : TicketClaims) : Store :=
  { s with history := { s.history with minted := claims :: s.history.minted } }

def respond (s : Store) (response : MatchTicket) : Store :=
  { s with history := { s.history with responses := s.history.responses ++ [response] } }

end Store

/-! ### What the awaits answer -/

structure Given where
  /-- `Date.now()` of the service that resumes. -/
  now : ℕ
  /-- `randomUUID()`. -/
  uuid : String
  /-- The heartbeats of the realtime nodes. -/
  nodes : List NodeCandidate
  /-- The game bound to the tier, from the lobby service. -/
  gameId : Option String

/-- Where the answer is what a key holds, it is what the store holds. -/
inductive Answer where
  | ok (given : Given)
  | throw (message : String)

structure MatchConfig where
  format : TicketFormat
  jwtSecret : String
  heartbeatTtlMs : ℕ
  strategy : PlacementStrategy

def reconnectWindowMs : ℕ := 5 * 60000

def openMatchTtlMs : ℕ := 5 * 60000

/-- A game id without its dashes, cut to 16. -/
def roomOf (gameId : String) : String :=
  String.ofList ((gameId.toList.filter (· ≠ '-')).take 16)

/-! ### `/matchmake` -/

structure MatchRequest where
  playerId : String
  wallet : String
  nickname : Option String
  mode : String
  region : String
  tierId : Option String
deriving DecidableEq

/-- A ticket that is minted, and where it leads. -/
structure Minted where
  ticket : String
  roomId : String
  realtimeUrl : String
  expiresAt : ℕ

/-- The await a request stops at. -/
inductive MatchPoint where
  | loadNodes
  | getStaged (healthy : List NodeCandidate) (decision : PlacementDecision)
  | getIssued (healthy : List NodeCandidate) (decision : PlacementDecision) (staged : StagedMatch)
  | moveStaged (staged : StagedMatch) (issued : String)
  | noteStaged (staged : StagedMatch) (issued : String)
  | delStaged (staged : StagedMatch) (issued : String)
  | delTicket (staged : StagedMatch) (issued : String) (failed : Bool)
  | getLobby (healthy : List NodeCandidate) (decision : PlacementDecision)
  | getOpen (healthy : List NodeCandidate) (decision : PlacementDecision)
  | claimOpen (healthy : List NodeCandidate) (candidate : OpenMatch)
  | getRaced (healthy : List NodeCandidate) (candidate : OpenMatch)
  | overwriteOpen (candidate : OpenMatch)
  | setTicket (minted : Minted)
  | setNote (minted : Minted)

structure Match where
  request : MatchRequest
  point : MatchPoint

namespace Match

def goto (p : Match) (s : Store) (point : MatchPoint) : Store × Option Match :=
  (s, some { p with point })

def openKey (p : Match) : String := "match:open:" ++ p.request.tierId.getD p.request.mode

def nickname (p : Match) : String :=
  p.request.nickname.getD (String.ofList (p.request.playerId.toList.take 8))

/-- The rest of the request, when a launch has staged nothing for the player. -/
def unstaged (p : Match) (s : Store) (healthy : List NodeCandidate) (decision : PlacementDecision) :
    Store × Option Match :=
  if p.request.tierId.isSome then p.goto s (.getLobby healthy decision)
  else p.goto s (.getOpen healthy decision)

def mintFor (config : MatchConfig) (p : Match) (s : Store) (roomId nodeId url : String)
    (gameId : Option String) (now : ℕ) : Store × Option Match :=
  let claims :=
    buildTicketClaims p.request.playerId p.request.wallet roomId nodeId p.nickname gameId now
  p.goto (s.mint claims)
    (.setTicket ⟨mintTicket config.format claims config.jwtSecret, roomId, url, claims.expiresAt⟩)

/-- The shared world is decided. -/
def enter (config : MatchConfig) (p : Match) (s : Store) (world : OpenMatch) (now : ℕ) :
    Store × Option Match :=
  p.mintFor config s world.roomId world.nodeId world.realtimeUrl none now

def hosts (healthy : List NodeCandidate) (nodeId : String) : Bool :=
  healthy.any fun node => decide (node.nodeId = nodeId)

def respond (p : Match) (s : Store) (roomId url ticket : String) (expiresAt : ℕ) :
    Store × Option Match :=
  (s.respond ⟨p.request.playerId, roomId, url, ticket, expiresAt⟩, none)

/-- What an answer leads to. -/
def proceed (config : MatchConfig) (s : Store) (p : Match) (given : Given) : Store × Option Match :=
  let playerId := p.request.playerId
  match p.point with
  | .loadNodes =>
      let healthy := filterHealthy given.nodes config.heartbeatTtlMs given.now
      -- no capacity
      match selectPlacement healthy p.request.region config.strategy with
      | none => (s, none)
      | some decision => p.goto s (.getStaged healthy decision)
  | .getStaged healthy decision =>
      match s.live (s.staged.get playerId) with
      | some staged => p.goto s (.getIssued healthy decision staged)
      | none => p.unstaged s healthy decision
  | .getIssued healthy decision staged =>
      match s.ticket playerId with
      | some issued => p.goto s (.moveStaged staged issued)
      | none => p.unstaged s healthy decision
  | .moveStaged staged issued =>
      p.goto (s.setTicket playerId issued ticketTtlMs) (.noteStaged staged issued)
  | .noteStaged staged issued =>
      p.goto (s.setNote playerId staged.roomId reconnectWindowMs) (.delStaged staged issued)
  | .delStaged staged issued =>
      p.goto { s with staged := s.staged.del playerId } (.delTicket staged issued false)
  -- the key that the ticket was moved to
  | .delTicket staged issued failed =>
      let s := { s with tickets := s.tickets.del playerId }
      if failed then (s, none)
      else p.respond s staged.roomId staged.realtimeUrl issued (given.now + ticketTtlMs)
  | .getLobby healthy decision =>
      match given.gameId with
      | some gameId =>
          p.mintFor config s (roomOf gameId) decision.nodeId decision.advertiseUrl (some gameId)
            given.now
      | none => p.goto s (.getOpen healthy decision)
  | .getOpen healthy decision =>
      match s.live (s.openMatches.get p.openKey) with
      | some world =>
          -- a pointer at a node that has since gone away is worse than none
          if hosts healthy world.nodeId then p.enter config s world given.now
          else
            p.goto s (.claimOpen healthy ⟨roomOf given.uuid, decision.nodeId,
              decision.advertiseUrl⟩)
      | none =>
          p.goto s (.claimOpen healthy ⟨roomOf given.uuid, decision.nodeId, decision.advertiseUrl⟩)
  | .claimOpen healthy candidate =>
      match s.live (s.openMatches.get p.openKey) with
      | none => p.enter config (s.setOpenMatch p.openKey candidate openMatchTtlMs)
          candidate given.now
      | some _ => p.goto s (.getRaced healthy candidate)
  | .getRaced healthy candidate =>
      match s.live (s.openMatches.get p.openKey) with
      | some raced =>
          if hosts healthy raced.nodeId then p.enter config s raced given.now
          else p.goto s (.overwriteOpen candidate)
      | none => p.goto s (.overwriteOpen candidate)
  | .overwriteOpen candidate =>
      p.enter config (s.setOpenMatch p.openKey candidate openMatchTtlMs) candidate given.now
  | .setTicket minted =>
      p.goto (s.setTicket playerId minted.ticket ticketTtlMs) (.setNote minted)
  | .setNote minted =>
      p.respond (s.setNote playerId minted.roomId reconnectWindowMs) minted.roomId
        minted.realtimeUrl minted.ticket minted.expiresAt

/-- A note that cannot be written is done without, and so is the lobby; anything else fails the
request. -/
def fail (s : Store) (p : Match) : Store × Option Match :=
  match p.point with
  | .noteStaged staged issued => p.goto s (.delStaged staged issued)
  | .delStaged staged issued => p.goto s (.delTicket staged issued true)
  | .getLobby healthy decision => p.goto s (.getOpen healthy decision)
  | .setNote minted =>
      p.respond s minted.roomId minted.realtimeUrl minted.ticket minted.expiresAt
  | _ => (s, none)

def resume (config : MatchConfig) (s : Store) (p : Match) : Answer → Store × Option Match
  | .ok given => p.proceed config s given
  | .throw _ => p.fail s

end Match

/-! ### A launch -/

structure Entrant where
  playerId : String
  wallet : String
  nickname : String

structure LaunchRequest where
  tierId : String
  players : List Entrant
  /-- The game this lobby was opened for, if one was prepared. -/
  gameId : Option String

inductive LaunchPoint where
  | readNodeRegistry
  | setTicket (placement : PlacementDecision) (gameId ticket : String) (player : Entrant)
      (rest : List Entrant)
  | setMeta (placement : PlacementDecision) (gameId : String) (player : Entrant)
      (rest : List Entrant)

structure Launch where
  request : LaunchRequest
  point : LaunchPoint

namespace Launch

/-- The next player gets a ticket. -/
def ticketNext (config : MatchConfig) (p : Launch) (s : Store) (placement : PlacementDecision)
    (gameId : String) (now : ℕ) : List Entrant → Store × Option Launch
  | [] => (s, none)
  | player :: rest =>
      let claims := buildTicketClaims player.playerId player.wallet (roomOf gameId)
        placement.nodeId player.nickname (some gameId) now
      (s.mint claims, some { p with
        point := .setTicket placement gameId (mintTicket config.format claims config.jwtSecret)
          player rest })

def resume (config : MatchConfig) (s : Store) (p : Launch) : Answer → Store × Option Launch
  | .throw _ => (s, none)
  | .ok given =>
      match p.point with
      | .readNodeRegistry =>
          let healthy := filterHealthy given.nodes config.heartbeatTtlMs given.now
          match selectPlacement healthy "us-east" config.strategy with
          | none => (s, none)
          | some placement =>
              p.ticketNext config s placement (p.request.gameId.getD given.uuid) given.now
                p.request.players
      | .setTicket placement gameId ticket player rest =>
          (s.setTicket player.playerId ticket 60000,
            some { p with point := .setMeta placement gameId player rest })
      | .setMeta placement gameId player rest =>
          p.ticketNext config
            (s.setStaged player.playerId
              ⟨roomOf gameId, gameId, p.request.tierId, placement.advertiseUrl⟩ 60000)
            placement gameId given.now rest

end Launch

end SnakeArena.Matchmaker
