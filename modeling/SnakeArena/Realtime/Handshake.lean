import SnakeArena.Library.Processes
import SnakeArena.Matchmaker.Match

/-!
# Realtime — the handshake

`io/middleware/authenticate.ts` and `connection-guard.ts`: what a socket passes before the room
sees it.  The connection guard and the ticket are checked in one block; then the ticket that is
registered for the player is taken, and where there is none, the reconnect note decides.

`arena` is the system that tickets live in: any number of requests for a ticket, launches and
handshakes with any of the nodes, over one Redis.
-/

namespace SnakeArena.Realtime
open SnakeArena.Library SnakeArena.Matchmaker

/-! ### The connection guards -/

/-- The guard of a node. -/
def connectionGuard (s : Store) (nodeId : String) : ConnectionGuard :=
  (s.guards.get nodeId).getD .new

/-- An attempt from an address, and whether it is allowed. -/
def tryConnect (s : Store) (nodeId address : String) (now : ℕ) : Bool × Store :=
  let (allowed, guard) :=
    (connectionGuard s nodeId).tryConsume DEFAULT_CONNECTION_GUARD address now
  (allowed, { s with guards := s.guards.upd nodeId guard })

/-! ### The middleware -/

def reconnectWindowSeconds : ℕ := 5 * 60

/-- The await a handshake stops at. -/
inductive EntryPoint where
  | start
  | takeTicket (claims : TicketClaims)
  | getNote (claims : TicketClaims)
  | setNote (claims : TicketClaims) (taken : Option String) (again : Bool)

/-- A socket that connects to a node. -/
structure Entry where
  nodeId : String
  address : String
  ticket : String
  point : EntryPoint

namespace Entry

def goto (p : Entry) (s : Store) (point : EntryPoint) : Store × Option Entry :=
  (s, some { p with point })

def refuse (p : Entry) (s : Store) (message : String) : Store × Option Entry :=
  ({ s with
    history := { s.history with
      refusals := s.history.refusals ++ [⟨p.nodeId, p.ticket, message⟩] } }, none)

/-- A handshake has taken the ticket. -/
def spent (s : Store) (ticket : String) : Bool := decide (ticket ∈ s.history.taken)

/-- The ticket is verified. -/
def verify (config : MatchConfig) (p : Entry) (s : Store) (now : ℕ) : Store × Option Entry :=
  if p.ticket = "" then p.refuse s "PROTOCOL_MISMATCH: no ticket supplied"
  else
    match verifyTicket config.format p.ticket config.jwtSecret now with
    | .error e => p.refuse s ("INVALID_TICKET: " ++ e.message)
    | .ok claims =>
        if claims.nodeId ≠ p.nodeId then
          p.refuse s "INVALID_TICKET: ticket is for a different node"
        else p.goto s (.takeTicket claims)

/-- The socket is let in. -/
def enter (r : ℕ) (p : Entry) (s : Store) (claims : TicketClaims) (taken : Option String)
    (again : Bool) : Store × Option Entry :=
  ({ s with
    history := { s.history with
      admissions := s.history.admissions ++
        [⟨r, p.nodeId, p.ticket, claims, taken, again⟩] } }, none)

def resume (config : MatchConfig) (r : ℕ) (s : Store) (p : Entry) : Answer → Store × Option Entry
  | .throw message => p.refuse s ("INVALID_TICKET: " ++ message)
  | .ok given =>
      match p.point with
      | .start =>
          let (allowed, s) := tryConnect s p.nodeId p.address given.now
          if allowed then p.verify config s given.now
          else p.refuse s "RATE_LIMITED: too many connection attempts"
      -- one command, so that two sockets cannot both find it
      | .takeTicket claims =>
          match s.ticket claims.playerId with
          | some taken =>
              p.goto
                { s with
                  tickets := s.tickets.del claims.playerId
                  history := { s.history with taken := taken :: s.history.taken } }
                (.setNote claims (some taken) false)
          | none => p.goto { s with tickets := s.tickets.del claims.playerId } (.getNote claims)
      | .getNote claims =>
          if s.note claims.playerId ≠ some claims.roomId then
            p.refuse s "INVALID_TICKET: ticket already used or expired"
          else p.goto s (.setNote claims none (spent s p.ticket))
      | .setNote claims taken again =>
          p.enter r (s.setNote claims.playerId claims.roomId (reconnectWindowSeconds * 1000)) claims
            taken again

end Entry

/-! ### The system -/

inductive Flow where
  | matchmake (p : Match)
  | launch (p : Launch)
  | handshake (p : Entry)

inductive Outside where
  /-- Time passes for Redis. -/
  | tick (clock : ℕ)
  /-- A node sweeps its buckets. -/
  | sweep (nodeId : String) (now : ℕ)
  /-- A player leaves a lobby, and drops the seat that a launch was holding. -/
  | dropTicket (playerId : String)
  | dropStaged (playerId : String)

def Outside.apply (s : Store) : Outside → Option Store
  | .tick clock => if s.clock ≤ clock then some { s with clock } else none
  | .sweep nodeId now =>
      some { s with
        guards := s.guards.upd nodeId
          ((connectionGuard s nodeId).sweep DEFAULT_CONNECTION_GUARD now).2 }
  | .dropTicket playerId => some { s with tickets := s.tickets.del playerId }
  | .dropStaged playerId => some { s with staged := s.staged.del playerId }

/-- Requests, launches and handshakes over one Redis. -/
def arena (config : MatchConfig) : Processes Store Flow Answer Outside where
  starts
    | .matchmake p => match p.point with | .loadNodes => true | _ => false
    | .launch p => match p.point with | .readNodeRegistry => true | _ => false
    | .handshake p => match p.point with | .start => true | _ => false
  resume r s flow a :=
    match flow with
    | .matchmake p => (p.resume config s a).map id (Option.map .matchmake)
    | .launch p => (p.resume config s a).map id (Option.map .launch)
    | .handshake p => (p.resume config r s a).map id (Option.map .handshake)
  other := Outside.apply

/-- Before the first request. -/
def Genesis (s : System Store Flow) : Prop :=
  s.store.tickets = .empty ∧ s.store.staged = .empty ∧ s.store.notes = .empty ∧
    s.store.openMatches = .empty ∧ s.store.guards = .empty ∧ s.store.history = emptyHistory ∧
    s.procs = .empty

end SnakeArena.Realtime
