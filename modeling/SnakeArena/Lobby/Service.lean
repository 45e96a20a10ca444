import SnakeArena.Library.Processes
import SnakeArena.Lobby.State

/-!
# Lobby — the service over its store

`service.ts` and `redis-store.ts`, for one tier, with the ready route of the matchmaker
(`routes/lobby.routes.ts`).  A call is a process that stops at each await; any number of
replicas make any number of calls, and each can crash at any await.

The launcher (`plugins/lobbies.ts`) is given the roster; it answers with the game the lobby was
opened for, or with a new id.  The index from players to lobbies is left out: no event reads it.
-/

namespace SnakeArena.Lobby
open SnakeArena.Library

/-- What is handed to `launch`, with the number of the countdown that expired. -/
structure LaunchRequest where
  players : List LobbyPlayer
  gameId : Option ℕ
  countdown : Option ℕ
deriving DecidableEq

structure Store where
  lobby : Option LobbyState
  /-- What was handed to `launch`, in order.  No service stores this. -/
  launches : List LaunchRequest
  /-- How many countdowns began.  No service stores this. -/
  began : ℕ
  /-- The players and games whose payment check succeeded.  No service stores this. -/
  paid : List (ℕ × ℕ)
deriving DecidableEq

def Store.load (s : Store) : LobbyState := s.lobby.getD emptyLobby

/-- The version a save has to expect. -/
def Store.version (s : Store) : ℕ :=
  match s.lobby with
  | none => 0
  | some lobby => lobby.version

/-- `CAS_SCRIPT`.  A countdown that begins is numbered. -/
def Store.save (s : Store) (state : LobbyState) (expectedVersion : ℕ) : Option Store :=
  if s.version = expectedVersion then
    if state.status = .countdown ∧ state.countdown = none then
      some { s with lobby := some { state with countdown := some s.began }, began := s.began + 1 }
    else some { s with lobby := some state }
  else none

/-- The players handed to `launch`, each by the version its join wrote. -/
def Store.handed (s : Store) : List ℕ :=
  s.launches.flatMap fun request => request.players.map (·.joinedVersion)

/-- The await a call stops at, with what it has read so far. -/
inductive CallPoint where
  /-- The ready route, before it reads the lobby. -/
  | readyLobby
  | hasPaid (gameId : ℕ)
  | load
  | save (current : LobbyState) (result : LobbyTransition)
  | launch (state : LobbyState)
  | saveLaunched (state marked : LobbyState)
  | clearPlayers (state marked : LobbyState) (left : List LobbyPlayer)
  | saveReset (state marked : LobbyState)
  | saveFailed (state : LobbyState)

structure Call where
  event : LobbyEvent
  attempt : ℕ
  point : CallPoint

/-- What an await answers.  Where the answer is the lobby, it is the lobby in the store. -/
inductive Answer where
  /-- The await returns, at a clock. -/
  | ok (now : ℕ)
  /-- The write lands, and the await throws. -/
  | lost
  | throw
  | paid (now : ℕ) (paid : Bool)
  /-- `launch` returns, with an id to use when the lobby names no game. -/
  | launched (now : ℕ) (randomUUID : ℕ)
deriving DecidableEq

def maxCasAttempts : ℕ := 5

/-- The loop over the players whose lobby is cleared. -/
def clearPlayers (state marked : LobbyState) : List LobbyPlayer → CallPoint
  | [] => .saveReset state marked
  | player :: left => .clearPlayers state marked (player :: left)

/-- A call, from one await to the next. -/
def Call.resume (tier : RoomTier) (_ : ℕ) (s : Store) (p : Call) (answer : Answer) :
    Store × Option Call :=
  let goto point : Option Call := some { p with point }
  match p.point, answer with
  | .readyLobby, .ok _ =>
      match s.load.gameId with
      | none => (s, none)
      | some gameId => (s, goto (.hasPaid gameId))
  | .readyLobby, _ => (s, none)
  | .hasPaid gameId, .paid _ true =>
      match p.event with
      | .ready playerId ready _ =>
          ({ s with paid := (playerId, gameId) :: s.paid },
            some { p with event := .ready playerId ready (some gameId), point := .load })
      | _ => (s, none)
  | .hasPaid _, _ => (s, none)
  | .load, .ok now =>
      let current := s.load
      let result := reduceLobby current p.event tier now
      if result.rejected ≠ none then (s, none)
      else if ¬result.changed then (s, none)
      else (s, goto (.save current result))
  | .load, _ => (s, none)
  | .save _ _, .throw => (s, none)
  | .save current result, .lost => ((s.save result.state current.version).getD s, none)
  | .save current result, _ =>
      match s.save result.state current.version with
      | none =>
          -- someone else wrote; replay against their state
          if p.attempt + 1 < maxCasAttempts then
            (s, some { p with attempt := p.attempt + 1, point := .load })
          else (s, none)
      | some s =>
          if result.shouldLaunch then
            let state := result.state
            ({ s with launches := s.launches ++ [⟨state.players, state.gameId, state.countdown⟩] },
              goto (.launch state))
          else (s, none)
  | .launch state, .launched now randomUUID =>
      let gameId := state.gameId.getD randomUUID
      (s, goto (.saveLaunched state (reduceLobby state (.launched gameId) tier now).state))
  | .launch state, _ => (s, goto (.saveFailed state))
  | .saveLaunched state _, .throw => (s, goto (.saveFailed state))
  | .saveLaunched state marked, .lost =>
      ((s.save marked state.version).getD s, goto (.saveFailed state))
  | .saveLaunched state marked, _ =>
      ((s.save marked state.version).getD s, goto (clearPlayers state marked state.players))
  | .clearPlayers state marked left, .ok _ => (s, goto (clearPlayers state marked left.tail))
  | .clearPlayers state _ _, _ => (s, goto (.saveFailed state))
  | .saveReset state _, .throw => (s, goto (.saveFailed state))
  | .saveReset state marked, .lost =>
      ((s.save (reduceLobby marked .reset tier 0).state marked.version).getD s,
        goto (.saveFailed state))
  | .saveReset _ marked, _ =>
      ((s.save (reduceLobby marked .reset tier 0).state marked.version).getD s, none)
  | .saveFailed _, .throw => (s, none)
  | .saveFailed state, _ =>
      ((s.save (reduceLobby state .reset tier 0).state state.version).getD s, none)

/-- Before the first call. -/
def noLobby : System Store Call := ⟨⟨none, [], 0, []⟩, .empty⟩

/-- The calls of the service, for any event. -/
def service (tier : RoomTier) : Processes Store Call Answer Empty where
  starts p :=
    match p.attempt, p.point with
    | 0, .readyLobby => true
    | 0, .load => true
    | _, _ => false
  resume := Call.resume tier
  other _ e := nomatch e

/-- The calls the matchmaker and the worker make: in a paid room, a ready flag is set through the
route, which asks the chain. -/
def matchmaker (tier : RoomTier) : Processes Store Call Answer Empty where
  starts p :=
    match p.attempt, p.point, p.event with
    | 0, .readyLobby, .ready _ true none => true
    | 0, .load, .ready _ true none => tier.entryFeeLamports = 0
    | 0, .load, .ready _ false none => true
    | 0, .load, .ready _ _ (some _) => false
    | 0, .load, .launched _ => false
    | 0, .load, _ => true
    | _, _, _ => false
  resume := Call.resume tier
  other _ e := nomatch e

end SnakeArena.Lobby
