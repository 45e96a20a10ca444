import SnakeArena.Lobby.Versions

/-!
# Lobby — the requests of the service, over all tiers

`join`, `leave`, `setReady`, `tick`, `open`, `close` and `reset` of `service.ts`, over the lobbies
of every tier and the index from players to lobbies (`findPlayerLobby`, `setPlayerLobby`).  A
request runs the call of its event; a join first leaves the lobby that the index names, and a
join or a leave then writes the index.

`reset` clears the index of the roster it gets back, which is empty.
-/

namespace SnakeArena.Lobby
open SnakeArena.Library

variable {T : Type} [DecidableEq T]

structure Lobbies (T : Type) where
  stores : T → Store
  index : Table ℕ T

def noLobbies : Lobbies T := ⟨fun _ => noLobby.store, .empty⟩

/-- How a call ended. -/
inductive Outcome where
  | done | rejected | thrown
deriving DecidableEq

/-- How the call ends, when the answer ends it. -/
def Call.outcome (tier : RoomTier) (s : Store) (p : Call) (answer : Answer) : Outcome :=
  match p.point, answer with
  | .load, .ok now =>
      if (reduceLobby s.load p.event tier now).rejected ≠ none then .rejected else .done
  | .save _ _, .throw | .save _ _, .lost => .thrown
  | .save current _, _ => if s.version = current.version then .done else .thrown
  | .saveReset _ _, _ => .done
  | .saveFailed _, .throw | .saveFailed _, .lost => .thrown
  | .saveFailed _, _ => .done
  | _, _ => .thrown

/-- The await a request stops at. -/
inductive RequestPoint (T : Type) where
  | findPlayerLobby
  /-- The leave inside a join. -/
  | leave (existing : T) (call : Call)
  /-- The leave succeeded; the index is still to be cleared. -/
  | left (existing : T)
  | apply (call : Call)
  | setPlayerLobby

structure Request (T : Type) where
  tierId : T
  event : LobbyEvent
  point : RequestPoint T

/-- The index, once the launch of a call has cleared a player. -/
def cleared (index : Table ℕ T) (point : CallPoint) (answer : Answer) : Table ℕ T :=
  match point, answer with
  | .clearPlayers _ _ (player :: _), .ok _ | .clearPlayers _ _ (player :: _), .lost =>
      index.del player.playerId
  | _, _ => index

/-- A call of the lobby of a tier. -/
def Lobbies.resume (tiers : T → RoomTier) (r : ℕ) (l : Lobbies T) (tierId : T) (call : Call)
    (answer : Answer) : Lobbies T × Option Call :=
  let out := call.resume (tiers tierId) r (l.stores tierId) answer
  (⟨Function.update l.stores tierId out.1, cleared l.index call.point answer⟩, out.2)

/-- A request, from one await to the next. -/
def Request.resume (tiers : T → RoomTier) (r : ℕ) (l : Lobbies T) (q : Request T)
    (answer : Answer) : Lobbies T × Option (Request T) :=
  let goto point : Option (Request T) := some { q with point }
  match q.point, q.event, answer with
  | .findPlayerLobby, .join playerId _ _, .ok _ =>
      -- a player in two lobbies could have their entry fee escrowed twice
      match l.index.get playerId with
      | none => (l, goto (.apply ⟨q.event, 0, .load⟩))
      | some existing =>
          if existing ≠ q.tierId then (l, goto (.leave existing ⟨.leave playerId, 0, .load⟩))
          else (l, goto (.apply ⟨q.event, 0, .load⟩))
  | .findPlayerLobby, _, _ => (l, none)
  | .leave existing call, _, answer =>
      let out := l.resume tiers r existing call answer
      match out.2 with
      | some call => (out.1, goto (.leave existing call))
      | none =>
          match call.outcome (tiers existing) (l.stores existing) answer with
          | .done => (out.1, goto (.left existing))
          | .rejected => (out.1, goto (.apply ⟨q.event, 0, .load⟩))
          | .thrown => (out.1, none)
  | .left _, .join playerId _ _, .ok _ =>
      ({ l with index := l.index.del playerId }, goto (.apply ⟨q.event, 0, .load⟩))
  | .left _, .join playerId _ _, .lost => ({ l with index := l.index.del playerId }, none)
  | .left _, _, _ => (l, none)
  | .apply call, event, answer =>
      let out := l.resume tiers r q.tierId call answer
      match out.2 with
      | some call => (out.1, goto (.apply call))
      | none =>
          match call.outcome (tiers q.tierId) (l.stores q.tierId) answer, event with
          | .done, .join _ _ _ | .done, .leave _ => (out.1, goto .setPlayerLobby)
          | _, _ => (out.1, none)
  | .setPlayerLobby, _, .throw => (l, none)
  | .setPlayerLobby, .join playerId _ _, _ =>
      ({ l with index := l.index.upd playerId q.tierId }, none)
  | .setPlayerLobby, .leave playerId, _ => ({ l with index := l.index.del playerId }, none)
  | .setPlayerLobby, _, _ => (l, none)

section Resume
variable {tiers : T → RoomTier} {r playerId now : ℕ} {l : Lobbies T} {tierId existing : T}
  {event : LobbyEvent} {call : Call} {answer : Answer}
  {nickname : String} {wallet : Program.Pubkey}

theorem Request.resume_find :
    Request.resume tiers r l ⟨tierId, .join playerId nickname wallet, .findPlayerLobby⟩ (.ok now) =
      match l.index.get playerId with
      | none =>
          (l, some ⟨tierId, .join playerId nickname wallet,
            .apply ⟨.join playerId nickname wallet, 0, .load⟩⟩)
      | some existing =>
          if existing ≠ tierId then
            (l, some ⟨tierId, .join playerId nickname wallet,
              .leave existing ⟨.leave playerId, 0, .load⟩⟩)
          else
            (l, some ⟨tierId, .join playerId nickname wallet,
              .apply ⟨.join playerId nickname wallet, 0, .load⟩⟩) := rfl

theorem Request.resume_leave :
    Request.resume tiers r l ⟨tierId, event, .leave existing call⟩ answer =
      match (l.resume tiers r existing call answer).2 with
      | some call' =>
          ((l.resume tiers r existing call answer).1, some ⟨tierId, event, .leave existing call'⟩)
      | none =>
          match call.outcome (tiers existing) (l.stores existing) answer with
          | .done =>
              ((l.resume tiers r existing call answer).1, some ⟨tierId, event, .left existing⟩)
          | .rejected =>
              ((l.resume tiers r existing call answer).1,
                some ⟨tierId, event, .apply ⟨event, 0, .load⟩⟩)
          | .thrown => ((l.resume tiers r existing call answer).1, none) := rfl

theorem Request.resume_apply :
    Request.resume tiers r l ⟨tierId, event, .apply call⟩ answer =
      match (l.resume tiers r tierId call answer).2 with
      | some call' =>
          ((l.resume tiers r tierId call answer).1, some ⟨tierId, event, .apply call'⟩)
      | none =>
          match call.outcome (tiers tierId) (l.stores tierId) answer, event with
          | .done, .join _ _ _ | .done, .leave _ =>
              ((l.resume tiers r tierId call answer).1, some ⟨tierId, event, .setPlayerLobby⟩)
          | _, _ => ((l.resume tiers r tierId call answer).1, none) := rfl

end Resume

/-- The player who joins. -/
def LobbyEvent.joiner : LobbyEvent → Option ℕ
  | .join playerId _ _ => some playerId
  | _ => none

/-- The requests of any number of clients and replicas.  Outside of them, the index forgets a
player whose entry has expired. -/
def requests (tiers : T → RoomTier) : Processes (Lobbies T) (Request T) Answer ℕ where
  starts q :=
    match q.point with
    | .findPlayerLobby => q.event.joiner.isSome
    | .apply call =>
        q.event.joiner.isNone && decide (call.event = q.event) &&
          (service (tiers q.tierId)).starts call
    | .leave _ _ | .left _ | .setPlayerLobby => false
  resume := Request.resume tiers
  other l playerId := some { l with index := l.index.del playerId }

end SnakeArena.Lobby
