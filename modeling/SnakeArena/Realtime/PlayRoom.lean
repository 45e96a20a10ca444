import SnakeArena.Game.World
import SnakeArena.Library.Table
import SnakeArena.Realtime.LiveRoom
import SnakeArena.Realtime.Validators

/-!
# Realtime — a room and its world

`rooms/room.ts` over the world it steps, and the handlers of `io/handlers/connection.ts` with the
guards of `io/middleware/rate-limit.ts`, as far as inputs go through them.  Who was eliminated, and
the record of the match, are in `Room` and `LiveRoom`.

`Fair p` is what every handler keeps: the seated have snakes, and `p` is not shadowbanned, unless a
batch of theirs crosses the threshold.
-/

namespace SnakeArena.Realtime
open SnakeArena.Library SnakeArena.Game

/-- What a node is configured with for its rooms. -/
structure RoomConfig where
  game : SimulationConfig
  /-- `MAX_INPUTS_PER_SECOND`, the rate and the burst. -/
  maxInputsPerSecond : ℚ
  maxPlayers : ℕ
  graceMs : ℕ

/-- What the room keeps of a player. -/
structure Seat where
  nickname : String
  socketId : ℕ
  disconnectedAtMs : Option ℕ
  shadowbanned : Bool

/-- A room: its status, its world, and its seats in the order they were taken. -/
structure PlayRoom where
  status : RoomStatus
  world : WorldState
  seats : OrderedMap ℕ Seat

namespace PlayRoom
variable (config : RoomConfig) (maths : Maths)

/-- A room that was just created. -/
def started : PlayRoom := ⟨.active, createWorld config.game maths, .empty⟩

/-- A reconnect reuses the live snake. -/
def addPlayer (room : PlayRoom) (playerId socketId : ℕ) (nickname : String) : PlayRoom :=
  match room.seats.get playerId with
  | some existing =>
      { room with
        seats := room.seats.set playerId { existing with socketId, disconnectedAtMs := none } }
  | none =>
      { room with
        seats := room.seats.set playerId ⟨nickname, socketId, none, false⟩
        world := spawnSnake maths room.world playerId nickname false }

/-- The snake stays in the world for the grace period. -/
def markDisconnected (room : PlayRoom) (playerId nowMs : ℕ) : PlayRoom :=
  { room with
    seats := room.seats.update playerId fun seat => { seat with disconnectedAtMs := some nowMs } }

/-- The seat is given up, and the snake's mass is scattered. -/
def removePlayer (room : PlayRoom) (playerId : ℕ) : PlayRoom :=
  match room.seats.get playerId with
  | none => room
  | some _ =>
      { room with
        seats := room.seats.delete playerId
        world := despawnSnake maths config.game room.world playerId true }

/-- The flag that `applyInput` reads. -/
def setShadowbanned (room : PlayRoom) (playerId : ℕ) (value : Bool) : PlayRoom :=
  { room with seats := room.seats.update playerId fun seat => { seat with shadowbanned := value } }

/-- A shadowbanned player's inputs are accepted and discarded. -/
def applyInput (room : PlayRoom) (playerId : ℕ) (command : InputCommand) : PlayRoom :=
  match room.seats.get playerId with
  | none => room
  | some seat =>
      if seat.shadowbanned then room
      else { room with world := enqueueInput room.world playerId command }

/-- A new snake for the same seat; the old one's mass is not scattered. -/
def respawn (room : PlayRoom) (playerId : ℕ) : PlayRoom :=
  match room.seats.get playerId with
  | none => room
  | some seat =>
      { room with
        world := spawnSnake maths
          (despawnSnake maths config.game room.world playerId false) playerId
          seat.nickname false }

/-- The seats whose grace is over are given up, in their order. -/
def evictExpiredDisconnects (room : PlayRoom) (nowMs : ℕ) : PlayRoom :=
  room.seats.keys.foldl (fun room playerId =>
    match (room.seats.get playerId).bind (·.disconnectedAtMs) with
    | none => room
    | some disconnectedAtMs =>
        if disconnectedAtMs + config.graceMs ≤ nowMs then room.removePlayer config maths playerId
        else room)
    room

/-- One step of the world, and then the evictions; a room that waits or is closed does not move. -/
def tick (room : PlayRoom) (nowMs : ℕ) : PlayRoom :=
  if room.status = .active ∨ room.status = .draining then
    { room with
      world := (step config.game maths room.world).1 }.evictExpiredDisconnects config maths
      nowMs
  else room

/-- No more connections; the match goes on. -/
def drain (room : PlayRoom) : PlayRoom := { room with status := .draining }

/-- Nobody is seated any more. -/
def close (room : PlayRoom) : PlayRoom := { room with status := .closed, seats := .empty }

end PlayRoom

/-! ### The handlers -/

/-- The sockets of a room, and their guards. -/
structure SocketServer where
  room : PlayRoom
  /-- The player of each socket whose handlers are wired, until it closes. -/
  sockets : Table ℕ ℕ
  guards : Table ℕ InputGuardState
  /-- The id of the next socket. -/
  connected : ℕ

namespace SocketServer
variable (config : RoomConfig) (maths : Maths)

/-- The guard of a socket, or a new one. -/
def getGuard (n : SocketServer) (socket now : ℕ) : InputGuardState :=
  (n.guards.get socket).getD (createGuardState now config.maxInputsPerSecond)

/-- A socket that the room does not take is disconnected before its handlers are wired. -/
def connection (n : SocketServer) (playerId : ℕ) (nickname : String) (now : ℕ) : SocketServer :=
  if n.room.status = .draining ∨ n.room.status = .closed ∨
      config.maxPlayers ≤ n.room.seats.size ∧ (n.room.seats.get playerId).isNone then
    { n with connected := n.connected + 1 }
  else
    { room := n.room.addPlayer maths playerId n.connected nickname
      sockets := n.sockets.upd n.connected playerId
      guards := n.guards.upd n.connected (createGuardState now config.maxInputsPerSecond)
      connected := n.connected + 1 }

/-- What a batch is validated with. -/
def validationOptions (now : ℕ) : ValidationOptions where
  now := now
  maxDtMs := 1000 / config.game.tickRateHz
  ratePerSecond := config.maxInputsPerSecond
  burst := config.maxInputsPerSecond

/-- A batch: the guard judges it, the room applies what is accepted, and then the threshold is
checked. -/
def input (n : SocketServer) (socket : ℕ) (commands : List InputCommand) (now : ℕ) :
    Option SocketServer :=
  (n.sockets.get socket).map fun playerId =>
    if !inputBatchSchema commands then n
    else
      let (guard, outcome) :=
        validateInputBatch (n.getGuard config socket now) commands (validationOptions config now)
      let room := outcome.accepted.foldl (fun room => room.applyInput playerId) n.room
      { n with
        room := if shouldShadowban guard then room.setShadowbanned playerId true else room
        guards := n.guards.upd socket guard }

def respawn (n : SocketServer) (socket : ℕ) : Option SocketServer :=
  (n.sockets.get socket).map fun playerId =>
    { n with room := n.room.respawn config maths playerId }

/-- The handlers of the socket are gone with it; the seat stays for the grace period. -/
def disconnect (n : SocketServer) (socket now : ℕ) : Option SocketServer :=
  (n.sockets.get socket).map fun playerId =>
    { n with
      room := n.room.markDisconnected playerId now
      sockets := n.sockets.del socket
      guards := n.guards.del socket }

/-- The server closes the socket of a player who leaves. -/
def leave (n : SocketServer) (socket now : ℕ) : Option SocketServer :=
  (n.sockets.get socket).bind fun playerId =>
    { n with room := n.room.removePlayer config maths playerId }.disconnect socket now

/-- Every ten seconds. -/
def decay (n : SocketServer) : SocketServer :=
  { n with guards := n.guards.map fun _ guard => decaySuspicion guard 2 }

end SocketServer

/-! ### What the handlers keep -/

namespace PlayRoom
variable {config : RoomConfig} {maths : Maths} {room : PlayRoom} {p q : ℕ}

/-- The seated have snakes, and `p` is not shadowbanned. -/
structure Fair (maths : Maths) (p : ℕ) (room : PlayRoom) : Prop where
  sound : room.world.Sound maths
  peopled : ∀ q seat, room.seats.get q = some seat → ∃ id, room.world.playerIndex.get q = some id
  clear : ∀ seat, room.seats.get p = some seat → seat.shadowbanned = false

/-- A spawn leaves its player indexed, and everyone who was. -/
theorem spawnSnake_entry (w : WorldState) (q : ℕ) (nickname : String) (isBot : Bool) (q' : ℕ)
    (h : q' = q ∨ ∃ id, w.playerIndex.get q' = some id) :
    ∃ id, (spawnSnake maths w q nickname isBot).playerIndex.get q' = some id := by
  obtain ⟨⟨s, hs⟩, heq⟩ | ⟨-, position, angle, random, heq⟩ :=
    WorldState.spawnSnake_cases maths w q nickname isBot
  · rw [heq]
    rcases h with rfl | h
    · obtain ⟨id, hid, -⟩ := Option.bind_eq_some_iff.mp hs
      exact ⟨id, hid⟩
    · exact h
  · rw [heq]
    dsimp only
    rw [OrderedMap.get_set]
    split_ifs with hq
    · exact ⟨_, rfl⟩
    · exact h.resolve_left hq

/-- A despawn takes its own player from the index only. -/
theorem despawnSnake_entry (game : SimulationConfig) (w : WorldState) (q : ℕ) (scatter : Bool)
    {q' : ℕ} (hne : q' ≠ q) :
    (despawnSnake maths game w q scatter).playerIndex.get q' = w.playerIndex.get q' := by
  obtain heq | ⟨id, v, -, hfeeds, heq⟩ := WorldState.despawnSnake_cases maths game w q scatter
  · rw [heq]
  · rw [heq]
    dsimp only
    rw [OrderedMap.get_delete, if_neg hne, hfeeds.playerIndex]

/-- An input indexes nobody. -/
theorem enqueueInput_entry (w : WorldState) (q : ℕ) (command : InputCommand) :
    (enqueueInput w q command).playerIndex = w.playerIndex := by
  unfold enqueueInput
  split <;> rfl

/-- An empty room is fair to everyone. -/
theorem fair_started (config : RoomConfig) (maths : Maths) (p : ℕ) :
    (started config maths).Fair maths p :=
  ⟨WorldState.sound_createWorld config.game, nofun, nofun⟩

/-- A new seat has a snake and no flag; a reconnect keeps the seat it had. -/
theorem Fair.addPlayer (h : room.Fair maths p) (q socketId : ℕ) (nickname : String) :
    (room.addPlayer maths q socketId nickname).Fair maths p := by
  unfold PlayRoom.addPlayer
  split
  next existing hexisting =>
    -- the seat of a reconnect keeps its flag, and its snake is in the world already
    refine ⟨h.sound, fun q' seat hseat => ?_, fun seat hseat => ?_⟩ <;> dsimp only at hseat ⊢ <;>
      rw [OrderedMap.get_set] at hseat
    · split at hseat
      next e => exact h.peopled q' existing (e ▸ hexisting)
      · exact h.peopled q' seat hseat
    · split at hseat
      next e =>
        obtain rfl := Option.some.inj hseat
        exact h.clear existing (e ▸ hexisting)
      · exact h.clear seat hseat
  · refine ⟨h.sound.spawnSnake q nickname false, fun q' seat hseat => ?_, fun seat hseat => ?_⟩ <;>
      dsimp only at hseat ⊢ <;> rw [OrderedMap.get_set] at hseat
    · refine spawnSnake_entry _ _ _ _ _ ?_
      split at hseat
      next e => exact .inl e
      · exact .inr (h.peopled q' seat hseat)
    · split at hseat
      · obtain rfl := Option.some.inj hseat
        rfl
      · exact h.clear seat hseat

/-- A seat is rewritten; `p`'s is not flagged. -/
theorem Fair.update (h : room.Fair maths p) (q : ℕ) {f : Seat → Seat}
    (hf : q = p → ∀ seat, seat.shadowbanned = false → (f seat).shadowbanned = false) :
    { room with seats := room.seats.update q f }.Fair maths p := by
  refine ⟨h.sound, fun q' seat hseat => ?_, fun seat hseat => ?_⟩ <;> dsimp only at hseat ⊢ <;>
    rw [OrderedMap.get_update] at hseat
  · split at hseat
    next e =>
      obtain ⟨seat', hseat', -⟩ := Option.map_eq_some_iff.mp hseat
      exact h.peopled q' seat' (e ▸ hseat')
    · exact h.peopled q' seat hseat
  · split at hseat
    next e =>
      obtain ⟨seat', hseat', rfl⟩ := Option.map_eq_some_iff.mp hseat
      exact hf e.symm seat' (h.clear seat' (e ▸ hseat'))
    · exact h.clear seat hseat

/-- A closed socket flags nobody. -/
theorem Fair.markDisconnected (h : room.Fair maths p) (q nowMs : ℕ) :
    (room.markDisconnected q nowMs).Fair maths p := h.update q fun _ _ hseat => hseat

/-- Flagging another player. -/
theorem Fair.setShadowbanned (h : room.Fair maths p) (hne : q ≠ p) (value : Bool) :
    (room.setShadowbanned q value).Fair maths p := h.update q fun e => absurd e hne

/-- A seat given up takes its own snake only. -/
theorem Fair.removePlayer (h : room.Fair maths p) (q : ℕ) :
    (room.removePlayer config maths q).Fair maths p := by
  unfold PlayRoom.removePlayer
  split
  · exact h
  · refine ⟨h.sound.despawnSnake config.game q true, fun q' seat hseat => ?_,
      fun seat hseat => ?_⟩ <;> dsimp only at hseat ⊢ <;> rw [OrderedMap.get_delete] at hseat
    · split at hseat
      · cases hseat
      next hne =>
        rw [despawnSnake_entry _ _ _ _ hne]
        exact h.peopled q' seat hseat
    · split at hseat
      · cases hseat
      · exact h.clear seat hseat

/-- An input moves no seat. -/
theorem Fair.applyInput (h : room.Fair maths p) (q : ℕ) (command : InputCommand) :
    (room.applyInput q command).Fair maths p := by
  unfold PlayRoom.applyInput
  split
  · exact h
  · split_ifs
    · exact h
    · refine ⟨h.sound.enqueueInput q command, fun q' seat hseat => ?_, h.clear⟩
      dsimp only
      rw [enqueueInput_entry]
      exact h.peopled q' seat hseat

/-- The snake is despawned and spawned again, so it is there afterwards. -/
theorem Fair.respawn (h : room.Fair maths p) (q : ℕ) :
    (room.respawn config maths q).Fair maths p := by
  unfold PlayRoom.respawn
  split
  · exact h
  · refine ⟨(h.sound.despawnSnake config.game q false).spawnSnake q _ false,
      fun q' seat hseat => spawnSnake_entry _ _ _ _ _ ?_, h.clear⟩
    by_cases hne : q' = q
    · exact .inl hne
    · rw [despawnSnake_entry _ _ _ _ hne]
      exact .inr (h.peopled q' seat hseat)

/-- The loop over the seats removes players, one after the other. -/
theorem Fair.evict (h : room.Fair maths p) (nowMs : ℕ) :
    (room.evictExpiredDisconnects config maths nowMs).Fair maths p := by
  refine List.foldlRecOn room.seats.keys _ h fun room h q _ => ?_
  split
  · exact h
  · split_ifs
    · exact h.removePlayer q
    · exact h

/-- A step leaves the index, so the seated keep their snakes. -/
theorem Fair.tick (h : room.Fair maths p) (nowMs : ℕ) :
    (room.tick config maths nowMs).Fair maths p := by
  have hstep : Fair maths p { room with world := (step config.game maths room.world).1 } := by
    refine ⟨h.sound.step config.game, fun q seat hseat => ?_, h.clear⟩
    dsimp only
    rw [(WorldState.step_evolves config.game room.world).playerIndex]
    exact h.peopled q seat hseat
  unfold PlayRoom.tick
  split_ifs
  · exact hstep.evict nowMs
  · exact h

/-- Nobody is seated. -/
theorem Fair.close (h : room.Fair maths p) : room.close.Fair maths p := ⟨h.sound, nofun, nofun⟩

end PlayRoom

end SnakeArena.Realtime
