import SnakeArena.Realtime.Room

/-!
# Realtime — a live room

What `rooms/room.ts` keeps beside the record of the match: the status of the room, who is
disconnected, and the world of `game-core/src/simulation.ts`, as far as who is in it.  A snake
that dies stays in the world, no longer alive, until its player leaves or respawns.

The geometry of a tick is in floating point.  What it decides is a `Motion`, any at all: the
score each snake has when it has moved and eaten, whether its head is outside the world, and
whose bodies the head touches.  What follows from it is `detectCollisions`.
-/

namespace SnakeArena.Realtime
open SnakeArena.Library SnakeArena.Worker

inductive RoomStatus where
  | warming | active | draining | closed
deriving DecidableEq

structure LiveRoom extends Room where
  status : RoomStatus
  /-- Of the seats whose socket dropped. -/
  disconnectedAtMs : Table ℕ ℕ
  /-- The players of `world.snakes`, in the order they were spawned. -/
  order : List ℕ
  /-- The flag of a snake in the world. -/
  alive : ℕ → Bool
  /-- The players have been told that the match is over. -/
  announced : Bool

/-- What the geometry decides in one tick, by player. -/
structure Motion where
  score : ℕ → ℕ
  /-- The head is outside the world. -/
  wall : ℕ → Bool
  /-- The owners of the body points the head touches, in the order they are found. -/
  touched : ℕ → List ℕ
  /-- The match time after the tick, in whole milliseconds. -/
  elapsedMs : ℕ

inductive DeathCause where
  | collision | wall
deriving DecidableEq

structure DeathEvent where
  victimPlayerId : ℕ
  killerPlayerId : Option ℕ
  cause : DeathCause
  finalScore : ℕ
deriving DecidableEq

namespace LiveRoom

def new (roomId : String) (gameId : Option ℕ) : LiveRoom :=
  { Room.new roomId gameId with
    status := .warming
    disconnectedAtMs := .empty
    order := []
    alive := fun _ => false
    announced := false }

/-- A world without snakes. -/
def start (room : LiveRoom) : LiveRoom :=
  { room with
    snakes := .empty
    order := []
    elapsedMs := 0
    status := .active }

/-! ### The world -/

/-- A player who has a snake keeps it. -/
def spawnSnake (room : LiveRoom) (playerId : ℕ) : LiveRoom :=
  match room.snakes.get playerId with
  | some _ => room
  | none =>
      { room with
        snakes := room.snakes.upd playerId ⟨0, 0⟩
        order := room.order ++ [playerId]
        alive := Function.update room.alive playerId true }

def despawnSnake (room : LiveRoom) (playerId : ℕ) : LiveRoom :=
  { room with
    snakes := room.snakes.del playerId
    order := room.order.filter (· ≠ playerId) }

/-- Inputs, movement and eating: the score of every snake that is alive. -/
def moveSnakes (room : LiveRoom) (motion : Motion) : LiveRoom :=
  { room with
    snakes := room.snakes.map fun playerId snake =>
      if room.alive playerId then { snake with score := motion.score playerId } else snake }

/-- The snake dies, where it is. -/
def kill (room : LiveRoom) (playerId : ℕ) : LiveRoom :=
  { room with alive := Function.update room.alive playerId false }

def credit (room : LiveRoom) (playerId : ℕ) : LiveRoom :=
  { room with
    snakes := room.snakes.map fun p snake =>
      if p = playerId then { snake with kills := snake.kills + 1 } else snake }

/-- One snake of the sweep: outside the world, or in the body of another that is alive. -/
def collide (motion : Motion) (room : LiveRoom) (playerId : ℕ) : LiveRoom × List DeathEvent :=
  match room.snakes.get playerId with
  | none => (room, [])
  | some snake =>
      if ¬room.alive playerId then (room, [])
      else if motion.wall playerId then
        (room.kill playerId, [⟨playerId, none, .wall, snake.score⟩])
      else
        match (motion.touched playerId).find? fun owner =>
          owner ≠ playerId && (room.snakes.get owner).isSome && room.alive owner with
        | none => (room, [])
        | some other =>
            ((room.kill playerId).credit other,
              [⟨playerId, some other, .collision, snake.score⟩])

def detectCollisions (motion : Motion) (room : LiveRoom) : List ℕ → LiveRoom × List DeathEvent
  | [] => (room, [])
  | playerId :: rest =>
      let (room, deaths) := collide motion room playerId
      let (room, later) := detectCollisions motion room rest
      (room, deaths ++ later)

/-- `simulation.step`. -/
def step (room : LiveRoom) (motion : Motion) : LiveRoom × List DeathEvent :=
  let room := room.moveSnakes motion
  let (room, deaths) := detectCollisions motion room room.order
  ({ room with elapsedMs := motion.elapsedMs }, deaths)

/-! ### Membership -/

/-- A reconnect keeps the live snake. -/
def addPlayer (room : LiveRoom) (playerId : ℕ) : LiveRoom :=
  if playerId ∈ room.seats then
    { room with disconnectedAtMs := room.disconnectedAtMs.del playerId }
  else
    let seated := room.toRoom.addPlayer playerId
    { room with
      seats := seated.seats
      entrants := seated.entrants
      nodup := seated.nodup
      disconnectedAtMs := room.disconnectedAtMs.del playerId }.spawnSnake playerId

def markDisconnected (room : LiveRoom) (playerId nowMs : ℕ) : LiveRoom :=
  if playerId ∈ room.seats then
    { room with disconnectedAtMs := room.disconnectedAtMs.upd playerId nowMs }
  else room

/-- Leaving is an elimination. -/
def removePlayer (room : LiveRoom) (playerId : ℕ) : LiveRoom :=
  if playerId ∈ room.seats then
    { room with
      toRoom := room.toRoom.removePlayer playerId
      disconnectedAtMs := room.disconnectedAtMs.del playerId }.despawnSnake playerId
  else room

def respawn (room : LiveRoom) (playerId : ℕ) : LiveRoom :=
  if playerId ∈ room.seats then (room.despawnSnake playerId).spawnSnake playerId else room

/-! ### Tick -/

def die (room : LiveRoom) (death : DeathEvent) : LiveRoom :=
  { room with toRoom := room.toRoom.die death.victimPlayerId death.finalScore }

/-- The seat's grace window is over. -/
def expired (room : LiveRoom) (graceMs nowMs playerId : ℕ) : Bool :=
  match room.disconnectedAtMs.get playerId with
  | none => false
  | some disconnectedAtMs => disconnectedAtMs + graceMs ≤ nowMs

def evictExpiredDisconnects (room : LiveRoom) (graceMs nowMs : ℕ) : LiveRoom :=
  room.seats.foldl (fun room playerId =>
    if room.expired graceMs nowMs playerId then room.removePlayer playerId else room) room

def running (room : LiveRoom) : Bool := room.status = .active || room.status = .draining

def tick (graceMs : ℕ) (room : LiveRoom) (nowMs : ℕ) (motion : Motion) : LiveRoom :=
  if ¬room.running then room
  else
    let (room, deaths) := room.step motion
    (deaths.foldl die room).evictExpiredDisconnects graceMs nowMs

/-! ### The end of the match -/

/-- At most one of at least two holds a seat with a snake in the world. -/
def isResolved (room : LiveRoom) : Bool := room.running && room.toRoom.isResolved

/-- Standings worth handing to settlement. -/
def hasResult (room : LiveRoom) : Bool :=
  !room.reported && room.gameId.isSome && room.isResolved

def withGame (room : LiveRoom) (gameId : Option ℕ) : LiveRoom := { room with gameId }

def markAnnounced (room : LiveRoom) : LiveRoom := { room with announced := true }

def markReported (room : LiveRoom) : LiveRoom := { room with reported := true }

def unmarkReported (room : LiveRoom) : LiveRoom := { room with reported := false }

/-- Stops accepting joins and lets the room empty out. -/
def drain (room : LiveRoom) : LiveRoom := { room with status := .draining }

def close (room : LiveRoom) : LiveRoom :=
  { room with status := .closed, seats := [], disconnectedAtMs := .empty }

end LiveRoom

end SnakeArena.Realtime
