import SnakeArena.Game.Simulation
import SnakeArena.Protocol.Binary

/-!
# Realtime — what a room sends of its world

`broadcastSnapshots` and `buildSnapshot` of `rooms/room.ts`, with the views of `rooms/aoi.ts`: each
viewer gets what is inside their area of interest, encoded about the head of their snake.  The id of
a player is a number here, and `uuid` is its text.
-/

namespace SnakeArena.Realtime
open SnakeArena.Library SnakeArena.Game SnakeArena.Protocol Borsh Buffers

def AOI_RADIUS : ℚ := 1400

/-! ### Areas of interest -/

structure AoiView where
  /-- Entities currently visible to this viewer. -/
  visible : List EntityId
  /-- Entities that became visible since the last snapshot. -/
  entered : List EntityId
  /-- Entities that left the view and must be despawned client-side. -/
  exited : List EntityId

def createAoiView : AoiView := ⟨[], [], []⟩

/-- Diffs the current candidates against what the viewer already has. -/
def updateAoiView (view : AoiView) (candidates : List EntityId) : AoiView where
  visible := candidates.eraseDups
  entered := candidates.filter (· ∉ view.visible)
  exited := view.visible.filter (· ∉ candidates)

/-- The squared distance; nothing is near what is not a number. -/
def withinRadius (a b : Position) (radius : ℚ) : Bool :=
  match a, b with
  | some a, some b =>
      (a.x - b.x) * (a.x - b.x) + (a.y - b.y) * (a.y - b.y) ≤ radius * radius
  | _, _ => false

/-! ### Snapshots -/

/-- The number of 32 bits that a view writes for it. -/
def toUint32 : Game.Num → ℕ
  | .finite q => ((if 0 ≤ q then ⌊q⌋ else ⌈q⌉) % 2 ^ 32).toNat
  | _ => 0

/-- What a snapshot needs of a seat. -/
structure Viewer where
  playerId : ℕ
  aoi : AoiView

section
variable (uuid : ℕ → String) (world : WorldState)

def getByPlayerId (playerId : ℕ) : Option SnakeEntity :=
  (world.playerIndex.get playerId).bind world.snakes.get

/-- The spine is capped: beyond a screen's worth of body the points are invisible. -/
def toSnakeState (snake : SnakeEntity) : SnakeState where
  id := uuid snake.playerId
  nickname := snake.nickname
  points := (List.range (min snake.spineLength 120)).map snake.pointAt
  angle := snake.angle
  mass := snake.mass
  radius := snake.radius
  boosting := snake.boosting
  skinId := none
  isBot := snake.isBot

/-- The snapshot, and the view after it. -/
def buildSnapshot (recentlyRemoved : List ℕ) (seat : Viewer) (origin : Position) :
    Snapshot × AoiView :=
  let snakes := world.snakes.values.filter fun other =>
    other.alive && withinRadius other.headOf origin AOI_RADIUS
  let food := world.food.values.filter fun pellet => withinRadius pellet.position origin AOI_RADIUS
  let view := updateAoiView seat.aoi (snakes.map (·.id))
  ({ tick := world.tick
     serverTime := ⌊world.elapsedMs⌋.toNat
     ackSeq := ((getByPlayerId world seat.playerId).map (toUint32 ·.lastAckSeq)).getD 0
     snakes := snakes.map (toSnakeState uuid)
     food := food.map fun pellet => ⟨pellet.id, pellet.position, pellet.mass, pellet.hue⟩
     removedSnakes := recentlyRemoved.map uuid
     -- the ids of snakes, as the list of pellets
     removedFood := view.exited }, view)

/-- The head of the player's snake, alive or not; without one, the middle of the world. -/
def viewOrigin (playerId : ℕ) : Position :=
  match getByPlayerId world playerId with
  | some snake => snake.headOf
  | none => some ⟨0, 0⟩

/-- What a connected viewer is told of the world. -/
def snapshotFor (recentlyRemoved : List ℕ) (seat : Viewer) : Snapshot :=
  (buildSnapshot uuid world recentlyRemoved seat (viewOrigin world seat.playerId)).1

/-- The payload for each seat that is connected, in `broadcastSnapshots`. -/
def snapshotMessage (recentlyRemoved : List ℕ) (seat : Viewer) : Except RangeError Bytes :=
  encodeSnapshot (snapshotFor uuid world recentlyRemoved seat)
    ⟨viewOrigin world seat.playerId, false⟩

end

end SnakeArena.Realtime
