import SnakeArena.Game.Types

/-!
# Protocol — snapshots

What the server tells a client of the world, as `protocol/src/schemas.ts` has it.  A position of a
snake whose heading was not a number is none.
-/

namespace SnakeArena.Protocol
open SnakeArena.Game

structure SnakeState where
  /-- A UUID. -/
  id : String
  nickname : String
  /-- Spine points, head first. -/
  points : List Position
  angle : Option ℚ
  mass : ℚ
  radius : ℚ
  boosting : Bool
  skinId : Option String
  isBot : Bool
deriving DecidableEq

structure FoodState where
  id : ℕ
  position : Position
  mass : ℚ
  hue : ℕ
deriving DecidableEq

structure Snapshot where
  tick : ℕ
  /-- In milliseconds since the room started. -/
  serverTime : ℕ
  /-- Last input seq the server applied, for client reconciliation. -/
  ackSeq : ℕ
  snakes : List SnakeState
  food : List FoodState
  /-- Ids that left the AOI or were destroyed. -/
  removedSnakes : List String
  removedFood : List ℕ
deriving DecidableEq

end SnakeArena.Protocol
