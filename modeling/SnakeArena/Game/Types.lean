import Mathlib.Algebra.Order.Round
import Mathlib.Data.Rat.Floor
import Mathlib.Tactic.NormNum
import SnakeArena.Library.OrderedMap

/-!
# Game — the types of the simulation

`game-core/src/types.ts`, the constants of `protocol/src/constants.ts`, and the functions of one
number in `game-core/src/simulation.ts`.

Numbers are rationals, and their arithmetic is exact; `Maths` is what the platform computes for a
square root or a cosine, any functions at all.  A heading that is not finite makes the heading of
the snake, and then both coordinates of its head, `NaN`: those are options, where none is `NaN`.
-/

namespace SnakeArena.Game
open SnakeArena.Library

/-! ### Constants -/

def BASE_SPEED : ℚ := 220
def BOOST_SPEED_MULTIPLIER : ℚ := 19 / 10
/-- Mass drained per second while boosting. -/
def BOOST_MASS_DRAIN_PER_SECOND : ℚ := 4
def MIN_BOOST_MASS : ℚ := 20
def STARTING_MASS : ℚ := 10
def MAX_TURN_RATE_RAD_PER_SEC : ℚ := 42 / 10
/-- Distance between recorded spine points. -/
def SEGMENT_SPACING : ℚ := 12
def FOOD_MASS_MIN : ℚ := 1
def FOOD_MASS_MAX : ℚ := 6
def SPINE_CAPACITY : ℕ := 420
/-- `Math.PI`, the double. -/
def PI : ℚ := 884279719003555 / 281474976710656

/-! ### Numbers -/

/-- Any number that a message can carry. -/
inductive Num where
  | finite (q : ℚ)
  | infinity
  | negInfinity
  | nan
deriving DecidableEq

namespace Num

/-- Nothing is less than `NaN`, or greater. -/
def lt : Num → Num → Bool
  | .finite a, .finite b => a < b
  | .negInfinity, .finite _ | .negInfinity, .infinity | .finite _, .infinity => true
  | _, _ => false

def finite? : Num → Option ℚ
  | .finite q => some q
  | _ => none

end Num

/-- What the platform computes. -/
structure Maths where
  sqrt : ℚ → ℚ
  cos : ℚ → ℚ
  sin : ℚ → ℚ
  hypot : ℚ → ℚ → ℚ

structure Vec where
  x : ℚ
  y : ℚ
deriving DecidableEq

/-- Its coordinates become `NaN` together. -/
abbrev Position := Option Vec

/-- `Math.hypot` of a difference. -/
def distance (maths : Maths) : Position → Position → Option ℚ
  | some p, some q => some (maths.hypot (p.x - q.x) (p.y - q.y))
  | _, _ => none

/-- The number is, and is not greater. -/
def atMost (d : Option ℚ) (bound : ℚ) : Bool := d.any (· ≤ bound)

/-- `x % y`: the remainder has the sign of `x`. -/
def remainder (x y : ℚ) : ℚ := x - y * (if 0 ≤ x / y then ⌊x / y⌋ else ⌈x / y⌉)

/-- Shortest signed angular difference. -/
def angleDelta (start goal : ℚ) : ℚ :=
  let delta := remainder (goal - start) (PI * 2)
  let delta := if PI < delta then delta - PI * 2 else delta
  if delta < -PI then delta + PI * 2 else delta

/-- One draw of `createRng`, and the state after it. -/
@[irreducible] def nextRandom (state : UInt32) : ℚ × UInt32 :=
  let state := state + 0x6d2b79f5
  let t := (state ^^^ (state >>> 15)) * (state ||| 1)
  let t := t ^^^ (t + (t ^^^ (t >>> 7)) * (t ||| 61))
  ((t ^^^ (t >>> 14)).toNat / 4294967296, state)

/-- Body radius grows with the square root of mass. -/
def radiusForMass (maths : Maths) (mass : ℚ) : ℚ := 8 + maths.sqrt (max 0 mass) * (8 / 5)

/-- Spine points a snake of this mass should carry. -/
def lengthForMass (mass : ℚ) : ℕ := min 400 ⌊6 + max 0 mass * (9 / 10)⌋₊

/-- Mass is the only input. -/
def scoreForMass (mass : ℚ) : ℕ := ⌊(mass - STARTING_MASS) * 10⌋.toNat

/-! ### Entities -/

abbrev EntityId := ℕ

/-- One sampled input. -/
structure InputCommand where
  seq : Num
  angle : Num
  boost : Bool
  dt : Num
deriving DecidableEq

/-- What the inputs of a snake set. -/
structure Steering where
  /-- An infinite one turns no snake, like `NaN`. -/
  targetAngle : Option ℚ
  boosting : Bool
  /-- Last input sequence applied. -/
  lastAckSeq : Num

structure SnakeEntity extends Steering where
  id : EntityId
  playerId : ℕ
  nickname : String
  /-- The ring buffer. -/
  spine : ℕ → Position
  /-- Point index of the head within `spine`. -/
  headIndex : ℕ
  /-- How many points are currently valid. -/
  spineLength : ℕ
  spineCapacity : ℕ
  angle : Option ℚ
  speed : ℚ
  mass : ℚ
  radius : ℚ
  alive : Bool
  isBot : Bool
  spawnedAtTick : ℕ
  kills : ℕ
  score : ℕ
  /-- Fractional mass drained by boosting. -/
  boostDebt : ℚ
  /-- Distance travelled since the last spine point was recorded. -/
  sinceLastPoint : ℚ

structure FoodEntity where
  id : EntityId
  position : Position
  mass : ℚ
  hue : ℕ
  expiresAtTick : Option ℕ
deriving DecidableEq

structure WorldState where
  tick : ℕ
  elapsedMs : ℚ
  snakes : OrderedMap EntityId SnakeEntity
  food : OrderedMap EntityId FoodEntity
  /-- `playerId → entity id`. -/
  playerIndex : OrderedMap ℕ EntityId
  /-- Inputs queued since the last step, per entity. -/
  pendingInputs : OrderedMap EntityId (List InputCommand)
  nextEntityId : EntityId
  radius : ℚ
  /-- The state of the seeded generator. -/
  random : UInt32

structure SimulationConfig where
  tickRateHz : ℕ
  tickRateHz_pos : 0 < tickRateHz
  worldRadius : ℚ
  cellSize : ℚ
  cellSize_pos : 0 < cellSize
  seed : UInt32
  targetFood : Option ℕ

inductive DeathCause where
  | collision | wall
deriving DecidableEq

structure DeathEvent where
  victim : EntityId
  victimPlayerId : ℕ
  killer : Option EntityId
  killerPlayerId : Option ℕ
  cause : DeathCause
  finalScore : ℕ
deriving DecidableEq

structure TickResult where
  tick : ℕ
  deaths : List DeathEvent
  foodConsumed : ℕ
  foodSpawned : ℕ

end SnakeArena.Game
