import SnakeArena.Game.SpatialHash

/-!
# Game — the simulation

`game-core/src/simulation.ts`: a world, and what a step does to it, phase by phase.
-/

namespace SnakeArena.Game
open SnakeArena.Library

/-! ### Spine access -/

namespace SnakeEntity
variable (snake : SnakeEntity)

def headOf : Position := snake.spine snake.headIndex

/-- The index of the point at an offset from the head. -/
def pointIndex (offset : ℕ) : ℕ :=
  (snake.headIndex + snake.spineCapacity - min offset (snake.spineLength - 1)) % snake.spineCapacity

/-- `offset` 0 is the head, increasing towards the tail. -/
def pointAt (offset : ℕ) : Position := snake.spine (snake.pointIndex offset)

/-- How many points a snake of this mass carries. -/
def capacity (mass : ℚ) : ℕ := min (lengthForMass mass) snake.spineCapacity

def pushPoint (p : Position) : SnakeEntity :=
  let headIndex := (snake.headIndex + 1) % snake.spineCapacity
  { snake with
    headIndex
    spine := Function.update snake.spine headIndex p
    spineLength := min (snake.spineLength + 1) (snake.capacity snake.mass) }

def setMass (maths : Maths) (mass : ℚ) : SnakeEntity :=
  let mass := max 1 mass
  { snake with
    mass
    radius := radiusForMass maths mass
    score := scoreForMass mass
    spineLength := min snake.spineLength (snake.capacity mass) }

end SnakeEntity

/-! ### Entities -/

section Entities
variable (maths : Maths)

def WorldState.draw (world : WorldState) : ℚ × WorldState :=
  let (u, random) := nextRandom world.random
  (u, { world with random })

/-- A point of the disc, uniformly. -/
def WorldState.drawPoint (world : WorldState) (share : ℚ) : Vec × WorldState :=
  let (u, world) := world.draw
  let r := maths.sqrt u * world.radius * share
  let (v, world) := world.draw
  let theta := v * PI * 2
  (⟨maths.cos theta * r, maths.sin theta * r⟩, world)

/-- The least distance to the head of a snake, if there is one. -/
def WorldState.nearest (world : WorldState) (candidate : Vec) : Option ℚ :=
  (world.snakes.values.filter (·.alive)).foldl
    (fun nearest snake =>
      match distance maths snake.headOf (some candidate), nearest with
      | some d, none => some d
      | some d, some n => if d < n then some d else some n
      | none, n => n)
    none

/-- Bounded attempts, then the best candidate found. -/
def findSpawnLoop : ℕ → WorldState → Vec → ℚ → Vec × WorldState
  | 0, world, best, _ => (best, world)
  | attempts + 1, world, best, bestDistance =>
      let (candidate, world) := world.drawPoint maths (85 / 100)
      match world.nearest maths candidate with
      | none => (candidate, world)
      | some nearest =>
          if 400 < nearest then (candidate, world)
          else if bestDistance < nearest then findSpawnLoop attempts world candidate nearest
          else findSpawnLoop attempts world best bestDistance

def findSpawnPoint (world : WorldState) : Vec × WorldState :=
  findSpawnLoop maths 12 world ⟨0, 0⟩ (-1)

/-- A fresh snake, with the tail behind the head. -/
def SnakeEntity.fresh (id : EntityId) (playerId : ℕ) (nickname : String) (isBot : Bool)
    (spawnedAtTick : ℕ) (position : Vec) (angle : ℚ) : SnakeEntity where
  id := id
  playerId := playerId
  nickname := nickname
  spine index :=
    let i := (SPINE_CAPACITY - index) % SPINE_CAPACITY
    if i < lengthForMass STARTING_MASS then
      some ⟨position.x - maths.cos angle * SEGMENT_SPACING * i,
        position.y - maths.sin angle * SEGMENT_SPACING * i⟩
    else some ⟨0, 0⟩
  headIndex := 0
  spineLength := lengthForMass STARTING_MASS
  spineCapacity := SPINE_CAPACITY
  angle := some angle
  targetAngle := some angle
  speed := BASE_SPEED
  mass := STARTING_MASS
  radius := radiusForMass maths STARTING_MASS
  boosting := false
  alive := true
  isBot := isBot
  lastAckSeq := .finite 0
  spawnedAtTick := spawnedAtTick
  kills := 0
  score := 0
  boostDebt := 0
  sinceLastPoint := 0

/-- A player who has a snake keeps it. -/
def spawnSnake (world : WorldState) (playerId : ℕ) (nickname : String) (isBot : Bool) :
    WorldState :=
  match (world.playerIndex.get playerId).bind world.snakes.get with
  | some _ => world
  | none =>
      let (position, world) := findSpawnPoint maths world
      let (u, world) := world.draw
      let id := world.nextEntityId
      let snake := SnakeEntity.fresh maths id playerId nickname isBot world.tick
        position (u * PI * 2)
      { world with
        snakes := world.snakes.set id snake
        playerIndex := world.playerIndex.set playerId id
        nextEntityId := id + 1 }

/-- At a place, or anywhere; of a mass, or of any. -/
def spawnFood (world : WorldState) (place : Option Position) (mass : Option ℚ) :
    EntityId × WorldState :=
  let (position, world) :=
    match place with
    | some position => (position, world)
    | none =>
        let (p, world) := world.drawPoint maths (97 / 100)
        (some p, world)
  let id := world.nextEntityId
  let (mass, world) :=
    match mass with
    | some mass => (mass, world)
    | none =>
        let (u, world) := world.draw
        (FOOD_MASS_MIN + u * (FOOD_MASS_MAX - FOOD_MASS_MIN), world)
  let (u, world) := world.draw
  (id,
    { world with
      food := world.food.set id ⟨id, position, mass, ⌊u * 360⌋₊, none⟩
      nextEntityId := id + 1 })

def spawnFoods : ℕ → WorldState → WorldState
  | 0, world => world
  | n + 1, world => spawnFoods n (spawnFood maths world none none).2

/-- One pellet of a dead snake, which expires after two minutes. -/
def scatterOne (config : SimulationConfig) (snake : SnakeEntity) (drops : ℕ) (per : ℚ)
    (world : WorldState) (i : ℕ) : WorldState :=
  let point := snake.pointAt (⌊(i / drops : ℚ) * snake.spineLength⌋₊)
  let (u, world) := world.draw
  let (v, world) := world.draw
  let place := point.map fun p => (⟨p.x + (u - 1 / 2) * 30, p.y + (v - 1 / 2) * 30⟩ : Vec)
  let (id, world) := spawnFood maths world (some place) (some per)
  { world with
    food := world.food.update id fun food =>
      { food with expiresAtTick := some (world.tick + config.tickRateHz * 120) } }

/-- Drops a dead snake's mass as food. -/
def scatterMass (config : SimulationConfig) (world : WorldState) (snake : SnakeEntity) :
    WorldState :=
  let total := snake.mass * (6 / 10)
  let drops := min 60 (max 3 ⌊total / 4⌋₊)
  (List.range drops).foldl (scatterOne maths config snake drops (total / drops)) world

def despawnSnake (config : SimulationConfig) (world : WorldState) (playerId : ℕ) (scatter : Bool) :
    WorldState :=
  match world.playerIndex.get playerId with
  | none => world
  | some id =>
      let world :=
        match world.snakes.get id with
        | some snake => if scatter then scatterMass maths config world snake else world
        | none => world
      { world with
        snakes := world.snakes.delete id
        playerIndex := world.playerIndex.delete playerId
        pendingInputs := world.pendingInputs.delete id }

end Entities

/-! ### Input -/

def enqueueInput (world : WorldState) (playerId : ℕ) (command : InputCommand) : WorldState :=
  match world.playerIndex.get playerId with
  | none => world
  | some id =>
      let queue := (world.pendingInputs.get id).getD []
      { world with pendingInputs := world.pendingInputs.set id (queue ++ [command]) }

/-- One command of the queue: an old one is superseded. -/
def Steering.apply (s : Steering) (command : InputCommand) : Steering :=
  if s.lastAckSeq.lt command.seq then ⟨command.angle.finite?, command.boost, command.seq⟩ else s

def applyInputs (world : WorldState) : WorldState :=
  { world with
    snakes := world.snakes.mapValues fun id snake =>
      match world.pendingInputs.get id with
      | some queue =>
          if snake.alive then
            { snake with toSteering := queue.foldl Steering.apply snake.toSteering }
          else snake
      | none => snake
    pendingInputs := world.pendingInputs.mapValues fun _ _ => [] }

/-! ### Movement -/

section Step
variable (config : SimulationConfig) (maths : Maths)

def SimulationConfig.dtSeconds : ℚ := 1 / config.tickRateHz

def maxTurn : ℚ := MAX_TURN_RATE_RAD_PER_SEC * config.dtSeconds

/-- Turn rate is clamped. -/
def turn (angle targetAngle : Option ℚ) : Option ℚ :=
  match angle, targetAngle with
  | some angle, some targetAngle =>
      some (angle + max (-maxTurn config) (min (maxTurn config) (angleDelta angle targetAngle)))
  | _, _ => none

/-- Boosting drains mass, a whole unit at a time. -/
def drain (snake : SnakeEntity) : SnakeEntity :=
  let boostDebt := snake.boostDebt + BOOST_MASS_DRAIN_PER_SECOND * config.dtSeconds
  if 1 ≤ boostDebt then
    let drained : ℚ := ⌊boostDebt⌋
    ({ snake with boostDebt := boostDebt - drained }).setMass maths (snake.mass - drained)
  else { snake with boostDebt }

/-- The head after a distance along the heading. -/
def advance (head : Position) (angle : Option ℚ) (distance : ℚ) : Position :=
  match head, angle with
  | some head, some angle =>
      some ⟨head.x + maths.cos angle * distance, head.y + maths.sin angle * distance⟩
  | _, _ => none

def moveSnake (snake : SnakeEntity) : SnakeEntity :=
  let canBoost := snake.boosting && decide (MIN_BOOST_MASS < snake.mass)
  let snake :=
    { snake with
      angle := turn config snake.angle snake.targetAngle
      speed := BASE_SPEED * if canBoost then BOOST_SPEED_MULTIPLIER else 1 }
  let snake := if canBoost then drain config maths snake else snake
  let distance := snake.speed * config.dtSeconds
  let next := advance maths snake.headOf snake.angle distance
  let sinceLastPoint := snake.sinceLastPoint + distance
  if SEGMENT_SPACING ≤ sinceLastPoint then
    ({ snake with sinceLastPoint := sinceLastPoint - SEGMENT_SPACING }).pushPoint next
  else
    { snake with
      sinceLastPoint
      spine := Function.update snake.spine snake.headIndex next }

def moveSnakes (world : WorldState) : WorldState :=
  { world with
    snakes := world.snakes.mapValues fun _ snake =>
      if snake.alive then moveSnake config maths snake else snake }

/-! ### Eating -/

def rebuildFoodHash (world : WorldState) : SpatialHash :=
  world.food.values.foldl (fun hash food => hash.insert food.id food.position)
    (.new config.cellSize)

/-- What the loops of `consumeFood` have got to. -/
structure Eating where
  world : WorldState
  foodHash : SpatialHash
  consumed : ℕ

/-- One candidate of a snake whose head and reach are fixed. -/
def eatOne (id : EntityId) (head : Position) (reach : ℚ) (s : Eating)
    (foodId : EntityId) : Eating :=
  match s.world.food.get foodId with
  | none => s
  | some food =>
      if atMost (distance maths food.position head) reach then
        { world :=
            { s.world with
              snakes := s.world.snakes.update id fun snake =>
                snake.setMass maths (snake.mass + food.mass)
              food := s.world.food.delete foodId }
          foodHash := s.foodHash.remove foodId food.position
          consumed := s.consumed + 1 }
      else s

def eat (s : Eating) (id : EntityId) : Eating :=
  match s.world.snakes.get id with
  | none => s
  | some snake =>
      if snake.alive then
        let reach := snake.radius + 14
        (s.foodHash.queryCircle snake.headOf reach).foldl (eatOne maths id snake.headOf reach) s
      else s

def consumeFood (world : WorldState) : WorldState × ℕ :=
  let s := world.snakes.keys.foldl (eat maths) ⟨world, rebuildFoodHash config world, 0⟩
  (s.world, s.consumed)

/-! ### Collisions -/

/-- The body hash, with the owner and the offset of each key. -/
structure BodyHash where
  hash : SpatialHash
  bodyOwner : OrderedMap ℕ EntityId
  bodyPoint : OrderedMap ℕ ℕ
  /-- The next key. -/
  key : ℕ

def BodyHash.add (snake : SnakeEntity) (b : BodyHash) (offset : ℕ) : BodyHash where
  hash := b.hash.insert b.key (snake.pointAt offset)
  bodyOwner := b.bodyOwner.set b.key snake.id
  bodyPoint := b.bodyPoint.set b.key offset
  key := b.key + 1

/-- The offsets that are indexed: not the few nearest the head. -/
def indexed (snake : SnakeEntity) : List ℕ := List.range' 4 (snake.spineLength - 4)

def BodyHash.addSnake (b : BodyHash) (snake : SnakeEntity) : BodyHash :=
  if snake.alive then (indexed snake).foldl (BodyHash.add snake) b else b

def rebuildBodyHash (world : WorldState) : BodyHash :=
  world.snakes.values.foldl BodyHash.addSnake ⟨.new config.cellSize, .empty, .empty, 1⟩

/-- The head is within the sum of the two radii of a point of the other. -/
def touches (snake other : SnakeEntity) (offset : ℕ) : Bool :=
  atMost (distance maths (other.pointAt offset) snake.headOf) (snake.radius + other.radius)

/-- The snake whose body a candidate is a point of, if it is another that is alive, and touched. -/
def hitBy (body : BodyHash) (world : WorldState) (snake : SnakeEntity) (candidate : ℕ) :
    Option SnakeEntity :=
  match body.bodyOwner.get candidate with
  | none => none
  | some ownerId =>
      if ownerId = snake.id then none
      else
        match world.snakes.get ownerId with
        | none => none
        | some other =>
            if other.alive ∧ touches maths snake other ((body.bodyPoint.get candidate).getD 0) then
              some other
            else none

/-- The head is at or beyond the world radius. -/
def outside (world : WorldState) (snake : SnakeEntity) : Bool :=
  snake.headOf.any fun head => world.radius ≤ maths.hypot head.x head.y

def kill (world : WorldState) (id : EntityId) : WorldState :=
  { world with snakes := world.snakes.update id fun snake => { snake with alive := false } }

def credit (world : WorldState) (id : EntityId) : WorldState :=
  { world with
    snakes := world.snakes.update id fun snake => { snake with kills := snake.kills + 1 } }

/-- One snake of the sweep. -/
def collide (body : BodyHash) (s : WorldState × List DeathEvent) (id : EntityId) :
    WorldState × List DeathEvent :=
  match s.1.snakes.get id with
  | none => s
  | some snake =>
      if !snake.alive then s
      else if outside maths s.1 snake then
        (kill s.1 id, s.2 ++ [⟨snake.id, snake.playerId, none, none, .wall, snake.score⟩])
      else
        match (body.hash.queryCircle snake.headOf (snake.radius + 40)).findSome?
            (hitBy maths body s.1 snake) with
        | none => s
        | some other =>
            (credit (kill s.1 id) other.id,
              s.2 ++ [⟨snake.id, snake.playerId, some other.id, some other.playerId, .collision,
                snake.score⟩])

/-- Scatters after the sweep. -/
def detectCollisions (world : WorldState) : WorldState × List DeathEvent :=
  let body := rebuildBodyHash config world
  let (world, deaths) := world.snakes.keys.foldl (collide maths body) (world, [])
  (deaths.foldl
    (fun world death =>
      match world.snakes.get death.victim with
      | some snake => scatterMass maths config world snake
      | none => world)
    world,
    deaths)

/-! ### Food -/

/-- Defaults from the world area. -/
def targetFood : ℕ :=
  config.targetFood.getD ⌊PI * config.worldRadius ^ 2 / 1000000 * 220⌋₊

/-- Trickles. -/
def maintainFood (world : WorldState) : WorldState × ℕ :=
  let budget := min 8 (targetFood config - world.food.size)
  (spawnFoods maths budget world, budget)

def expireFood (world : WorldState) : WorldState :=
  if world.tick % 30 ≠ 0 then world
  else
    { world with
      food := world.food.filter fun _ food =>
        match food.expiresAtTick with
        | some expiresAtTick => world.tick < expiresAtTick
        | none => true }

/-! ### The step -/

def createWorld : WorldState :=
  spawnFoods maths (targetFood config)
    { tick := 0
      elapsedMs := 0
      snakes := .empty
      food := .empty
      playerIndex := .empty
      pendingInputs := .empty
      nextEntityId := 1
      radius := config.worldRadius
      random := config.seed }

/-- The world that collisions are looked for in: inputs, then movement, then eating. -/
def beforeCollisions (world : WorldState) : WorldState × ℕ :=
  consumeFood config maths (moveSnakes config maths (applyInputs world))

/-- Advances the world exactly one fixed timestep. -/
def step (world : WorldState) : WorldState × TickResult :=
  let (world, foodConsumed) := beforeCollisions config maths world
  let (world, deaths) := detectCollisions config maths world
  let (world, foodSpawned) := maintainFood config maths world
  let world := expireFood world
  let world :=
    { world with
      tick := world.tick + 1
      elapsedMs := world.elapsedMs + config.dtSeconds * 1000 }
  (world, ⟨world.tick, deaths, foodConsumed, foodSpawned⟩)

end Step

end SnakeArena.Game
