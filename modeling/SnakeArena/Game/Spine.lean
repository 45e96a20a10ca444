import SnakeArena.Game.Spacing
import SnakeArena.Library.Ring

/-!
# Game — the spine of a snake

The spine is a ring of slots, and the head slides in its slot until the next point is recorded.
Beside a run of calls on one snake goes what was recorded, read off the calls and never off the
spine: the seeded tail is the oldest of it, and the current head the newest.

* `spine_faithful`: within its length, the spine is the history.
-/

namespace SnakeArena.Game
open SnakeArena.Library

/-- What is called on a snake that has spawned. -/
inductive SpineCall where
  /-- `moveSnakes`, when the snake is alive. -/
  | move
  | pushPoint (p : Position)
  | setMass (mass : ℚ)
  /-- What its inputs set, between the calls. -/
  | steer (steering : Steering)

/-- A snake, and the points that were recorded of it, the newest first. -/
structure Recorded where
  snake : SnakeEntity
  history : List Position

/-- The body that a snake spawns with. -/
def seededTail (maths : Maths) (position : Vec) (angle : ℚ) : List Position :=
  (List.range (lengthForMass STARTING_MASS)).map fun (i : ℕ) =>
    some ⟨position.x - maths.cos angle * SEGMENT_SPACING * i,
      position.y - maths.sin angle * SEGMENT_SPACING * i⟩

namespace Recorded
variable (config : SimulationConfig) (maths : Maths)

/-- Where a snake goes in a step, from the newest point. -/
def next (r : Recorded) : Position :=
  advance maths (r.history.headD none) (turn config r.snake.angle r.snake.targetAngle)
    (stepTravel config r.snake)

/-- A step records a point when a spacing is full, and else moves the newest. -/
def call (r : Recorded) : SpineCall → Recorded
  | .move =>
      { snake := moveSnake config maths r.snake
        history :=
          if SEGMENT_SPACING ≤ r.snake.sinceLastPoint + stepTravel config r.snake then
            r.next config maths :: r.history
          else r.next config maths :: r.history.tail }
  | .pushPoint p => ⟨r.snake.pushPoint p, p :: r.history⟩
  | .setMass mass => ⟨r.snake.setMass maths mass, r.history⟩
  | .steer steering => ⟨{ r.snake with toSteering := steering }, r.history⟩

/-- The snake as it spawns. -/
def spawned (id : EntityId) (playerId : ℕ) (nickname : String) (isBot : Bool) (spawnedAtTick : ℕ)
    (position : Vec) (angle : ℚ) : Recorded where
  snake := .fresh maths id playerId nickname isBot spawnedAtTick position angle
  history := seededTail maths position angle

def run (r : Recorded) (calls : List SpineCall) : Recorded := calls.foldl (call config maths) r

end Recorded

/-! ### One call -/

section Snakes
variable {config : SimulationConfig} {maths : Maths} {s : SnakeEntity} {history : List Position}

/-- The spine is the history, and the snake has a head. -/
structure SnakeEntity.Records (s : SnakeEntity) (history : List Position) : Prop where
  ring : Ring s.spine s.headIndex s.spineLength s.spineCapacity history
  length_pos : 0 < s.spineLength
  capacity : s.spineCapacity = SPINE_CAPACITY

namespace SnakeEntity.Records

theorem head (h : s.Records history) : history.head? = some s.headOf := by
  have hentry := h.ring.entries 0 h.length_pos
  rwa [slotAt_zero h.ring.head_lt, ← List.head?_eq_getElem?] at hentry

theorem pointAt (h : s.Records history) {offset : ℕ} (hoffset : offset < s.spineLength) :
    history[offset]? = some (s.pointAt offset) := by
  have hclamped : min offset (s.spineLength - 1) = offset := by omega
  rw [SnakeEntity.pointAt, SnakeEntity.pointIndex, hclamped]
  exact h.ring.entries offset hoffset

theorem pushPoint (h : s.Records history) (p : Position) :
    (s.pushPoint p).Records (p :: history) where
  ring := h.ring.push p (min_le_left _ _) ((min_le_right _ _).trans (min_le_right _ _))
  length_pos := by
    have := capacity_pos s.mass h.capacity
    exact lt_min s.spineLength.succ_pos this
  capacity := h.capacity

theorem setMass (h : s.Records history) (mass : ℚ) : (s.setMass maths mass).Records history where
  ring := h.ring.cut (min_le_left _ _)
  length_pos := lt_min h.length_pos (capacity_pos _ h.capacity)
  capacity := h.capacity

/-- What does not touch the spine. -/
theorem same {s' : SnakeEntity} (h : s.Records history) (hspine : s'.spine = s.spine)
    (hhead : s'.headIndex = s.headIndex) (hlength : s'.spineLength = s.spineLength)
    (hcapacity : s'.spineCapacity = s.spineCapacity) : s'.Records history := by
  obtain ⟨hring, hpos, hcap⟩ := h
  rw [← hspine, ← hhead, ← hlength, ← hcapacity] at hring
  exact ⟨hring, hlength ▸ hpos, hcapacity.trans hcap⟩

theorem drain (h : s.Records history) : (drain config maths s).Records history := by
  have howes : ∀ boostDebt, SnakeEntity.Records { s with boostDebt } history :=
    fun _ => h.same rfl rfl rfl rfl
  unfold Game.drain
  dsimp only
  split_ifs
  · exact (howes _).setMass _
  · exact howes _

theorem slide (h : s.Records history) (p : Position) :
    SnakeEntity.Records { s with spine := Function.update s.spine s.headIndex p }
      (p :: history.tail) where
  ring := h.ring.slide p
  length_pos := h.length_pos
  capacity := h.capacity

/-- A step turns the snake and may drain it, and then its head is a new point or moves. -/
theorem moveSnake (h : s.Records history) :
    (moveSnake config maths s).Records
      ((Recorded.call config maths ⟨s, history⟩ .move).history) := by
  have hheadD : history.headD none = s.headOf := by
    rw [List.headD_eq_head?_getD, h.head]
    rfl
  unfold Recorded.call Recorded.next Game.moveSnake stepTravel
  dsimp only
  rw [hheadD]
  generalize (s.boosting && decide (MIN_BOOST_MASS < s.mass)) = canBoost
  generalize hturned : ({ s with
      angle := turn config s.angle s.targetAngle
      speed := BASE_SPEED * if canBoost then BOOST_SPEED_MULTIPLIER else 1 } : SnakeEntity) = turned
  obtain ⟨hrecords, hsince, hspeed, hfed⟩ :
      (if canBoost then Game.drain config maths turned else turned).Records history ∧
      (if canBoost then Game.drain config maths turned else turned).sinceLastPoint =
        s.sinceLastPoint ∧
      (if canBoost then Game.drain config maths turned else turned).speed =
        BASE_SPEED * (if canBoost then BOOST_SPEED_MULTIPLIER else 1) ∧
      Fed maths turned (if canBoost then Game.drain config maths turned else turned) := by
    subst hturned
    have hturned : SnakeEntity.Records { s with
      angle := turn config s.angle s.targetAngle
      speed := BASE_SPEED * if canBoost then BOOST_SPEED_MULTIPLIER else 1 } history :=
      h.same rfl rfl rfl rfl
    cases canBoost with
    | false => exact ⟨hturned, rfl, rfl, Fed.refl _⟩
    | true =>
        obtain ⟨hsince, -, hspeed, -⟩ := @drain_spine config maths _
        exact ⟨hturned.drain, hsince, hspeed, (drain_fed _).1⟩
  have hangle : (if canBoost then Game.drain config maths turned else turned).angle =
      turn config s.angle s.targetAngle := by
    rw [hfed.angle, ← hturned]
  have hhead : (if canBoost then Game.drain config maths turned else turned).headOf = s.headOf := by
    rw [hfed.headOf, ← hturned]
    rfl
  generalize (if canBoost then Game.drain config maths turned else turned) = s₂ at *
  have hcarries : ∀ sinceLastPoint, SnakeEntity.Records { s₂ with sinceLastPoint } history :=
    fun _ => hrecords.same rfl rfl rfl rfl
  rw [← hsince, ← hspeed, ← hangle, ← hhead]
  split_ifs
  · exact (hcarries _).pushPoint _
  · exact (hrecords.slide _).same rfl rfl rfl rfl

theorem call (h : s.Records history) (c : SpineCall) :
    (Recorded.call config maths ⟨s, history⟩ c).snake.Records
      (Recorded.call config maths ⟨s, history⟩ c).history := by
  cases c with
  | move => exact h.moveSnake
  | pushPoint p => exact h.pushPoint p
  | setMass mass => exact h.setMass mass
  | steer steering => exact h.same rfl rfl rfl rfl

end SnakeEntity.Records
end Snakes

/-! ### Every run of calls -/

section Runs
variable (config : SimulationConfig) (maths : Maths)

/-- A snake spawns with its tail behind it. -/
theorem spawned_records (id : EntityId) (playerId : ℕ) (nickname : String) (isBot : Bool)
    (spawnedAtTick : ℕ) (position : Vec) (angle : ℚ) :
    (Recorded.spawned maths id playerId nickname isBot spawnedAtTick position angle).snake.Records
      (seededTail maths position angle) where
  ring := by
    refine ⟨(by decide : 0 < SPINE_CAPACITY), ?_, fun offset hoffset => ?_⟩
    · exact le_trans (min_le_left _ _) (by decide : 400 ≤ SPINE_CAPACITY)
    · have hlt : offset < lengthForMass STARTING_MASS := hoffset
      have hle : lengthForMass STARTING_MASS ≤ 400 := min_le_left _ _
      have hslot : (SPINE_CAPACITY - slotAt 0 SPINE_CAPACITY offset) % SPINE_CAPACITY = offset := by
        unfold slotAt SPINE_CAPACITY
        omega
      rw [seededTail, List.getElem?_map, List.getElem?_range hlt]
      simp only [Recorded.spawned, SnakeEntity.fresh, hslot, if_pos hlt, Option.map_some]
  length_pos := lt_of_lt_of_le (by decide) six_le_length
  capacity := rfl

theorem run_records (calls : List SpineCall) : ∀ {r : Recorded}, r.snake.Records r.history →
    (r.run config maths calls).snake.Records (r.run config maths calls).history := by
  induction calls with
  | nil => exact fun h => h
  | cons c calls ih => exact fun h => ih (h.call c)

/-- **The spine ring buffer is a faithful history**: the offset-th point of the spine is the
offset-th newest that was stored, and the newest is the head, in exact arithmetic. -/
theorem spine_faithful (id : EntityId) (playerId : ℕ) (nickname : String) (isBot : Bool)
    (spawnedAtTick : ℕ) (position : Vec) (angle : ℚ) (calls : List SpineCall) :
    let r := (Recorded.spawned maths id playerId nickname isBot spawnedAtTick position angle).run
      config maths calls
    (∀ offset < r.snake.spineLength, r.history[offset]? = some (r.snake.pointAt offset)) ∧
      r.history.head? = some r.snake.headOf ∧ 0 < r.snake.spineLength := by
  have h := run_records config maths calls
    (spawned_records maths id playerId nickname isBot spawnedAtTick position angle)
  exact ⟨fun offset hoffset => h.pointAt hoffset, h.head, h.length_pos⟩

end Runs

end SnakeArena.Game
