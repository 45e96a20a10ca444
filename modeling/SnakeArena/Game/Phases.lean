import SnakeArena.Game.Simulation
import SnakeArena.Library.Folds

/-!
# Game — the phases of a step

A phase is described by what it does to each snake (`Evolves`).  The inputs are set (`Steered`),
the living move (`Moved`), and every other phase leaves a body and its heading alone, and sizes a
snake by its mass (`Fed`), or leaves the snakes alone altogether (`Feeds`).

* `step_evolves`: what a step does to a snake.
* `step_inside`: a snake that lives through a step is inside the world.
-/

namespace SnakeArena.Game
open SnakeArena.Library

/-! ### A snake -/

section Snakes
variable (maths : Maths)

/-- Its size is what its mass says. -/
structure SnakeEntity.Sound (s : SnakeEntity) : Prop where
  mass : 1 ≤ s.mass
  radius : s.radius = radiusForMass maths s.mass
  score : s.score = scoreForMass s.mass
  spineLength_pos : 1 ≤ s.spineLength
  spineLength_le : s.spineLength ≤ min (lengthForMass s.mass) s.spineCapacity
  spineCapacity : s.spineCapacity = SPINE_CAPACITY

/-- Another of its size, of the same body and inputs: its kills and its flag may differ, but it
does not live again. -/
structure Fed (s s' : SnakeEntity) : Prop where
  id : s'.id = s.id
  playerId : s'.playerId = s.playerId
  toSteering : s'.toSteering = s.toSteering
  spine : s'.spine = s.spine
  headIndex : s'.headIndex = s.headIndex
  angle : s'.angle = s.angle
  speed : s'.speed = s.speed
  alive : s'.alive = true → s.alive = true
  sound : s.Sound maths → s'.Sound maths

variable {maths} {s s' s'' : SnakeEntity}

theorem Fed.refl (s : SnakeEntity) : Fed maths s s :=
  ⟨rfl, rfl, rfl, rfl, rfl, rfl, rfl, fun h => h, fun h => h⟩

/-- What two feedings do, one does. -/
theorem Fed.trans (h : Fed maths s s') (h' : Fed maths s' s'') : Fed maths s s'' where
  id := h'.id.trans h.id
  playerId := h'.playerId.trans h.playerId
  toSteering := h'.toSteering.trans h.toSteering
  spine := h'.spine.trans h.spine
  headIndex := h'.headIndex.trans h.headIndex
  angle := h'.angle.trans h.angle
  speed := h'.speed.trans h.speed
  alive := h.alive ∘ h'.alive
  sound := h'.sound ∘ h.sound

/-- A feeding moves no head. -/
theorem Fed.headOf (h : Fed maths s s') : s'.headOf = s.headOf := by
  unfold SnakeEntity.headOf
  rw [h.spine, h.headIndex]

/-- A spine has six points at least, whatever the mass. -/
theorem six_le_length {mass : ℚ} : 6 ≤ lengthForMass mass := by
  refine le_min (by norm_num) (Nat.le_floor ?_)
  have : (0 : ℚ) ≤ max 0 mass * (9 / 10) := by positivity
  push_cast
  linarith

/-- A ring holds one point at least. -/
theorem capacity_pos (mass : ℚ) (h : s.spineCapacity = SPINE_CAPACITY) : 1 ≤ s.capacity mass := by
  refine le_min (le_trans (by norm_num) six_le_length) ?_
  rw [h]
  decide

/-- **A snake is of the size its new mass says**, and its spine is cut to it. -/
theorem setMass_sound (mass : ℚ) (hs : s.Sound maths) : (s.setMass maths mass).Sound maths where
  mass := le_max_left _ _
  radius := rfl
  score := rfl
  spineLength_pos := le_min hs.spineLength_pos (capacity_pos _ hs.spineCapacity)
  spineLength_le := min_le_right _ _
  spineCapacity := hs.spineCapacity

/-- Setting the mass is a feeding. -/
theorem setMass_fed (s : SnakeEntity) (mass : ℚ) : Fed maths s (s.setMass maths mass) :=
  ⟨rfl, rfl, rfl, rfl, rfl, rfl, rfl, fun h => h, setMass_sound mass⟩

/-- One point more, within the length and the capacity. -/
theorem pushPoint_sound (p : Position) (hs : s.Sound maths) : (s.pushPoint p).Sound maths where
  mass := hs.mass
  radius := hs.radius
  score := hs.score
  spineLength_pos := le_min (Nat.le_add_left 1 _) (capacity_pos _ hs.spineCapacity)
  spineLength_le := min_le_right _ _
  spineCapacity := hs.spineCapacity

/-- A new snake is of the size of its mass. -/
theorem fresh_sound (id : EntityId) (playerId : ℕ) (nickname : String) (isBot : Bool) (tick : ℕ)
    (position : Vec) (angle : ℚ) :
    (SnakeEntity.fresh maths id playerId nickname isBot tick position angle).Sound maths where
  mass := by
    change (1 : ℚ) ≤ STARTING_MASS
    norm_num [STARTING_MASS]
  radius := rfl
  score := by
    change 0 = scoreForMass STARTING_MASS
    simp [scoreForMass]
  spineLength_pos := le_trans (by norm_num) six_le_length
  spineLength_le := by
    refine le_min le_rfl ((min_le_left _ _).trans ?_)
    change 400 ≤ SPINE_CAPACITY
    decide
  spineCapacity := rfl

end Snakes

/-! ### The world -/

namespace WorldState

/-- Each snake goes along `R`, and food comes with new ids. -/
structure Evolves (R : SnakeEntity → SnakeEntity → Prop) (w w' : WorldState) : Prop where
  snakes : ∀ id, Option.Rel R (w.snakes.get id) (w'.snakes.get id)
  food : ∀ id f, w'.food.get id = some f → (∃ g, w.food.get id = some g ∧ f.id = g.id) ∨
    f.id = id ∧ w.nextEntityId ≤ id ∧ id < w'.nextEntityId
  nextEntityId : w.nextEntityId ≤ w'.nextEntityId
  playerIndex : w'.playerIndex = w.playerIndex
  /-- A queue is left, or emptied. -/
  pendingInputs : ∀ id queue, w'.pendingInputs.get id = some queue →
    queue = [] ∨ w.pendingInputs.get id = some queue
  radius : w'.radius = w.radius

variable {maths : Maths} {w w' w'' : WorldState} {R R' R'' : SnakeEntity → SnakeEntity → Prop}

/-- Two views of one table are related. -/
theorem rel_refl {R : SnakeEntity → SnakeEntity → Prop} (hR : ∀ s, R s s) :
    ∀ o : Option SnakeEntity, Option.Rel R o o
  | none => .none
  | some s => .some (hR s)

/-- Related twice over. -/
theorem rel_trans (hR : ∀ s s' s'', R s s' → R' s' s'' → R'' s s'') :
    ∀ {o o' o'' : Option SnakeEntity}, Option.Rel R o o' → Option.Rel R' o' o'' →
      Option.Rel R'' o o''
  | _, _, _, .none, .none => .none
  | _, _, _, .some h, .some h' => .some (hR _ _ _ h h')

theorem Evolves.refl (hR : ∀ s, R s s) (w : WorldState) : Evolves R w w :=
  ⟨fun _ => rel_refl hR _, fun _ f hf => .inl ⟨f, hf, rfl⟩, le_rfl, rfl, fun _ _ => .inr, rfl⟩

/-- What two phases do, one after the other. -/
theorem Evolves.trans (hR : ∀ s s' s'', R s s' → R' s' s'' → R'' s s'') (h : Evolves R w w')
    (h' : Evolves R' w' w'') : Evolves R'' w w'' where
  snakes id := rel_trans hR (h.snakes id) (h'.snakes id)
  food id f hf := by
    rcases h'.food id f hf with ⟨g, hg, hfg⟩ | ⟨hid, hle, hlt⟩
    · rcases h.food id g hg with ⟨g', hg', hgg'⟩ | ⟨hid, hle, hlt⟩
      · exact .inl ⟨g', hg', hfg.trans hgg'⟩
      · exact .inr ⟨hfg.trans hid, hle, hlt.trans_le h'.nextEntityId⟩
    · exact .inr ⟨hid, h.nextEntityId.trans hle, hlt⟩
  nextEntityId := h.nextEntityId.trans h'.nextEntityId
  playerIndex := h'.playerIndex.trans h.playerIndex
  pendingInputs id queue hq := (h'.pendingInputs id queue hq).elim .inl (h.pendingInputs id queue)
  radius := h'.radius.trans h.radius

/-- A phase that goes along `R` goes along what follows from it. -/
theorem Evolves.mono (hR : ∀ s s', R s s' → R' s s') (h : Evolves R w w') : Evolves R' w w' where
  snakes id := by
    have hrel := h.snakes id
    cases hs : w.snakes.get id <;> cases hs' : w'.snakes.get id <;> rw [hs, hs'] at hrel <;>
      cases hrel
    · exact .none
    next hR' => exact .some (hR _ _ hR')
  food := h.food
  nextEntityId := h.nextEntityId
  playerIndex := h.playerIndex
  pendingInputs := h.pendingInputs
  radius := h.radius

/-- A snake afterwards is one of before. -/
theorem Evolves.back (h : Evolves R w w') {id : EntityId} {s' : SnakeEntity}
    (hs' : w'.snakes.get id = some s') : ∃ s, w.snakes.get id = some s ∧ R s s' := by
  have hrel := h.snakes id
  rw [hs'] at hrel
  cases hs : w.snakes.get id with
  | none => rw [hs] at hrel; cases hrel
  | some s =>
      rw [hs] at hrel
      cases hrel with
      | some hR => exact ⟨s, rfl, hR⟩

/-- What every snake has, and `R` keeps, every snake has afterwards. -/
theorem Evolves.all (h : Evolves R w w') {P : SnakeEntity → Prop} (hP : ∀ s s', R s s' → P s → P s')
    (hw : w.snakes.All fun _ s => P s) : w'.snakes.All fun _ s => P s := by
  intro id s' hs'
  obtain ⟨s, hs, hR⟩ := h.back hs'
  exact hP s s' hR (hw id s hs)

/-- A snake is there after the phase, and went along `R`. -/
theorem Evolves.forth (h : Evolves R w w') {id : EntityId} {s : SnakeEntity}
    (hs : w.snakes.get id = some s) : ∃ s', w'.snakes.get id = some s' ∧ R s s' := by
  have hrel := h.snakes id
  rw [hs] at hrel
  cases hs' : w'.snakes.get id with
  | none => rw [hs'] at hrel; cases hrel
  | some s' =>
      rw [hs'] at hrel
      cases hrel with
      | some hR => exact ⟨s', rfl, hR⟩

/-! ### What feeds a world -/

/-- The snakes are left as they are. -/
abbrev Feeds (w w' : WorldState) : Prop := Evolves Eq w w'

theorem Feeds.refl (w : WorldState) : Feeds w w := Evolves.refl (fun _ => rfl) w

theorem Feeds.trans (h : Feeds w w') (h' : Feeds w' w'') : Feeds w w'' :=
  Evolves.trans (fun (_ _ _ : SnakeEntity) h h' => h.trans h') h h'

/-- The snakes are the very same. -/
theorem Feeds.snakes_eq (h : Feeds w w') (id : EntityId) : w'.snakes.get id = w.snakes.get id := by
  cases hs : w.snakes.get id with
  | none =>
      have hrel := Evolves.snakes h id
      rw [hs] at hrel
      cases hs' : w'.snakes.get id with
      | none => rfl
      | some s' => rw [hs'] at hrel; cases hrel
  | some s =>
      obtain ⟨s', hs', rfl⟩ := h.forth hs
      exact hs'

/-- A draw moves the generator, and nothing else. -/
theorem draw_eq (w : WorldState) : ∃ u random, w.draw = (u, { w with random }) := ⟨_, _, rfl⟩

/-- Drawing a point takes from the random sequence, and from nothing else. -/
theorem drawPoint_eq (maths : Maths) (w : WorldState) (share : ℚ) :
    ∃ p random, w.drawPoint maths share = (p, { w with random }) := by
  obtain ⟨u, random, hu⟩ := draw_eq w
  obtain ⟨v, random', hv⟩ := draw_eq { w with random }
  unfold drawPoint
  rw [hu]
  dsimp only
  rw [hv]
  exact ⟨_, _, rfl⟩

/-- The random sequence is of no snake. -/
theorem feeds_random (w : WorldState) (random : UInt32) : Feeds w { w with random } :=
  ⟨(Feeds.refl w).snakes, (Feeds.refl w).food, le_rfl, rfl, fun _ _ => .inr, rfl⟩

/-- The search for a place only draws. -/
theorem findSpawnLoop_eq : ∀ (attempts : ℕ) (w : WorldState) (best : Vec) (bestDistance : ℚ),
    ∃ p random, findSpawnLoop maths attempts w best bestDistance = (p, { w with random })
  | 0, _, _, _ => ⟨_, _, rfl⟩
  | attempts + 1, w, best, bestDistance => by
      obtain ⟨p, random, hp⟩ := drawPoint_eq maths w (85 / 100)
      unfold findSpawnLoop
      rw [hp]
      dsimp only
      split
      · exact ⟨_, _, rfl⟩
      · split_ifs
        · exact ⟨_, _, rfl⟩
        · obtain ⟨q, random, hq⟩ := findSpawnLoop_eq attempts { w with random } p _
          exact ⟨q, random, hq⟩
        · obtain ⟨q, random, hq⟩ := findSpawnLoop_eq attempts { w with random } best bestDistance
          exact ⟨q, random, hq⟩

/-- A new pellet, of the next id. -/
theorem spawnFood_eq (maths : Maths) (w : WorldState) (place : Option Position) (mass : Option ℚ) :
    ∃ f random, f.id = w.nextEntityId ∧ spawnFood maths w place mass =
      (w.nextEntityId, { w with
        food := w.food.set w.nextEntityId f
        nextEntityId := w.nextEntityId + 1
        random }) := by
  unfold spawnFood
  -- the place and the mass are drawn when they are not given, the hue always
  rcases place with _ | place
  · obtain ⟨p, random, hp⟩ := drawPoint_eq maths w (97 / 100)
    obtain ⟨u, random', hu⟩ := draw_eq { w with random }
    rcases mass with _ | mass
    · obtain ⟨v, random'', hv⟩ := draw_eq { w with random := random' }
      simp only [hp, hu, hv]
      exact ⟨_, _, rfl, rfl⟩
    · simp only [hp, hu]
      exact ⟨_, _, rfl, rfl⟩
  · obtain ⟨u, random, hu⟩ := draw_eq w
    rcases mass with _ | mass
    · obtain ⟨v, random', hv⟩ := draw_eq { w with random }
      simp only [hu, hv]
      exact ⟨_, _, rfl, rfl⟩
    · simp only [hu]
      exact ⟨_, _, rfl, rfl⟩

/-- A new pellet has a new id. -/
theorem feeds_spawnFood (place : Option Position) (mass : Option ℚ) :
    Feeds w (spawnFood maths w place mass).2 := by
  obtain ⟨f, random, hf, heq⟩ := spawnFood_eq maths w place mass
  rw [heq]
  refine ⟨(Feeds.refl w).snakes, fun id g hg => ?_, Nat.le_succ _, rfl, fun _ _ => .inr, rfl⟩
  dsimp only at hg
  rw [OrderedMap.get_set] at hg
  split at hg
  next hid =>
    obtain rfl := Option.some.inj hg
    exact .inr ⟨hf.trans hid.symm, hid.ge, hid.symm ▸ Nat.lt_succ_self _⟩
  · exact .inl ⟨g, hg, rfl⟩

/-- Any number of pellets. -/
theorem feeds_spawnFoods : ∀ (n : ℕ) (w : WorldState), Feeds w (spawnFoods maths n w)
  | 0, w => .refl w
  | n + 1, _ => (feeds_spawnFood _ _).trans (feeds_spawnFoods n _)

/-- A pellet rewritten in place keeps its id. -/
theorem feeds_update (w : WorldState) (id : EntityId) {e : FoodEntity → FoodEntity}
    (he : ∀ f, (e f).id = f.id) : Feeds w { w with food := w.food.update id e } where
  snakes := (Feeds.refl w).snakes
  food id' f hf := by
    dsimp only at hf
    rw [OrderedMap.get_update] at hf
    split at hf
    next hid =>
      obtain ⟨g, hg, rfl⟩ := Option.map_eq_some_iff.mp hf
      exact .inl ⟨g, hid ▸ hg, he g⟩
    · exact .inl ⟨f, hf, rfl⟩
  nextEntityId := le_rfl
  playerIndex := rfl
  pendingInputs _ _ := .inr
  radius := rfl

/-- One drop of a dead snake is one pellet. -/
theorem feeds_scatterOne (config : SimulationConfig) (snake : SnakeEntity) (drops : ℕ) (per : ℚ)
    (i : ℕ) : Feeds w (scatterOne maths config snake drops per w i) := by
  unfold scatterOne
  generalize snake.pointAt _ = point
  obtain ⟨u, random, hu⟩ := draw_eq w
  rw [hu]
  obtain ⟨v, random', hv⟩ := draw_eq { w with random }
  dsimp only
  rw [hv]
  dsimp only
  generalize Option.map _ _ = place
  have hspawn := @feeds_spawnFood maths { w with random := random' } (some place) (some per)
  generalize spawnFood _ _ _ _ = pellet at hspawn ⊢
  exact ((feeds_random w random').trans hspawn).trans (feeds_update _ _ fun _ => rfl)

/-- **What is left of a snake becomes food, and no other snake changes.**. -/
theorem feeds_scatterMass (config : SimulationConfig) (snake : SnakeEntity) :
    Feeds w (scatterMass maths config w snake) :=
  foldl_leads (R := Feeds) Feeds.refl (fun _ _ _ => Feeds.trans)
    (fun _ _ => feeds_scatterOne _ _ _ _ _) _ w

/-- The food is filled up. -/
theorem feeds_maintainFood (config : SimulationConfig) :
    Feeds w (maintainFood config maths w).1 :=
  feeds_spawnFoods _ w

/-- Pellets may go. -/
theorem feeds_fewer {food : OrderedMap EntityId FoodEntity}
    (h : ∀ id f, food.get id = some f → w.food.get id = some f) : Feeds w { w with food } :=
  ⟨(Feeds.refl w).snakes, fun id f hf => .inl ⟨f, h id f hf, rfl⟩, le_rfl, rfl,
    fun _ _ => .inr, rfl⟩

/-- Old food goes. -/
theorem feeds_expireFood : Feeds w (expireFood w) := by
  unfold expireFood
  split_ifs
  · exact .refl w
  · refine feeds_fewer fun id f hf => ?_
    rw [OrderedMap.get_filter, Option.filter_eq_some_iff] at hf
    exact hf.1

/-! ### The phases of a step -/

/-- One function over a table's entry. -/
theorem rel_map (f : SnakeEntity → SnakeEntity) (hf : ∀ s, R s (f s)) :
    ∀ o : Option SnakeEntity, Option.Rel R o (o.map f)
  | none => .none
  | some s => .some (hf s)

/-- Only the snakes are rewritten, each along `R`. -/
theorem evolves_mapValues {f : EntityId → SnakeEntity → SnakeEntity} (hf : ∀ id s, R s (f id s))
    (hsnakes : w'.snakes = w.snakes.mapValues f) (hfood : w'.food = w.food)
    (hnext : w'.nextEntityId = w.nextEntityId) (hindex : w'.playerIndex = w.playerIndex)
    (hinputs : ∀ id queue, w'.pendingInputs.get id = some queue →
      queue = [] ∨ w.pendingInputs.get id = some queue)
    (hradius : w'.radius = w.radius) : Evolves R w w' where
  snakes id := by
    rw [hsnakes, OrderedMap.get_mapValues]
    exact rel_map _ (hf id) _
  food id f h := .inl ⟨f, hfood ▸ h, rfl⟩
  nextEntityId := hnext.ge
  playerIndex := hindex
  pendingInputs := hinputs
  radius := hradius

/-- One snake is rewritten. -/
theorem evolves_update (hR : ∀ s, R s s) (w : WorldState) (id : EntityId)
    {f : SnakeEntity → SnakeEntity} (hf : ∀ s, R s (f s)) :
    Evolves R w { w with snakes := w.snakes.update id f } := by
  refine evolves_mapValues (f := fun id' s => if id' = id then f s else s) (fun id' s => ?_) rfl rfl
    rfl rfl (fun _ _ => .inr) rfl
  split_ifs
  · exact hf s
  · exact hR s

/-- The inputs of a snake are set, and no more. -/
def Steered (s s' : SnakeEntity) : Prop := ∃ steering, s' = { s with toSteering := steering }

/-- The inputs set the steering of the living, and nothing else. -/
theorem applyInputs_steers (w : WorldState) : Evolves Steered w (applyInputs w) := by
  refine evolves_mapValues ?_ (by dsimp only [applyInputs]) rfl rfl rfl
    (fun id queue h => .inl ?_) rfl
  · intro id s
    split
    · split_ifs
      · exact ⟨_, rfl⟩
      · exact ⟨s.toSteering, rfl⟩
    · exact ⟨s.toSteering, rfl⟩
  · dsimp only [applyInputs] at h
    rw [OrderedMap.get_mapValues, Option.map_eq_some_iff] at h
    obtain ⟨_, -, rfl⟩ := h
    rfl

/-- The living move. -/
def Moved (config : SimulationConfig) (maths : Maths) (s s' : SnakeEntity) : Prop :=
  s' = if s.alive then moveSnake config maths s else s

/-- The living move, each by itself. -/
theorem moveSnakes_moves (config : SimulationConfig) (w : WorldState) :
    Evolves (Moved config maths) w (moveSnakes config maths w) :=
  evolves_mapValues (fun _ _ => rfl) rfl rfl rfl rfl (fun _ _ => .inr) rfl

/-- The snakes are fed, or hurt. -/
abbrev Feasts (maths : Maths) (w w' : WorldState) : Prop := Evolves (Fed maths) w w'

theorem Feasts.refl (w : WorldState) : Feasts maths w w := Evolves.refl Fed.refl w

/-- What eating, dying and killing do to a snake, again and again. -/
structure Settles (maths : Maths) (R : SnakeEntity → SnakeEntity → Prop) : Prop where
  refl : ∀ s, R s s
  trans : ∀ s s' s'', R s s' → R s' s'' → R s s''
  setMass : ∀ s mass, R s (s.setMass maths mass)
  /-- A snake dies, or has killed another. -/
  hurt : ∀ (s : SnakeEntity) (alive : Bool) (kills : ℕ), (alive = true → s.alive = true) →
    R s { s with alive, kills }

/-- Feedings are closed under what eating and dying do. -/
theorem fed_settles (maths : Maths) : Settles maths (Fed maths) where
  refl := Fed.refl
  trans _ _ _ := Fed.trans
  setMass := setMass_fed
  hurt _ _ _ h := ⟨rfl, rfl, rfl, rfl, rfl, rfl, rfl, h, fun hs =>
    ⟨hs.mass, hs.radius, hs.score, hs.spineLength_pos, hs.spineLength_le, hs.spineCapacity⟩⟩

section Settling
variable (hR : Settles maths R)
include hR

/-- A phase that leaves the snakes goes along any such relation. -/
theorem Feeds.settles (h : Feeds w w') : Evolves R w w' :=
  h.mono fun s s' (e : s = s') => e ▸ hR.refl s

/-- A pellet eaten feeds its eater. -/
theorem eatOne_evolves (id : EntityId) (head : Position) (reach : ℚ) (s : Eating)
    (foodId : EntityId) : Evolves R s.world (eatOne maths id head reach s foodId).world := by
  unfold eatOne
  split
  · exact .refl hR.refl _
  next food _ =>
    split_ifs
    · have hfed : Evolves R s.world _ :=
        evolves_update hR.refl s.world id fun s => hR.setMass s (s.mass + food.mass)
      refine hfed.trans hR.trans (Feeds.settles hR (feeds_fewer fun id f hf => ?_))
      rw [OrderedMap.get_delete] at hf
      split at hf
      · cases hf
      · exact hf
    · exact .refl hR.refl _

/-- The meal of one snake. -/
theorem eat_evolves (s : Eating) (id : EntityId) : Evolves R s.world (eat maths s id).world := by
  unfold eat
  split
  · exact .refl hR.refl _
  · split_ifs
    · exact foldl_leads (R := fun s s' : Eating => Evolves R s.world s'.world)
        (fun _ => .refl hR.refl _) (fun _ _ _ h h' => h.trans hR.trans h')
        (eatOne_evolves hR id _ _) _ s
    · exact .refl hR.refl _

/-- The meals of all. -/
theorem consumeFood_evolves (config : SimulationConfig) (w : WorldState) :
    Evolves R w (consumeFood config maths w).1 :=
  foldl_leads (R := fun s s' : Eating => Evolves R s.world s'.world)
    (fun _ => .refl hR.refl _) (fun _ _ _ h h' => h.trans hR.trans h') (eat_evolves hR) _ ⟨w, _, 0⟩

/-- A death clears a flag. -/
theorem kill_evolves (w : WorldState) (id : EntityId) : Evolves R w (kill w id) :=
  evolves_update hR.refl w id fun s => hR.hurt s false s.kills nofun

/-- A kill is counted. -/
theorem credit_evolves (w : WorldState) (id : EntityId) : Evolves R w (credit w id) :=
  evolves_update hR.refl w id fun s => hR.hurt s s.alive (s.kills + 1) fun h => h

/-- One snake against the bodies and the edge: it dies, and its killer is credited, or nothing
happens. -/
theorem collide_evolves (body : BodyHash) (p : WorldState × List DeathEvent) (id : EntityId) :
    Evolves R p.1 (collide maths body p id).1 := by
  unfold collide
  split
  · exact .refl hR.refl _
  · split_ifs
    · exact .refl hR.refl _
    · exact kill_evolves hR _ _
    · split
      · exact .refl hR.refl _
      · exact (kill_evolves hR _ _).trans hR.trans (credit_evolves hR _ _)

end Settling

/-- Eating, as a feeding. -/
theorem consumeFood_feasts (config : SimulationConfig) (w : WorldState) :
    Feasts maths w (consumeFood config maths w).1 :=
  consumeFood_evolves (fed_settles maths) config w

/-- Colliding, as a feeding. -/
theorem collide_feasts (body : BodyHash) (p : WorldState × List DeathEvent) (id : EntityId) :
    Feasts maths p.1 (collide maths body p id).1 :=
  collide_evolves (fed_settles maths) body p id

/-- The sweep, before what is left of the dead is scattered. -/
def sweep (config : SimulationConfig) (maths : Maths) (w : WorldState) :
    WorldState × List DeathEvent :=
  w.snakes.keys.foldl (collide maths (rebuildBodyHash config w)) (w, [])

/-- The sweep over the snakes. -/
theorem sweep_evolves (hR : Settles maths R) (config : SimulationConfig) (w : WorldState) :
    Evolves R w (sweep config maths w).1 :=
  foldl_leads (R := fun p p' : WorldState × List DeathEvent => Evolves R p.1 p'.1)
    (fun _ => .refl hR.refl _) (fun _ _ _ h h' => h.trans hR.trans h')
      (collide_evolves hR _) _ (w, [])

/-- The sweep, as a feeding. -/
theorem sweep_feasts (config : SimulationConfig) (w : WorldState) :
    Feasts maths w (sweep config maths w).1 :=
  sweep_evolves (fed_settles maths) config w

/-- After the sweep the bodies of the dead become food. -/
theorem feeds_detectCollisions (config : SimulationConfig) (w : WorldState) :
    Feeds (sweep config maths w).1 (detectCollisions config maths w).1 := by
  refine foldl_leads (R := Feeds) Feeds.refl (fun _ _ _ => Feeds.trans) (fun w death => ?_) _ _
  split
  · exact feeds_scatterMass _ _
  · exact .refl _

/-! ### A step -/

/-- The inputs are set, the snake moves, and then it is fed. -/
def Stepped (config : SimulationConfig) (maths : Maths) (s s' : SnakeEntity) : Prop :=
  ∃ s₁ s₂, Steered s s₁ ∧ Moved config maths s₁ s₂ ∧ Fed maths s₂ s'

/-- What is fed after the moves was steered and moved before. -/
theorem evolves_stepped (config : SimulationConfig) (w : WorldState)
    (h : Feasts maths (moveSnakes config maths (applyInputs w)) w') :
    Evolves (Stepped config maths) w w' := by
  have hmoves : Evolves (fun s s₂ => ∃ s₁, Steered s s₁ ∧ Moved config maths s₁ s₂) w
      (moveSnakes config maths (applyInputs w)) :=
    Evolves.trans (fun s s₁ s₂ (h : Steered s s₁) (h' : Moved config maths s₁ s₂) => ⟨s₁, h, h'⟩)
      (applyInputs_steers w) (moveSnakes_moves config _)
  refine Evolves.trans (fun s s₂ s' h (h' : Fed maths s₂ s') => ?_) hmoves h
  obtain ⟨s₁, h₁, h₂⟩ := h
  exact ⟨s₁, s₂, h₁, h₂, h'⟩

/-- The step up to the collisions. -/
theorem beforeCollisions_evolves (config : SimulationConfig) (w : WorldState) :
    Evolves (Stepped config maths) w (beforeCollisions config maths w).1 :=
  evolves_stepped config w (consumeFood_feasts config _)

/-- After the sweep the snakes are left as they are. -/
theorem step_feeds (config : SimulationConfig) (w : WorldState) :
    Feeds (sweep config maths (beforeCollisions config maths w).1).1 (step config maths w).1 := by
  unfold step
  generalize beforeCollisions config maths w = before
  obtain ⟨v, eaten⟩ := before
  dsimp only
  have hdetect := @feeds_detectCollisions maths config v
  generalize detectCollisions config maths v = after at hdetect ⊢
  have hmaintain := @feeds_maintainFood maths after.1 config
  generalize maintainFood config maths after.1 = fed at hmaintain ⊢
  have hexpire := @feeds_expireFood fed.1
  exact ((hdetect.trans hmaintain).trans hexpire).trans
    ⟨(Feeds.refl _).snakes, (Feeds.refl _).food, le_rfl, rfl, fun _ _ => .inr, rfl⟩

/-- After the movement the snakes are only fed, or hurt. -/
theorem step_settles (hR : Settles maths R) (config : SimulationConfig) (w : WorldState) :
    Evolves R (moveSnakes config maths (applyInputs w)) (step config maths w).1 :=
  (consumeFood_evolves hR config _).trans hR.trans
    ((sweep_evolves hR config _).trans hR.trans (Feeds.settles hR (step_feeds config w)))

/-- After the moves a step only feeds and kills. -/
theorem step_feasts (config : SimulationConfig) (w : WorldState) :
    Feasts maths (moveSnakes config maths (applyInputs w)) (step config maths w).1 :=
  step_settles (fed_settles maths) config w

/-- **A step sets the inputs, moves the living, and then feeds or kills them.**. -/
theorem step_evolves (config : SimulationConfig) (w : WorldState) :
    Evolves (Stepped config maths) w (step config maths w).1 :=
  evolves_stepped config w (step_feasts config w)

/-! ### The edge of the world -/

/-- If the snake lives, its head is not outside. -/
def Inside (maths : Maths) (w : WorldState) (id : EntityId) : Prop :=
  ∀ s, w.snakes.get id = some s → s.alive = true → outside maths w s = false

/-- Being inside is read off the head and the radius of the world, which a feeding leaves. -/
theorem Inside.feasts {id : EntityId} (h : Inside maths w id) (hw : Feasts maths w w') :
    Inside maths w' id := by
  intro s' hs' halive
  obtain ⟨s, hs, hfed⟩ := hw.back hs'
  have hinside := h s hs (hfed.alive halive)
  unfold outside at hinside ⊢
  rwa [hfed.headOf, hw.radius]

/-- Who is killed is dead. -/
theorem kill_dead {id : EntityId} {s : SnakeEntity} (h : (kill w id).snakes.get id = some s) :
    s.alive = false := by
  unfold kill at h
  dsimp only at h
  rw [OrderedMap.get_update, if_pos rfl, Option.map_eq_some_iff] at h
  obtain ⟨s, -, rfl⟩ := h
  rfl

/-- A snake that is still alive after its collision is inside. -/
theorem collide_inside (body : BodyHash) (p : WorldState × List DeathEvent) (id : EntityId) :
    Inside maths (collide maths body p id).1 id := by
  have hkill : Inside maths (kill p.1 id) id := fun s hs halive =>
    absurd (kill_dead hs) (by rw [halive]; decide)
  unfold collide
  split
  next hnone =>
    intro s hs
    rw [hnone] at hs
    cases hs
  next snake hsome =>
    split_ifs with hdead hout
    · intro s hs halive
      obtain rfl := Option.some.inj (hsome.symm.trans hs)
      rw [halive] at hdead
      cases hdead
    · exact hkill
    · split
      · intro s hs _
        obtain rfl := Option.some.inj (hsome.symm.trans hs)
        exact Bool.eq_false_iff.mpr hout
      · exact hkill.feasts (credit_evolves (fed_settles maths) _ _)

/-- The sweep leaves no living snake outside. -/
theorem sweep_inside (config : SimulationConfig) (w : WorldState) (id : EntityId) :
    Inside maths (sweep config maths w).1 id := by
  intro s' hs'
  obtain ⟨s, hs, -⟩ := (sweep_feasts config w).back hs'
  exact foldl_settles (Q := fun id p => Inside maths p.1 id) (collide_inside _)
    (fun p _ id' h => h.feasts (collide_feasts _ p id')) _ (w, []) id
    (OrderedMap.mem_keys.mpr ⟨s, hs⟩) s' hs'

/-- **After a step no living snake is outside.**. -/
theorem step_inside (config : SimulationConfig) (w : WorldState) (id : EntityId) :
    Inside maths (step config maths w).1 id :=
  (sweep_inside config _ id).feasts (Feeds.settles (fed_settles maths) (step_feeds config w))

end WorldState

end SnakeArena.Game
