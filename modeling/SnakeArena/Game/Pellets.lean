import SnakeArena.Game.World

/-!
# Game — the mass of the pellets

No pellet weighs less than nothing, in any run (`reachable_edible`), and what scatters drops six
tenths of the mass of the snake, however many pellets it makes of it (`foodMass_scatterMass`).
-/

namespace SnakeArena.Game
open SnakeArena.Library

/-- What all the food weighs. -/
def foodMass (food : OrderedMap EntityId FoodEntity) : ℚ := (food.values.map (·.mass)).sum

namespace WorldState

/-- Food that can be eaten: by its id, and of no negative mass. -/
structure Edible (maths : Maths) (w : WorldState) : Prop where
  snakes : w.snakes.All fun _ s => s.Sound maths
  food : w.food.All fun id f => f.id = id ∧ 0 ≤ f.mass

variable {config : SimulationConfig} {maths : Maths} {w w' : WorldState}

/-- What is drawn is not negative. -/
theorem draw_nonneg (w : WorldState) : 0 ≤ w.draw.1 := by
  unfold draw nextRandom
  positivity

/-- A new pellet, of the mass that is given, or of any. -/
theorem spawnFood_mass (maths : Maths) (w : WorldState) (place : Option Position)
    (mass : Option ℚ) : ∃ f random, f.id = w.nextEntityId ∧ (∀ m, mass = some m → f.mass = m) ∧
      (mass = none → 0 ≤ f.mass) ∧ spawnFood maths w place mass =
        (w.nextEntityId, { w with
          food := w.food.set w.nextEntityId f
          nextEntityId := w.nextEntityId + 1
          random }) := by
  have hdrawn : ∀ {u : ℚ}, 0 ≤ u → 0 ≤ FOOD_MASS_MIN + u * (FOOD_MASS_MAX - FOOD_MASS_MIN) :=
    fun hu => by
      norm_num [FOOD_MASS_MIN, FOOD_MASS_MAX]
      linarith
  unfold spawnFood
  rcases place with _ | place
  · obtain ⟨p, random, hp⟩ := drawPoint_eq maths w (97 / 100)
    rw [hp]
    rcases mass with _ | mass
    · exact ⟨_, _, rfl, nofun, fun _ => hdrawn (draw_nonneg { w with random }), rfl⟩
    · exact ⟨_, _, rfl, fun _ h => Option.some.inj h, nofun, rfl⟩
  · rcases mass with _ | mass
    · exact ⟨_, _, rfl, nofun, fun _ => hdrawn (draw_nonneg w), rfl⟩
    · exact ⟨_, _, rfl, fun _ h => Option.some.inj h, nofun, rfl⟩

/-- Each pellet is by its id, and of no negative mass. -/
def Light (w : WorldState) : Prop := w.food.All fun id f => f.id = id ∧ 0 ≤ f.mass

/-- A pellet is spawned with the mass it is given, or the mass of new food. -/
theorem Light.spawnFood (hw : w.Light) (maths : Maths) (place : Option Position) {mass : Option ℚ}
    (hmass : ∀ m, mass = some m → 0 ≤ m) : (spawnFood maths w place mass).2.Light := by
  obtain ⟨f, random, hid, hgiven, hdrawn, heq⟩ := spawnFood_mass maths w place mass
  rw [heq]
  refine OrderedMap.All.set hw ⟨hid, ?_⟩
  cases mass with
  | none => exact hdrawn rfl
  | some m => exact (hgiven m rfl).symm ▸ hmass m rfl

/-- Any number of pellets. -/
theorem Light.spawnFoods (maths : Maths) : ∀ (n : ℕ) {w : WorldState}, w.Light →
    (spawnFoods maths n w).Light
  | 0, _, hw => hw
  | n + 1, _, hw => Light.spawnFoods maths n (hw.spawnFood maths none nofun)

/-- A pellet that is scattered: a new one, of a given mass, which expires. -/
theorem scatterOne_mass (config : SimulationConfig) (maths : Maths) (snake : SnakeEntity)
    (drops : ℕ) (per : ℚ) (w : WorldState) (i : ℕ) :
    ∃ f random expiresAtTick, f.id = w.nextEntityId ∧ f.mass = per ∧
      scatterOne maths config snake drops per w i = { w with
        food := (w.food.set w.nextEntityId f).update w.nextEntityId fun food =>
          { food with expiresAtTick }
        nextEntityId := w.nextEntityId + 1
        random } := by
  unfold scatterOne
  generalize snake.pointAt _ = point
  obtain ⟨u, random, hu⟩ := draw_eq w
  obtain ⟨v, random', hv⟩ := draw_eq { w with random }
  rw [hu]
  dsimp only
  rw [hv]
  dsimp only
  obtain ⟨f, random'', hid, hmass, -, heq⟩ :=
    spawnFood_mass maths { w with random := random' } (some _) (some per)
  rw [heq]
  exact ⟨f, random'', _, hid, hmass per rfl, rfl⟩

/-- The drops of a snake share a part of its mass. -/
theorem Light.scatterMass (hw : w.Light) (config : SimulationConfig) (maths : Maths)
    {snake : SnakeEntity} (hmass : 0 ≤ snake.mass) : (scatterMass maths config w snake).Light := by
  unfold Game.scatterMass
  dsimp only
  refine List.foldlRecOn (motive := Light) _ _ hw fun w hw i _ => ?_
  obtain ⟨f, random, expiresAtTick, hid, hper, heq⟩ := scatterOne_mass config maths snake
    (min 60 (max 3 ⌊snake.mass * (6 / 10) / 4⌋₊))
    (snake.mass * (6 / 10) / (min 60 (max 3 ⌊snake.mass * (6 / 10) / 4⌋₊) : ℕ)) w i
  rw [heq]
  refine OrderedMap.All.update (OrderedMap.All.set hw ⟨hid, ?_⟩) fun _ h => h
  rw [hper]
  positivity

/-- The ids of the food have all been given out. -/
def Issued (w : WorldState) : Prop := w.food.All fun id _ => id < w.nextEntityId

/-- One pellet more, of its mass. -/
theorem foodMass_scatterOne (hw : w.Issued) (snake : SnakeEntity) (drops : ℕ) (per : ℚ) (i : ℕ) :
    (scatterOne maths config snake drops per w i).Issued ∧
      foodMass (scatterOne maths config snake drops per w i).food = foodMass w.food + per := by
  obtain ⟨f, random, expiresAtTick, hid, hper, heq⟩ :=
    scatterOne_mass config maths snake drops per w i
  have hnone : w.food.get w.nextEntityId = none := by
    cases h : w.food.get w.nextEntityId with
    | none => rfl
    | some g => exact absurd (hw _ g h) (lt_irrefl _)
  rw [heq]
  constructor
  · refine OrderedMap.All.update (OrderedMap.All.set ?_ (Nat.lt_succ_self _)) fun _ h => h
    exact OrderedMap.All.imp hw fun _ _ => Nat.lt_succ_of_lt
  · have hget : (w.food.set w.nextEntityId f).get w.nextEntityId = some f := by
      rw [OrderedMap.get_set, if_pos rfl]
    unfold foodMass
    rw [OrderedMap.sum_update _ _ hget, OrderedMap.values_set hnone, List.map_append,
      List.sum_append, List.map_singleton, List.sum_singleton, hper, sub_self, add_zero]

/-- The drops add up to the share of each. -/
theorem foodMass_scatters (hw : w.Issued) (snake : SnakeEntity) (drops : ℕ) (per : ℚ) (n : ℕ) :
    ((List.range n).foldl (scatterOne maths config snake drops per) w).Issued ∧
      foodMass ((List.range n).foldl (scatterOne maths config snake drops per) w).food =
        foodMass w.food + n * per := by
  induction n with
  | zero => exact ⟨hw, by simp⟩
  | succ n ih =>
      rw [List.range_succ, List.foldl_append, List.foldl_cons, List.foldl_nil]
      obtain ⟨hissued, hmass⟩ := @foodMass_scatterOne config maths _ ih.1 snake drops per n
      refine ⟨hissued, hmass.trans ?_⟩
      rw [ih.2]
      push_cast
      ring

/-- Six tenths of the mass of the snake. -/
theorem foodMass_scatterMass (hw : w.Issued) (snake : SnakeEntity) :
    (scatterMass maths config w snake).Issued ∧
      foodMass (scatterMass maths config w snake).food =
        foodMass w.food + snake.mass * (6 / 10) := by
  unfold scatterMass
  dsimp only
  obtain ⟨hissued, hmass⟩ := @foodMass_scatters config maths w hw snake
    (min 60 (max 3 ⌊snake.mass * (6 / 10) / 4⌋₊))
    (snake.mass * (6 / 10) / (min 60 (max 3 ⌊snake.mass * (6 / 10) / 4⌋₊) : ℕ))
    (min 60 (max 3 ⌊snake.mass * (6 / 10) / 4⌋₊))
  refine ⟨hissued, hmass.trans ?_⟩
  have hdrops : ((min 60 (max 3 ⌊snake.mass * (6 / 10) / 4⌋₊) : ℕ) : ℚ) ≠ 0 := by
    have : 0 < min 60 (max 3 ⌊snake.mass * (6 / 10) / 4⌋₊) := by
      simp only [lt_min_iff, lt_max_iff]
      exact ⟨by norm_num, .inl (by norm_num)⟩
    exact_mod_cast this.ne'
  rw [mul_div_cancel₀ _ hdrops]

/-! ### Every run -/

/-- Where only food changes, what is there can be eaten. -/
theorem Edible.feeds (hw : w.Edible maths) (h : Feeds w w') (hlight : w'.Light) :
    w'.Edible maths :=
  ⟨h.all (fun _ _ e hs => e ▸ hs) hw.snakes, hlight⟩

/-- What is left of a snake can be eaten. -/
theorem Edible.scatterMass (hw : w.Edible maths) (config : SimulationConfig) {snake : SnakeEntity}
    (hsnake : snake.Sound maths) : (scatterMass maths config w snake).Edible maths :=
  hw.feeds (feeds_scatterMass config snake)
    (Light.scatterMass hw.food config maths (zero_le_one.trans hsnake.mass))

/-- A pellet eaten leaves the others. -/
theorem eatOne_light (id : EntityId) (head : Position) (reach : ℚ) {s : Eating}
    (hs : s.world.Light) (foodId : EntityId) :
    (eatOne maths id head reach s foodId).world.Light := by
  unfold eatOne
  split
  · exact hs
  · split_ifs
    · exact OrderedMap.All.delete hs
    · exact hs

/-- A meal leaves food that weighs. -/
theorem Light.consumeFood (hw : w.Light) (config : SimulationConfig) (maths : Maths) :
    (consumeFood config maths w).1.Light := by
  unfold Game.consumeFood
  refine List.foldlRecOn (motive := fun s : Eating => s.world.Light) _ _ hw fun s hs id _ => ?_
  unfold eat
  split
  · exact hs
  · split_ifs
    · exact List.foldlRecOn (motive := fun s : Eating => s.world.Light) _ _ hs
        fun s hs foodId _ => eatOne_light id _ _ hs foodId
    · exact hs

/-- A death drops nothing yet. -/
theorem collide_food (body : BodyHash) (p : WorldState × List DeathEvent) (id : EntityId) :
    (collide maths body p id).1.food = p.1.food := by
  unfold collide
  split
  · rfl
  · split_ifs
    · rfl
    · rfl
    · split <;> rfl

/-- The sweep drops nothing yet. -/
theorem sweep_food (config : SimulationConfig) (maths : Maths) (w : WorldState) :
    (sweep config maths w).1.food = w.food :=
  List.foldlRecOn (motive := fun p : WorldState × List DeathEvent => p.1.food = w.food) _ _ rfl
    fun p hp id _ => (collide_food _ p id).trans hp

/-- After the sweep, what the dead leave can be eaten. -/
theorem Edible.detectCollisions (hw : w.Edible maths) (config : SimulationConfig) :
    (detectCollisions config maths w).1.Edible maths := by
  have hswept : (sweep config maths w).1.Edible maths := by
    refine ⟨(sweep_feasts config w).all (fun s s' (h : Fed maths s s') => h.sound) hw.snakes, ?_⟩
    rw [sweep_food]
    exact hw.food
  refine List.foldlRecOn (motive := fun w : WorldState => w.Edible maths) _ _ hswept
    fun w hw death _ => ?_
  split
  next snake hsnake => exact hw.scatterMass config (hw.snakes _ snake hsnake)
  · exact hw

/-- Old food goes. -/
theorem Light.expireFood (hw : w.Light) : (expireFood w).Light := by
  unfold Game.expireFood
  split_ifs
  · exact hw
  · exact OrderedMap.All.filter hw _

/-- Moves change no pellet. -/
theorem Edible.moved (hw : w.Edible maths) (config : SimulationConfig) :
    (moveSnakes config maths (applyInputs w)).Edible maths := by
  refine ⟨?_, hw.food⟩
  have hstepped := evolves_stepped config w (.refl (moveSnakes config maths (applyInputs w)))
  exact hstepped.all (fun s s' (h : Stepped config maths s s') => h.stays.2.2) hw.snakes

/-- **A step keeps what can be eaten so.**. -/
theorem Edible.step (hw : w.Edible maths) (config : SimulationConfig) :
    (step config maths w).1.Edible maths := by
  have hmoved := hw.moved config
  have hbefore : (beforeCollisions config maths w).1.Edible maths :=
    ⟨(consumeFood_feasts config _).all (fun s s' (h : Fed maths s s') => h.sound) hmoved.snakes,
      Light.consumeFood hmoved.food config maths⟩
  unfold Game.step
  generalize beforeCollisions config maths w = before at hbefore ⊢
  obtain ⟨v, eaten⟩ := before
  dsimp only at hbefore ⊢
  have hdetected := hbefore.detectCollisions config
  generalize Game.detectCollisions config maths v = after at hdetected ⊢
  have hmaintained : (maintainFood config maths after.1).1.Edible maths :=
    hdetected.feeds (feeds_maintainFood config) (Light.spawnFoods maths _ hdetected.food)
  generalize maintainFood config maths after.1 = fed at hmaintained ⊢
  have hexpired : (Game.expireFood fed.1).Edible maths :=
    hmaintained.feeds feeds_expireFood (Light.expireFood hmaintained.food)
  exact ⟨hexpired.snakes, hexpired.food⟩

theorem edible_createWorld (config : SimulationConfig) (maths : Maths) :
    (createWorld config maths).Edible maths := by
  refine Edible.feeds ?_ (feeds_spawnFoods _ _) (Light.spawnFoods maths _ ?_)
  · exact ⟨.empty, .empty⟩
  · exact .empty

/-- It is so after every run of the operations. -/
theorem reachable_edible (h : Reachable (Plays config maths) (· = createWorld config maths) w) :
    w.Edible maths := by
  refine h.invariant (fun _ h => h ▸ edible_createWorld config maths) fun w a w' hw h => ?_
  subst h
  unfold after
  cases a with
  | spawnSnake playerId nickname isBot =>
      dsimp only
      obtain ⟨-, h⟩ | ⟨-, position, angle, random, h⟩ :=
        spawnSnake_cases maths w playerId nickname isBot
      · rwa [h]
      · rw [h]
        exact ⟨hw.snakes.set (fresh_sound ..), hw.food⟩
  | despawnSnake playerId scatter =>
      dsimp only
      unfold despawnSnake
      split
      · exact hw
      · split
        next snake hsnake =>
          split_ifs
          · have hscattered := hw.scatterMass config (hw.snakes _ snake hsnake)
            exact ⟨hscattered.snakes.delete, hscattered.food⟩
          · exact ⟨hw.snakes.delete, hw.food⟩
        · exact ⟨hw.snakes.delete, hw.food⟩
  | enqueueInput playerId command =>
      dsimp only
      unfold enqueueInput
      split
      · exact hw
      · exact ⟨hw.snakes, hw.food⟩
  | step => exact hw.step config

end WorldState

end SnakeArena.Game
