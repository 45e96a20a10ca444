import SnakeArena.Game.Phases
import SnakeArena.Library.Runs

/-!
# Game — the world invariant

What spawning, despawning, inputs and steps keep, in any order.  The entities are indexed and each
snake is as large as its mass says, whatever is enqueued (`Sound`); and a snake whose inputs have
all had a finite heading has a heading and a head (`Headed`), which a step turns by at most the
turn limit and moves by its speed.
-/

namespace SnakeArena.Game
open SnakeArena.Library

/-! ### A snake that moves -/

section Snakes
variable {config : SimulationConfig} {maths : Maths} {s s' : SnakeEntity}

/-- What the message schema asks of an angle first. -/
def InputCommand.Finite (command : InputCommand) : Prop := command.angle.finite?.isSome

/-- It has a heading to turn to, a heading, and a head. -/
structure SnakeEntity.Headed (s : SnakeEntity) : Prop where
  targetAngle : s.targetAngle.isSome
  angle : s.angle.isSome
  head : s.headOf.isSome

/-- A feeding turns nobody. -/
theorem Fed.headed (h : Fed maths s s') (hs : s.Headed) : s'.Headed where
  targetAngle := by
    rw [h.toSteering]
    exact hs.targetAngle
  angle := h.angle ▸ hs.angle
  head := h.headOf ▸ hs.head

/-- The heading is turned, the speed chosen, and the head moved along the one by the other. -/
structure Motion (config : SimulationConfig) (maths : Maths) (s s' : SnakeEntity) : Prop where
  id : s'.id = s.id
  playerId : s'.playerId = s.playerId
  toSteering : s'.toSteering = s.toSteering
  alive : s'.alive = s.alive
  angle : s'.angle = turn config s.angle s.targetAngle
  head : s'.headOf = advance maths s.headOf s'.angle (s'.speed * config.dtSeconds)
  sound : s.Sound maths → s'.Sound maths

/-- Only what a snake weighs, or owes, is changed. -/
theorem SnakeEntity.Sound.sized {s s' : SnakeEntity} (hs : s.Sound maths) (hmass : s'.mass = s.mass)
    (hradius : s'.radius = s.radius) (hscore : s'.score = s.score)
    (hlength : s'.spineLength = s.spineLength) (hcapacity : s'.spineCapacity = s.spineCapacity) :
    s'.Sound maths where
  mass := hmass ▸ hs.mass
  radius := by rw [hradius, hmass, hs.radius]
  score := by rw [hscore, hmass, hs.score]
  spineLength_pos := hlength ▸ hs.spineLength_pos
  spineLength_le := by
    rw [hlength, hmass, hcapacity]
    exact hs.spineLength_le
  spineCapacity := hcapacity.trans hs.spineCapacity

/-- Boosting costs mass, and does not kill. -/
theorem drain_fed (s : SnakeEntity) :
    Fed maths s (drain config maths s) ∧ (drain config maths s).alive = s.alive := by
  have howes : ∀ boostDebt, Fed maths s { s with boostDebt } := fun _ =>
    ⟨rfl, rfl, rfl, rfl, rfl, rfl, rfl, fun h => h, fun hs => hs.sized rfl rfl rfl rfl rfl⟩
  unfold drain
  dsimp only
  split_ifs
  · exact ⟨(howes _).trans (setMass_fed _ _), rfl⟩
  · exact ⟨howes _, rfl⟩

/-- What one move does: mass, turn, speed and head. -/
theorem moveSnake_motion (config : SimulationConfig) (maths : Maths) (s : SnakeEntity) :
    Motion config maths s (moveSnake config maths s) := by
  unfold moveSnake
  generalize (s.boosting && decide (MIN_BOOST_MASS < s.mass)) = canBoost
  dsimp only
  generalize hturned : ({ s with
      angle := turn config s.angle s.targetAngle
      speed := BASE_SPEED * if canBoost then BOOST_SPEED_MULTIPLIER else 1 } : SnakeEntity) = turned
  -- boosting or not, the snake is fed, and as alive as it was
  obtain ⟨hfed, halive⟩ :
    Fed maths turned (if canBoost then drain config maths turned else turned) ∧
      (if canBoost then drain config maths turned else turned).alive = turned.alive := by
    split_ifs
    · exact drain_fed turned
    · exact ⟨Fed.refl _, rfl⟩
  generalize (if canBoost then drain config maths turned else turned) = s₂ at hfed halive ⊢
  subst hturned
  have hsound : s.Sound maths → s₂.Sound maths := fun hs =>
    hfed.sound (hs.sized rfl rfl rfl rfl rfl)
  split_ifs
  · refine ⟨hfed.id, hfed.playerId, hfed.toSteering, halive, hfed.angle, ?_, fun hs =>
      pushPoint_sound _ ((hsound hs).sized rfl rfl rfl rfl rfl)⟩
    exact (Function.update_self ..).trans (by rw [hfed.headOf]; rfl)
  · refine ⟨hfed.id, hfed.playerId, hfed.toSteering, halive, hfed.angle, ?_, fun hs =>
      (hsound hs).sized rfl rfl rfl rfl rfl⟩
    exact (Function.update_self ..).trans (by rw [hfed.headOf]; rfl)

/-- A snake can turn. -/
theorem maxTurn_pos : 0 < maxTurn config := by
  have hrate : (0 : ℚ) < config.tickRateHz := by exact_mod_cast config.tickRateHz_pos
  unfold maxTurn SimulationConfig.dtSeconds MAX_TURN_RATE_RAD_PER_SEC
  positivity

/-- A snake that has a heading turns by at most the turn limit. -/
theorem turn_le {angle targetAngle angle' : ℚ}
    (h : turn config (some angle) (some targetAngle) = some angle') :
    |angle' - angle| ≤ maxTurn config := by
  obtain rfl := Option.some.inj h
  rw [add_sub_cancel_left, abs_le]
  exact ⟨le_max_left _ _, max_le (neg_le_self maxTurn_pos.le) (min_le_left _ _)⟩

/-- A move keeps the headings finite. -/
theorem Motion.headed (h : Motion config maths s s') (hs : s.Headed) : s'.Headed := by
  obtain ⟨a, ha⟩ := Option.isSome_iff_exists.mp hs.angle
  obtain ⟨t, ht⟩ := Option.isSome_iff_exists.mp hs.targetAngle
  obtain ⟨p, hp⟩ := Option.isSome_iff_exists.mp hs.head
  have hangle : s'.angle.isSome := by
    rw [h.angle, ha, ht]
    rfl
  refine ⟨h.toSteering ▸ hs.targetAngle, hangle, ?_⟩
  obtain ⟨a', ha'⟩ := Option.isSome_iff_exists.mp hangle
  rw [h.head, hp, ha']
  rfl

/-- The turn and the way of a snake in a step. -/
structure Travels (config : SimulationConfig) (maths : Maths) (s s' : SnakeEntity) : Prop where
  turned : ∃ a a', s.angle = some a ∧ s'.angle = some a' ∧
    |a' - a| ≤ MAX_TURN_RATE_RAD_PER_SEC / config.tickRateHz
  moved : ∃ a' p p', s'.angle = some a' ∧ s.headOf = some p ∧ s'.headOf = some p' ∧
    p'.x = p.x + maths.cos a' * (s'.speed / config.tickRateHz) ∧
    p'.y = p.y + maths.sin a' * (s'.speed / config.tickRateHz)

/-- **A move is as long as the speed of the tick, along the new heading**, which turned by the limit
at most. -/
theorem Motion.travels (h : Motion config maths s s') (hs : s.Headed) :
    Travels config maths s s' := by
  obtain ⟨a, ha⟩ := Option.isSome_iff_exists.mp hs.angle
  obtain ⟨t, ht⟩ := Option.isSome_iff_exists.mp hs.targetAngle
  obtain ⟨p, hp⟩ := Option.isSome_iff_exists.mp hs.head
  obtain ⟨a', ha'⟩ := Option.isSome_iff_exists.mp (h.headed hs).angle
  obtain ⟨p', hp'⟩ := Option.isSome_iff_exists.mp (h.headed hs).head
  have hturn := h.angle
  have hhead := h.head
  rw [ha, ht, ha'] at hturn
  rw [hp, hp', ha', SimulationConfig.dtSeconds, mul_one_div] at hhead
  refine ⟨⟨a, a', ha, ha', ?_⟩, ⟨a', p, p', ha', hp, hp', ?_, ?_⟩⟩
  · rw [← mul_one_div]
    exact turn_le hturn.symm
  · exact congrArg Vec.x (Option.some.inj hhead)
  · exact congrArg Vec.y (Option.some.inj hhead)

end Snakes

/-! ### The world -/

namespace WorldState
variable (maths : Maths)

/-- The entities are indexed, and their ids are their own. -/
structure Sound (w : WorldState) : Prop where
  /-- The players and the snakes are in bijection. -/
  indexed : ∀ p id, w.playerIndex.get p = some id ↔ ∃ s, w.snakes.get id = some s ∧ s.playerId = p
  snakes : w.snakes.All fun id s => s.id = id ∧ id < w.nextEntityId ∧ s.Sound maths
  food : w.food.All fun id f => f.id = id ∧ id < w.nextEntityId
  distinct : ∀ id s f, w.snakes.get id = some s → w.food.get id ≠ some f

variable {maths} {w w' : WorldState}

/-- Who a snake is, and that it is sound, lasts. -/
def Stays (maths : Maths) (s s' : SnakeEntity) : Prop :=
  s'.id = s.id ∧ s'.playerId = s.playerId ∧ (s.Sound maths → s'.Sound maths)

/-- A phase that keeps each snake sound keeps the world so. -/
theorem Sound.evolves (hw : w.Sound maths) (h : Evolves (Stays maths) w w') : w'.Sound maths where
  indexed p id := by
    rw [h.playerIndex, hw.indexed]
    constructor
    · rintro ⟨s, hs, rfl⟩
      obtain ⟨s', hs', -, hplayer, -⟩ := h.forth hs
      exact ⟨s', hs', hplayer⟩
    · rintro ⟨s', hs', rfl⟩
      obtain ⟨s, hs, -, hplayer, -⟩ := h.back hs'
      exact ⟨s, hs, hplayer.symm⟩
  snakes id s' hs' := by
    obtain ⟨s, hs, hid, -, hsound⟩ := h.back hs'
    obtain ⟨hown, hlt, hs⟩ := hw.snakes id s hs
    exact ⟨hid.trans hown, hlt.trans_le h.nextEntityId, hsound hs⟩
  food id f hf := by
    rcases h.food id f hf with ⟨g, hg, hfg⟩ | ⟨hid, -, hlt⟩
    · obtain ⟨hown, hlt⟩ := hw.food id g hg
      exact ⟨hfg.trans hown, hlt.trans_le h.nextEntityId⟩
    · exact ⟨hid, hlt⟩
  distinct id s' f hs' hf := by
    obtain ⟨s, hs, -⟩ := h.back hs'
    rcases h.food id f hf with ⟨g, hg, -⟩ | ⟨-, hle, -⟩
    · exact hw.distinct id s g hs hg
    · exact absurd (hw.snakes id s hs).2.1 hle.not_gt

/-- A step keeps each snake sound. -/
theorem Stepped.stays {config : SimulationConfig} {s s' : SnakeEntity}
    (h : Stepped config maths s s') : Stays maths s s' := by
  obtain ⟨s₁, s₂, ⟨steering, rfl⟩, hmoved, hfed⟩ := h
  unfold Moved at hmoved
  have hset : s.Sound maths → SnakeEntity.Sound maths { s with toSteering := steering } :=
    fun hs => hs.sized rfl rfl rfl rfl rfl
  split at hmoved
  · have hmotion := moveSnake_motion config maths { s with toSteering := steering }
    subst hmoved
    exact ⟨hfed.id.trans hmotion.id, hfed.playerId.trans hmotion.playerId, fun hs =>
      hfed.sound (hmotion.sound (hset hs))⟩
  · subst hmoved
    exact ⟨hfed.id, hfed.playerId, fun hs => hfed.sound (hset hs)⟩

/-- **A step keeps the world sound.**. -/
theorem Sound.step (config : SimulationConfig) (hw : w.Sound maths) :
    (step config maths w).1.Sound maths :=
  hw.evolves ((step_evolves config w).mono fun s s' (h : Stepped config maths s s') => h.stays)

/-- Where only food changes the snakes stay sound. -/
theorem Feeds.stays (h : Feeds w w') : Evolves (Stays maths) w w' :=
  h.mono fun s s' (e : s = s') => e ▸ ⟨rfl, rfl, fun hs => hs⟩

/-- The world with other food. -/
theorem Sound.feeds (hw : w.Sound maths) (h : Feeds w w') : w'.Sound maths :=
  hw.evolves h.stays

/-- A player's entry names a snake of theirs. -/
theorem Sound.entry (hw : w.Sound maths) {playerId : ℕ} {id : EntityId}
    (h : w.playerIndex.get playerId = some id) :
    ∃ s, w.snakes.get id = some s ∧ s.playerId = playerId := (hw.indexed playerId id).mp h

/-- What spawning adds, if it adds anything. -/
theorem spawnSnake_cases (maths : Maths) (w : WorldState) (playerId : ℕ) (nickname : String)
    (isBot : Bool) : ((∃ s, (w.playerIndex.get playerId).bind w.snakes.get = some s) ∧
      spawnSnake maths w playerId nickname isBot = w) ∨
      (w.playerIndex.get playerId).bind w.snakes.get = none ∧ ∃ position angle random,
        spawnSnake maths w playerId nickname isBot =
          { w with
            snakes := w.snakes.set w.nextEntityId
              (.fresh maths w.nextEntityId playerId nickname isBot w.tick position angle)
            playerIndex := w.playerIndex.set playerId w.nextEntityId
            nextEntityId := w.nextEntityId + 1
            random } := by
  unfold spawnSnake
  split
  next s hs => exact .inl ⟨⟨s, hs⟩, rfl⟩
  next hnone =>
    obtain ⟨p, random, hp⟩ := @findSpawnLoop_eq maths 12 w ⟨0, 0⟩ (-1)
    obtain ⟨u, random', hu⟩ := draw_eq { w with random }
    refine .inr ⟨hnone, p, u * PI * 2, random', ?_⟩
    unfold findSpawnPoint
    rw [hp]
    dsimp only
    rw [hu]

/-- A spawn adds a sound snake under a new id, or none if the player has one alive. -/
theorem Sound.spawnSnake (hw : w.Sound maths) (playerId : ℕ) (nickname : String) (isBot : Bool) :
    (spawnSnake maths w playerId nickname isBot).Sound maths := by
  obtain ⟨-, h⟩ | ⟨hnone, position, angle, random, h⟩ :=
    spawnSnake_cases maths w playerId nickname isBot
  · rw [h]
    exact hw
  -- the player has no entry, and nobody has the id
  have hentry : w.playerIndex.get playerId = none := by
    cases hid : w.playerIndex.get playerId with
    | none => rfl
    | some id =>
        obtain ⟨s, hs, -⟩ := hw.entry hid
        rw [hid, Option.bind_some, hs] at hnone
        cases hnone
  have hnext : ∀ s, w.snakes.get w.nextEntityId ≠ some s := fun s hs =>
    lt_irrefl _ (hw.snakes _ s hs).2.1
  rw [h]
  constructor
  · intro p id
    dsimp only
    rw [OrderedMap.get_set, OrderedMap.get_set]
    by_cases hp : p = playerId
    · subst hp
      rw [if_pos rfl]
      constructor
      · rintro ⟨⟩
        exact ⟨_, if_pos rfl, rfl⟩
      · rintro ⟨s, hs, rfl⟩
        split at hs
        next hid => rw [hid]
        · exact absurd ((hw.indexed _ id).mpr ⟨s, hs, rfl⟩) (by rw [hentry]; rintro ⟨⟩)
    · rw [if_neg hp, hw.indexed]
      constructor
      · rintro ⟨s, hs, rfl⟩
        exact ⟨s, by rw [if_neg fun e : id = w.nextEntityId => hnext s (e ▸ hs), hs], rfl⟩
      · rintro ⟨s, hs, rfl⟩
        split at hs
        · obtain rfl := Option.some.inj hs
          exact absurd rfl hp
        · exact ⟨s, hs, rfl⟩
  · refine OrderedMap.All.set
      (hw.snakes.imp fun id s hs => ⟨hs.1, hs.2.1.trans (Nat.lt_succ_self _),
      hs.2.2⟩) ⟨rfl, Nat.lt_succ_self _, fresh_sound ..⟩
  · exact hw.food.imp fun id f hf => ⟨hf.1, hf.2.trans (Nat.lt_succ_self _)⟩
  · intro id s f hs hf
    dsimp only at hs hf
    rw [OrderedMap.get_set] at hs
    split at hs
    next hid => exact (hw.food id f hf).2.ne hid
    · exact hw.distinct id s f hs hf

/-- What despawning takes away, once the snake is scattered. -/
theorem despawnSnake_cases (maths : Maths) (config : SimulationConfig) (w : WorldState)
    (playerId : ℕ) (scatter : Bool) : despawnSnake maths config w playerId scatter = w ∨
      ∃ id v, w.playerIndex.get playerId = some id ∧ Feeds w v ∧
        despawnSnake maths config w playerId scatter =
          { v with
            snakes := v.snakes.delete id
            playerIndex := v.playerIndex.delete playerId
            pendingInputs := v.pendingInputs.delete id } := by
  unfold despawnSnake
  split
  · exact .inl rfl
  next id hid =>
    refine .inr ⟨id, _, hid, ?_, rfl⟩
    split
    · split_ifs
      · exact feeds_scatterMass _ _
      · exact .refl _
    · exact .refl _

/-- A despawn takes a snake with its index and its queue. -/
theorem Sound.despawnSnake (config : SimulationConfig) (hw : w.Sound maths) (playerId : ℕ)
    (scatter : Bool) : (despawnSnake maths config w playerId scatter).Sound maths := by
  obtain h | ⟨id, v, hid, hfeeds, h⟩ := despawnSnake_cases maths config w playerId scatter
  · rw [h]
    exact hw
  rw [h]
  have hv := hw.feeds hfeeds
  have hentry : v.playerIndex.get playerId = some id := by rw [hfeeds.playerIndex, hid]
  obtain ⟨s, hs, hplayer⟩ := hv.entry hentry
  constructor
  · intro p id'
    dsimp only
    rw [OrderedMap.get_delete, OrderedMap.get_delete]
    by_cases hp : p = playerId
    · subst hp
      rw [if_pos rfl]
      refine ⟨nofun, ?_⟩
      rintro ⟨s', hs', hplayer'⟩
      split at hs'
      · cases hs'
      next hne =>
        exact absurd (Option.some.inj (hentry.symm.trans ((hv.indexed p id').mpr
          ⟨s', hs', hplayer'⟩))).symm hne
    · rw [if_neg hp, hv.indexed]
      constructor
      · rintro ⟨s', hs', rfl⟩
        refine ⟨s', ?_, rfl⟩
        rw [if_neg, hs']
        rintro rfl
        obtain rfl := Option.some.inj (hs.symm.trans hs')
        exact hp hplayer
      · rintro ⟨s', hs', rfl⟩
        split at hs'
        · cases hs'
        · exact ⟨s', hs', rfl⟩
  · exact hv.snakes.delete
  · exact hv.food
  · intro id' s' f hs' hf
    dsimp only at hs'
    rw [OrderedMap.get_delete] at hs'
    split at hs'
    · cases hs'
    · exact hv.distinct id' s' f hs' hf

/-- A queue is no snake. -/
theorem Sound.enqueueInput (hw : w.Sound maths) (playerId : ℕ) (command : InputCommand) :
    (enqueueInput w playerId command).Sound maths := by
  unfold Game.enqueueInput
  split
  · exact hw
  · exact ⟨hw.indexed, hw.snakes, hw.food, hw.distinct⟩

/-- An empty world, with its first food. -/
theorem sound_createWorld (config : SimulationConfig) : (createWorld config maths).Sound maths := by
  refine Sound.feeds ?_ (feeds_spawnFoods _ _)
  constructor
  · exact fun p id => ⟨nofun, fun ⟨s, hs, _⟩ => nomatch hs⟩
  · exact .empty
  · exact .empty
  · exact fun id s f hs => nomatch hs

/-! ### Headings -/

/-- Every snake has a head and a heading, and no input is to take them away. -/
structure Headed (w : WorldState) : Prop where
  snakes : w.snakes.All fun _ s => s.Headed
  pendingInputs : w.pendingInputs.All fun _ queue => ∀ command ∈ queue, command.Finite

/-- What is queued is finite, so what is applied is. -/
theorem Headed.applyInputs (hw : w.Headed) : (applyInputs w).snakes.All fun _ s => s.Headed := by
  intro id s' hs'
  dsimp only [Game.applyInputs] at hs'
  rw [OrderedMap.get_mapValues, Option.map_eq_some_iff] at hs'
  obtain ⟨s, hs, rfl⟩ := hs'
  have hheaded := hw.snakes id s hs
  split
  next queue hqueue =>
    split_ifs
    · refine ⟨?_, hheaded.angle, hheaded.head⟩
      -- each command of the queue leaves a heading to turn to
      refine List.foldlRecOn queue Steering.apply (motive := fun st => st.targetAngle.isSome)
        hheaded.targetAngle fun st hst command hc => ?_
      unfold Steering.apply
      split_ifs
      · exact hw.pendingInputs id queue hqueue command hc
      · exact hst
    · exact hheaded
  · exact hheaded

/-- A move of a snake, dead or alive, keeps its headings finite. -/
theorem moved_headed {config : SimulationConfig} {s s' : SnakeEntity} (h : Moved config maths s s')
    (hs : s.Headed) : s'.Headed := by
  unfold Moved at h
  split at h
  · exact h ▸ (moveSnake_motion config maths s).headed hs
  · exact h ▸ hs

/-- A step keeps the headings finite. -/
theorem Headed.step (config : SimulationConfig) (maths : Maths) (hw : w.Headed) :
    (step config maths w).1.Headed where
  snakes := (step_feasts config w).all (fun s s' (h : Fed maths s s') => h.headed)
    ((moveSnakes_moves config _).all (fun s s' (h : Moved config maths s s') => moved_headed h)
      hw.applyInputs)
  pendingInputs id queue hq := by
    rcases (@step_evolves maths config w).pendingInputs id queue hq with rfl | h
    · exact nofun
    · exact hw.pendingInputs id queue h

/-- Food has no heading. -/
theorem Headed.feeds (hw : w.Headed) (h : Feeds w w') : w'.Headed where
  snakes := h.all (fun s s' (e : s = s') hs => e ▸ hs) hw.snakes
  pendingInputs id queue hq := by
    rcases h.pendingInputs id queue hq with rfl | h
    · exact nofun
    · exact hw.pendingInputs id queue h

/-- A new snake heads where its angle says. -/
theorem fresh_headed (id : EntityId) (playerId : ℕ) (nickname : String) (isBot : Bool) (tick : ℕ)
    (position : Vec) (angle : ℚ) :
    (SnakeEntity.fresh maths id playerId nickname isBot tick position angle).Headed where
  targetAngle := rfl
  angle := rfl
  head := by
    unfold SnakeEntity.headOf SnakeEntity.fresh
    dsimp only
    split_ifs <;> rfl

/-- A spawn draws its angle. -/
theorem Headed.spawnSnake (hw : w.Headed) (maths : Maths) (playerId : ℕ) (nickname : String)
    (isBot : Bool) : (spawnSnake maths w playerId nickname isBot).Headed := by
  obtain ⟨-, h⟩ | ⟨-, position, angle, random, h⟩ :=
    spawnSnake_cases maths w playerId nickname isBot
  · rw [h]
    exact hw
  · rw [h]
    exact ⟨hw.snakes.set (fresh_headed ..), hw.pendingInputs⟩

/-- A despawn leaves the others' headings. -/
theorem Headed.despawnSnake (hw : w.Headed) (config : SimulationConfig) (maths : Maths)
    (playerId : ℕ) (scatter : Bool) : (despawnSnake maths config w playerId scatter).Headed := by
  obtain h | ⟨id, v, -, hfeeds, h⟩ := despawnSnake_cases maths config w playerId scatter
  · rw [h]
    exact hw
  · rw [h]
    have hv := hw.feeds hfeeds
    exact ⟨hv.snakes.delete, hv.pendingInputs.delete⟩

/-- A finite command is queued. -/
theorem Headed.enqueueInput (hw : w.Headed) (playerId : ℕ) {command : InputCommand}
    (hfinite : command.Finite) : (enqueueInput w playerId command).Headed := by
  unfold Game.enqueueInput
  split
  · exact hw
  next id _ =>
    refine ⟨hw.snakes, hw.pendingInputs.set fun c hc => ?_⟩
    rcases List.mem_append.mp hc with hc | hc
    · cases hqueue : w.pendingInputs.get id with
      | none => rw [hqueue] at hc; cases hc
      | some queue => exact hw.pendingInputs id queue hqueue c (by rwa [hqueue] at hc)
    · exact List.mem_singleton.mp hc ▸ hfinite

/-- Nobody is there yet. -/
theorem headed_createWorld (config : SimulationConfig) (maths : Maths) :
    (createWorld config maths).Headed := Headed.feeds ⟨.empty, .empty⟩ (feeds_spawnFoods _ _)

/-- A snake that lives through a step has its head strictly inside. -/
theorem Headed.inside (config : SimulationConfig) (maths : Maths) (hw : w.Headed) {id : EntityId}
    {s : SnakeEntity} (hs : (Game.step config maths w).1.snakes.get id = some s)
    (halive : s.alive = true) :
    ∃ p, s.headOf = some p ∧ maths.hypot p.x p.y < (Game.step config maths w).1.radius := by
  obtain ⟨p, hp⟩ := Option.isSome_iff_exists.mp ((hw.step config maths).snakes id s hs).head
  have hinside := step_inside config w id s hs halive
  unfold outside at hinside
  rw [hp, Option.any_some, decide_eq_false_iff_not, not_le] at hinside
  exact ⟨p, hp, hinside⟩

/-- A living snake travels in a step, whether it lives through it or not. -/
theorem Headed.travels (config : SimulationConfig) (maths : Maths) (hw : w.Headed) {id : EntityId}
    {s : SnakeEntity} (hs : w.snakes.get id = some s) (halive : s.alive = true) :
    ∃ s', (Game.step config maths w).1.snakes.get id = some s' ∧ Travels config maths s s' := by
  obtain ⟨s₁, hs₁, steering, rfl⟩ := (applyInputs_steers w).forth hs
  obtain ⟨s₂, hs₂, hmoved⟩ := (@moveSnakes_moves maths config _).forth hs₁
  obtain ⟨s', hs', hfed⟩ := (step_feasts config w).forth hs₂
  unfold Moved at hmoved
  rw [if_pos halive] at hmoved
  obtain ⟨⟨a, a', ha, ha', hturn⟩, ⟨b, p, p', hb, hp, hp', hx, hy⟩⟩ :=
    (moveSnake_motion config maths _).travels (hw.applyInputs id _ hs₁)
  rw [← hmoved] at ha' hb hp' hx hy
  refine ⟨s', hs', ⟨a, a', ha, hfed.angle.trans ha', hturn⟩,
    ⟨b, p, p', hfed.angle.trans hb, hp, hfed.headOf.trans hp', ?_, ?_⟩⟩
  · rw [hfed.speed]
    exact hx
  · rw [hfed.speed]
    exact hy

end WorldState

/-! ### Any run -/

/-- What is done to a world. -/
inductive WorldAct where
  | spawnSnake (playerId : ℕ) (nickname : String) (isBot : Bool)
  | despawnSnake (playerId : ℕ) (scatter : Bool)
  | enqueueInput (playerId : ℕ) (command : InputCommand)
  | step

/-- The world after it. -/
def WorldState.after (config : SimulationConfig) (maths : Maths) (w : WorldState) :
    WorldAct → WorldState
  | .spawnSnake playerId nickname isBot => spawnSnake maths w playerId nickname isBot
  | .despawnSnake playerId scatter => despawnSnake maths config w playerId scatter
  | .enqueueInput playerId command => enqueueInput w playerId command
  | .step => (step config maths w).1

/-- One step of a run. -/
def Plays (config : SimulationConfig) (maths : Maths) (w : WorldState) (a : WorldAct)
    (w' : WorldState) : Prop := w.after config maths a = w'

/-- An id given out is not given out again: a snake afterwards was there, and nothing but a step
changes it. -/
theorem WorldState.after_life (config : SimulationConfig) (maths : Maths) (w : WorldState)
    (a : WorldAct) {id : EntityId} (hid : id < w.nextEntityId) :
    id < (w.after config maths a).nextEntityId ∧
      ∀ s', (w.after config maths a).snakes.get id = some s' →
        ∃ s, w.snakes.get id = some s ∧ (s' = s ∨ a = .step) := by
  unfold after
  cases a with
  | spawnSnake playerId nickname isBot =>
      dsimp only
      obtain ⟨-, h⟩ | ⟨-, position, angle, random, h⟩ :=
        spawnSnake_cases maths w playerId nickname isBot
      · rw [h]
        exact ⟨hid, fun s' hs' => ⟨s', hs', .inl rfl⟩⟩
      · rw [h]
        refine ⟨Nat.lt_succ_of_lt hid, fun s' hs' => ⟨s', ?_, .inl rfl⟩⟩
        rwa [OrderedMap.get_set, if_neg hid.ne] at hs'
  | despawnSnake playerId scatter =>
      dsimp only
      obtain h | ⟨entry, v, -, hfeeds, h⟩ := despawnSnake_cases maths config w playerId scatter
      · rw [h]
        exact ⟨hid, fun s' hs' => ⟨s', hs', .inl rfl⟩⟩
      · rw [h]
        refine ⟨hid.trans_le hfeeds.nextEntityId, fun s' hs' => ⟨s', ?_, .inl rfl⟩⟩
        rw [OrderedMap.get_delete] at hs'
        split at hs'
        · cases hs'
        · exact (hfeeds.snakes_eq id).symm.trans hs'
  | enqueueInput playerId command =>
      dsimp only
      unfold Game.enqueueInput
      split
      · exact ⟨hid, fun s' hs' => ⟨s', hs', .inl rfl⟩⟩
      · exact ⟨hid, fun s' hs' => ⟨s', hs', .inl rfl⟩⟩
  | step =>
      have hevolves := @step_evolves maths config w
      refine ⟨hid.trans_le hevolves.nextEntityId, fun s' hs' => ?_⟩
      obtain ⟨s, hs, -⟩ := hevolves.back hs'
      exact ⟨s, hs, .inr rfl⟩

/-- The headings that are enqueued are finite. -/
def FiniteHeading (_ : WorldState) : WorldAct → Prop
  | .enqueueInput _ command => command.Finite
  | _ => True

/-- Every operation keeps the world sound. -/
theorem WorldState.Sound.after {w : WorldState} {maths : Maths} (hw : w.Sound maths)
    (config : SimulationConfig) (a : WorldAct) : (w.after config maths a).Sound maths := by
  cases a with
  | spawnSnake playerId nickname isBot => exact hw.spawnSnake playerId nickname isBot
  | despawnSnake playerId scatter => exact hw.despawnSnake config playerId scatter
  | enqueueInput playerId command => exact hw.enqueueInput playerId command
  | step => exact hw.step config

/-- **The world is sound after every run of the operations.**. -/
theorem reachable_sound {config : SimulationConfig} {maths : Maths} {w : WorldState}
    (h : Reachable (Plays config maths) (· = createWorld config maths) w) : w.Sound maths := by
  refine h.invariant (fun _ h => h ▸ WorldState.sound_createWorld config) fun w a w' hw h => ?_
  subst h
  exact hw.after config a

/-- Its headings are finite, if the commands were. -/
theorem reachable_headed {config : SimulationConfig} {maths : Maths} {w : WorldState}
    (h : Reachable (Guarded (Plays config maths) FiniteHeading) (· = createWorld config maths) w) :
    w.Headed := by
  refine h.invariant (fun _ h => h ▸ WorldState.headed_createWorld config maths)
    fun w a w' hw h => ?_
  obtain ⟨rfl, hfinite⟩ := h
  cases a with
  | spawnSnake playerId nickname isBot => exact hw.spawnSnake maths playerId nickname isBot
  | despawnSnake playerId scatter => exact hw.despawnSnake config maths playerId scatter
  | enqueueInput playerId command => exact hw.enqueueInput playerId hfinite
  | step => exact hw.step config maths

/-- After a step from here the living are strictly inside the world, and each snake that was
alive has travelled. -/
structure Advances (config : SimulationConfig) (maths : Maths) (w : WorldState) : Prop where
  inside : ∀ id s, (step config maths w).1.snakes.get id = some s → s.alive = true →
    ∃ p, s.headOf = some p ∧ maths.hypot p.x p.y < (step config maths w).1.radius
  travels : ∀ id s, w.snakes.get id = some s → s.alive = true →
    ∃ s', (step config maths w).1.snakes.get id = some s' ∧ Travels config maths s s'

/-- **The world invariant**, in exact arithmetic: it holds in every world of a run, and where every
angle was a finite number the snakes advance as they should. -/
theorem world_invariant (config : SimulationConfig) (maths : Maths) :
    (∀ w, Reachable (Plays config maths) (· = createWorld config maths) w → w.Sound maths) ∧
      ∀ w, Reachable (Guarded (Plays config maths) FiniteHeading) (· = createWorld config maths) w →
        Advances config maths w := by
  refine ⟨fun w hw => reachable_sound hw, fun w hw => ?_⟩
  have hheaded := reachable_headed hw
  exact ⟨fun id s hs halive => hheaded.inside config maths hs halive,
    fun id s hs halive => hheaded.travels config maths hs halive⟩

/-! ### A heading that is not a number -/

/-- Bits of the square root, from the highest. -/
def rootBits (n : ℕ) : ℕ → ℕ → ℕ
  | 0, r => r
  | k + 1, r => rootBits n k (if (r + 2 ^ k) ^ 2 ≤ n then r + 2 ^ k else r)

/-- A square root, to three decimals. -/
def root (q : ℚ) : ℚ :=
  let n := ⌈q * 1000000⌉.toNat
  let r := rootBits n 24 0
  (if r ^ 2 < n then r + 1 else r : ℕ) / 1000

/-- The terms of the series of a sine or a cosine, in units of `2 ^ (-30)`. -/
def series (x : ℤ) : ℕ → ℤ → ℤ → ℤ → ℤ
  | 0, _, _, total => total
  | k + 1, d, term, total =>
      let term := -(term * x * x) / (2 ^ 60 * d * (d + 1))
      series x k (d + 2) term (total + term)

/-- Square roots to three decimals, sines and cosines to four. -/
def rounded : Maths where
  sqrt := root
  cos x := ⌊(series ⌊x * 2 ^ 30⌋ 16 1 (2 ^ 30) (2 ^ 30) / 2 ^ 14 : ℚ)⌋ / 2 ^ 16
  sin x := ⌊(series ⌊x * 2 ^ 30⌋ 16 2 ⌊x * 2 ^ 30⌋ ⌊x * 2 ^ 30⌋ / 2 ^ 14 : ℚ)⌋ / 2 ^ 16
  hypot x y := root (x * x + y * y)

theorem twenty_pos : 0 < 20 := by decide

theorem eighty_pos : (0 : ℚ) < 80 := by norm_num

/-- An arena of one kilometre, with no food. -/
def bare : SimulationConfig := ⟨20, twenty_pos, 1000, 80, eighty_pos, 1, some 0⟩

/-- A snake and its first input. -/
def entered (angle : Num) : WorldState :=
  enqueueInput (spawnSnake rounded (createWorld bare rounded) 1 "a" false) 1
    ⟨.finite 1, angle, false, .finite 50⟩

theorem entered_reachable (angle : Num) :
    Reachable (Plays bare rounded) (· = createWorld bare rounded) (entered angle) :=
  ⟨_, [.spawnSnake 1 "a" false, .enqueueInput 1 _], rfl, .cons rfl (.cons rfl (.nil _))⟩

theorem world_invariant_entered : ∃ s s', (entered (.finite 1)).snakes.get 1 = some s ∧
    (step bare rounded (entered (.finite 1))).1.snakes.get 1 = some s' ∧
    Travels bare rounded s s' := by
  have halive : ((entered (.finite 1)).snakes.get 1).map (·.alive) = some true := by decide
  obtain ⟨s, hs, halive⟩ := Option.map_eq_some_iff.mp halive
  obtain ⟨s', hs', htravels⟩ := ((world_invariant bare rounded).2 _
    ⟨_, [.spawnSnake 1 "a" false, .enqueueInput 1 ⟨.finite 1, .finite 1, false, .finite 50⟩], rfl,
      .cons ⟨rfl, trivial⟩ (.cons ⟨rfl, rfl⟩ (.nil _))⟩).travels 1 s hs halive
  exact ⟨s, s', hs, hs', htravels⟩

/-- An input whose angle is `NaN` leaves a living snake whose head is nowhere. -/
theorem world_invariant_nan : ¬∀ w,
    Reachable (Plays bare rounded) (· = createWorld bare rounded) w →
    w.Sound rounded ∧ Advances bare rounded w := by
  intro h
  have hlost : ((step bare rounded (entered .nan)).1.snakes.get 1).map
      (fun s => (s.alive, s.headOf)) = some (true, none) := by decide +kernel
  obtain ⟨s, hs, hlost⟩ := Option.map_eq_some_iff.mp hlost
  obtain ⟨p, hp, -⟩ := (h _ (entered_reachable .nan)).2.inside 1 s hs (congrArg Prod.fst hlost)
  exact absurd ((congrArg Prod.snd hlost).symm.trans hp) nofun

end SnakeArena.Game
