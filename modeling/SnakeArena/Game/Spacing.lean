import SnakeArena.Game.Inputs
import SnakeArena.Library.Trail

/-!
# Game — the spacing of a body

A snake records a point whenever the way since the last one fills a spacing, and carries what is
over: one spacing is taken off in a step, whatever the step fills.  Beside a run goes the trail of
one snake, its way and the steps in which it recorded a point, read off its speed and the index of
its head.

The points are even, and what is carried is less than a spacing, exactly as long as no step of the
snake fills two (`even_spacing`).  From 35 ticks a second on none does; at 20 a snake that boosts
does so after two steps.
-/

namespace SnakeArena.Game
open SnakeArena.Library

section Spacing
variable (config : SimulationConfig) (maths : Maths)

/-- How far a snake goes in a step, with its inputs set. -/
def stepTravel (s : SnakeEntity) : ℚ :=
  BASE_SPEED * (if s.boosting && decide (MIN_BOOST_MASS < s.mass)
    then BOOST_SPEED_MULTIPLIER else 1) *
    config.dtSeconds

/-- The trail of a snake after a step: a point is recorded when the head has a new index. -/
def trailed (id : EntityId) (w w' : WorldState) (t : Trail ℚ) : Trail ℚ :=
  match w.snakes.get id, w'.snakes.get id with
  | some s, some s' =>
      if s.alive then t.go (s'.speed * config.dtSeconds) (s'.headIndex ≠ s.headIndex) else t
  | _, _ => t

/-- A world, and the trail of one snake in it. -/
structure Watched where
  world : WorldState
  trail : Trail ℚ

namespace Watched

def after (id : EntityId) (v : Watched) (act : WorldAct) : Watched where
  world := v.world.after config maths act
  trail :=
    match act with
    | .step => trailed config id v.world (v.world.after config maths act) v.trail
    | _ => v.trail

def Step (id : EntityId) (v : Watched) (act : WorldAct) (v' : Watched) : Prop :=
  v.after config maths id act = v'

def start : Watched := ⟨createWorld config maths, .empty⟩

/-- What the snake carries is less than a spacing, and its points are even. -/
def Even (id : EntityId) (v : Watched) : Prop :=
  (∀ s, v.world.snakes.get id = some s →
    0 ≤ s.sinceLastPoint ∧ s.sinceLastPoint < SEGMENT_SPACING) ∧
    v.trail.marks.IsChain (Trail.Spaced SEGMENT_SPACING)

/-- The step of the snake does not fill two spacings with what it carries. -/
def Roomy (id : EntityId) (v : Watched) : WorldAct → Prop
  | .step => ∀ s, (applyInputs v.world).snakes.get id = some s → s.alive = true →
      s.sinceLastPoint + stepTravel config s < 2 * SEGMENT_SPACING
  | _ => True

end Watched

end Spacing

/-! ### One step of a snake -/

section Snakes
variable {config : SimulationConfig} {maths : Maths} {s s' : SnakeEntity}

theorem drain_spine (s : SnakeEntity) : (drain config maths s).sinceLastPoint = s.sinceLastPoint ∧
    (drain config maths s).headIndex = s.headIndex ∧ (drain config maths s).speed = s.speed ∧
      (drain config maths s).spineCapacity = s.spineCapacity := by
  unfold drain
  dsimp only
  split_ifs <;> exact ⟨rfl, rfl, rfl, rfl⟩

/-- A spacing is taken off once, and then the head is a new point. -/
theorem moveSnake_spine (config : SimulationConfig) (maths : Maths) (s : SnakeEntity) :
    (moveSnake config maths s).speed * config.dtSeconds = stepTravel config s ∧
      if SEGMENT_SPACING ≤ s.sinceLastPoint + stepTravel config s then
        (moveSnake config maths s).sinceLastPoint =
            s.sinceLastPoint + stepTravel config s - SEGMENT_SPACING ∧
          (moveSnake config maths s).headIndex = (s.headIndex + 1) % s.spineCapacity
      else
        (moveSnake config maths s).sinceLastPoint = s.sinceLastPoint + stepTravel config s ∧
          (moveSnake config maths s).headIndex = s.headIndex := by
  unfold moveSnake stepTravel
  generalize (s.boosting && decide (MIN_BOOST_MASS < s.mass)) = canBoost
  dsimp only
  generalize hturned : ({ s with
      angle := turn config s.angle s.targetAngle
      speed := BASE_SPEED * if canBoost then BOOST_SPEED_MULTIPLIER else 1 } : SnakeEntity) = turned
  obtain ⟨hsince, hindex, hspeed, hcapacity⟩ :
      (if canBoost then drain config maths turned else turned).sinceLastPoint = s.sinceLastPoint ∧
      (if canBoost then drain config maths turned else turned).headIndex = s.headIndex ∧
      (if canBoost then drain config maths turned else turned).speed =
        BASE_SPEED * (if canBoost then BOOST_SPEED_MULTIPLIER else 1) ∧
      (if canBoost then drain config maths turned else turned).spineCapacity = s.spineCapacity := by
    subst hturned
    cases canBoost with
    | false => exact ⟨rfl, rfl, rfl, rfl⟩
    | true =>
        obtain ⟨hsince, hindex, hspeed, hcapacity⟩ := @drain_spine config maths _
        exact ⟨hsince, hindex, hspeed, hcapacity⟩
  generalize (if canBoost then drain config maths turned else turned) = s₂ at *
  rw [← hspeed, ← hsince, ← hindex, ← hcapacity]
  by_cases hfull : SEGMENT_SPACING ≤ s₂.sinceLastPoint + s₂.speed * config.dtSeconds
  · rw [if_pos hfull, if_pos hfull]
    exact ⟨rfl, rfl, rfl⟩
  · rw [if_neg hfull, if_neg hfull]
    exact ⟨rfl, rfl, rfl⟩

end Snakes

/-! ### The trail of a snake -/

namespace Watched
variable {config : SimulationConfig} {maths : Maths} {id : EntityId} {v v' : Watched}

/-- What the trail of a snake says of it, and what it says before there is one. -/
structure Follows (maths : Maths) (id : EntityId) (v : Watched) : Prop where
  sound : v.world.Sound maths
  even : ∀ s, v.world.snakes.get id = some s → v.trail.Even SEGMENT_SPACING s.sinceLastPoint
  spaced : v.trail.marks.IsChain (Trail.Spaced SEGMENT_SPACING)
  unborn : v.world.nextEntityId ≤ id → v.trail = .empty

theorem follows_start (config : SimulationConfig) (maths : Maths) (id : EntityId) :
    (start config maths).Follows maths id where
  sound := WorldState.sound_createWorld config
  even s hs := by
    have hnone : (createWorld config maths).snakes.get id = none := by
      unfold createWorld
      exact (WorldState.feeds_spawnFoods _ _).snakes_eq id
    rw [show (start config maths).world = createWorld config maths from rfl, hnone] at hs
    cases hs
  spaced := .nil
  unborn _ := rfl

/-- A snake that has just come carries nothing. -/
theorem after_born {w : WorldState} (hw : w.Sound maths) (act : WorldAct)
    (hid : w.nextEntityId ≤ id) {s : SnakeEntity}
    (hs : (w.after config maths act).snakes.get id = some s) : s.sinceLastPoint = 0 := by
  have hnone : w.snakes.get id ≠ some s := fun h => (hw.snakes id s h).2.1.not_ge hid
  unfold WorldState.after at hs
  cases act with
  | spawnSnake playerId nickname isBot =>
      obtain ⟨-, h⟩ | ⟨-, position, angle, random, h⟩ :=
        WorldState.spawnSnake_cases maths w playerId nickname isBot
      · exact absurd (h ▸ hs) hnone
      · dsimp only at hs
        rw [h, OrderedMap.get_set] at hs
        split at hs
        · obtain rfl := Option.some.inj hs
          rfl
        · exact absurd hs hnone
  | despawnSnake playerId scatter =>
      obtain h | ⟨entry, v, -, hfeeds, h⟩ :=
        WorldState.despawnSnake_cases maths config w playerId scatter
      · exact absurd (h ▸ hs) hnone
      · dsimp only at hs
        rw [h, OrderedMap.get_delete, hfeeds.snakes_eq] at hs
        split at hs
        · cases hs
        · exact absurd hs hnone
  | enqueueInput playerId command =>
      dsimp only at hs
      unfold enqueueInput at hs
      split at hs <;> exact absurd hs hnone
  | step =>
      obtain ⟨s₀, hs₀, -⟩ := (WorldState.step_evolves config w).back hs
      exact absurd (hw.snakes id s₀ hs₀).2.1 hid.not_gt

/-- What of a snake only its movement changes. -/
theorem settles_spine (maths : Maths) : WorldState.Settles maths fun s s' =>
    s'.sinceLastPoint = s.sinceLastPoint ∧ s'.headIndex = s.headIndex ∧ s'.speed = s.speed where
  refl _ := ⟨rfl, rfl, rfl⟩
  trans _ _ _ h h' := ⟨h'.1.trans h.1, h'.2.1.trans h.2.1, h'.2.2.trans h.2.2⟩
  setMass _ _ := ⟨rfl, rfl, rfl⟩
  hurt _ _ _ _ := ⟨rfl, rfl, rfl⟩

/-- A snake after a step is what its movement made of it, with its inputs set. -/
theorem step_spine {w : WorldState} {s s' : SnakeEntity} (hs : w.snakes.get id = some s)
    (hs' : (step config maths w).1.snakes.get id = some s') : ∃ steering,
      (applyInputs w).snakes.get id = some { s with toSteering := steering } ∧
      let moved := if s.alive then moveSnake config maths { s with toSteering := steering } else s
      s'.sinceLastPoint = moved.sinceLastPoint ∧ s'.headIndex = moved.headIndex ∧
        (s.alive = true → s'.speed = moved.speed) := by
  obtain ⟨_, hs₁, steering, rfl⟩ := (WorldState.applyInputs_steers w).forth hs
  obtain ⟨s₂, hs₂, hmoved⟩ := (@WorldState.moveSnakes_moves maths config _).forth hs₁
  obtain ⟨s₃, hs₃, hsince, hindex, hspeed⟩ :=
    (WorldState.step_settles (settles_spine maths) config w).forth hs₂
  obtain rfl := Option.some.inj (hs'.symm.trans hs₃)
  refine ⟨steering, hs₁, ?_⟩
  unfold WorldState.Moved at hmoved
  dsimp only
  split_ifs with halive
  · rw [if_pos halive] at hmoved
    subst hmoved
    exact ⟨hsince, hindex, fun _ => hspeed⟩
  · rw [if_neg halive] at hmoved
    subst hmoved
    exact ⟨hsince, hindex, fun h => absurd h halive⟩

theorem stepTravel_nonneg (s : SnakeEntity) : 0 ≤ stepTravel config s := by
  unfold stepTravel SimulationConfig.dtSeconds BASE_SPEED BOOST_SPEED_MULTIPLIER
  split_ifs <;> positivity

theorem stepTravel_le (s : SnakeEntity) : stepTravel config s * config.tickRateHz ≤ 418 := by
  have hrate : (config.tickRateHz : ℚ) ≠ 0 := Nat.cast_ne_zero.mpr config.tickRateHz_pos.ne'
  unfold stepTravel SimulationConfig.dtSeconds BASE_SPEED BOOST_SPEED_MULTIPLIER
  rw [mul_assoc, one_div_mul_cancel hrate]
  split_ifs <;> norm_num

/-- The index after a head's own is another. -/
theorem succ_mod_ne (n : ℕ) : (n + 1) % SPINE_CAPACITY ≠ n := by
  unfold SPINE_CAPACITY
  omega

/-- **One step of a living snake.**  What it carries afterwards is less than a spacing exactly when
it does not fill two. -/
theorem Follows.moves (h : v.Follows maths id) {s s' : SnakeEntity} {steering : Steering}
    (hs : v.world.snakes.get id = some s) (halive : s.alive = true)
    (hsince : s'.sinceLastPoint =
      (moveSnake config maths { s with toSteering := steering }).sinceLastPoint)
    (hindex : s'.headIndex = (moveSnake config maths { s with toSteering := steering }).headIndex)
    (hspeed : s'.speed = (moveSnake config maths { s with toSteering := steering }).speed)
    (hs' : (step config maths v.world).1.snakes.get id = some s') :
    (s'.sinceLastPoint < SEGMENT_SPACING ↔
      s.sinceLastPoint + stepTravel config { s with toSteering := steering } <
        2 * SEGMENT_SPACING) ∧
    (s'.sinceLastPoint < SEGMENT_SPACING →
      (v.after config maths id .step).trail.Even SEGMENT_SPACING s'.sinceLastPoint) := by
  obtain ⟨htravel, hspine⟩ := moveSnake_spine config maths { s with toSteering := steering }
  have heven := h.even s hs
  have htrail : (v.after config maths id .step).trail =
      v.trail.go (stepTravel config { s with toSteering := steering })
        (s'.headIndex ≠ s.headIndex) := by
    change trailed config id v.world (step config maths v.world).1 v.trail = _
    unfold trailed
    rw [hs, hs']
    dsimp only
    rw [if_pos halive, hspeed, htravel]
  have hcapacity : s.spineCapacity = SPINE_CAPACITY := (h.sound.snakes id s hs).2.2.spineCapacity
  have hnonneg := @stepTravel_nonneg config { s with toSteering := steering }
  generalize stepTravel config { s with toSteering := steering } = travel at *
  rw [htrail]
  dsimp only at hspine
  split_ifs at hspine with hfull
  · obtain ⟨hleft, hhead⟩ := hspine
    have hmarked : s'.headIndex ≠ s.headIndex := by
      rw [hindex, hhead, hcapacity]
      exact succ_mod_ne _
    rw [hsince, hleft, decide_eq_true hmarked]
    exact ⟨⟨fun hlt => by linarith, fun hlt => by linarith⟩, heven.mark hfull⟩
  · obtain ⟨hleft, hhead⟩ := hspine
    have hslid : ¬s'.headIndex ≠ s.headIndex := not_not.mpr (hindex.trans hhead)
    have hlt := not_le.mp hfull
    rw [hsince, hleft, decide_eq_false hslid]
    refine ⟨⟨fun _ => ?_, fun _ => hlt⟩, heven.slide hnonneg⟩
    have hpos : (0 : ℚ) < SEGMENT_SPACING := by norm_num [SEGMENT_SPACING]
    linarith

/-- A snake that is in the world after a step: it moved, or lies dead as it was. -/
theorem Follows.settled (h : v.Follows maths id) {s s' : SnakeEntity}
    (hs : v.world.snakes.get id = some s)
    (hs' : (step config maths v.world).1.snakes.get id = some s') : ∃ s₁,
      (applyInputs v.world).snakes.get id = some s₁ ∧ s₁.alive = s.alive ∧
      s₁.sinceLastPoint = s.sinceLastPoint ∧
      (s'.sinceLastPoint < SEGMENT_SPACING ↔ (s.alive = true →
        s₁.sinceLastPoint + stepTravel config s₁ < 2 * SEGMENT_SPACING)) ∧
      (s'.sinceLastPoint < SEGMENT_SPACING →
        (v.after config maths id .step).trail.Even SEGMENT_SPACING s'.sinceLastPoint) := by
  obtain ⟨steering, happlied, hsince, hindex, hspeed⟩ := step_spine hs hs'
  refine ⟨_, happlied, rfl, rfl, ?_⟩
  cases halive : s.alive with
  | true =>
      rw [if_pos halive] at hsince hindex hspeed
      obtain ⟨hiff, heven⟩ := h.moves hs halive hsince hindex (hspeed halive) hs'
      exact ⟨hiff.trans ⟨fun hlt _ => hlt, fun hlt => hlt rfl⟩, heven⟩
  | false =>
      rw [if_neg (by rw [halive]; nofun)] at hsince
      have htrail : (v.after config maths id .step).trail = v.trail := by
        change trailed config id v.world (step config maths v.world).1 v.trail = _
        unfold trailed
        rw [hs, hs']
        exact if_neg (by rw [halive]; nofun)
      rw [hsince, htrail]
      exact ⟨⟨fun _ => nofun, fun _ => (h.even s hs).carried_lt⟩, fun _ => h.even s hs⟩

/-- **One step.**  It keeps what is carried below a spacing exactly when it is roomy. -/
theorem Follows.roomy_iff (h : v.Follows maths id) : v.Roomy config id .step ↔
    ∀ s', (step config maths v.world).1.snakes.get id = some s' →
      s'.sinceLastPoint < SEGMENT_SPACING := by
  constructor
  · intro hroomy s' hs'
    obtain ⟨s, hs, -⟩ := (WorldState.step_evolves config v.world).back hs'
    obtain ⟨s₁, hs₁, halive, -, hiff, -⟩ := h.settled hs hs'
    exact hiff.mpr fun h' => hroomy s₁ hs₁ (halive.trans h')
  · intro hlt s₁ hs₁ halive₁
    obtain ⟨s, hs, -⟩ := (WorldState.applyInputs_steers v.world).back hs₁
    obtain ⟨s', hs', -⟩ := (@WorldState.step_evolves maths config v.world).forth hs
    obtain ⟨s₂, hs₂, halive, -, hiff, -⟩ := h.settled hs hs'
    obtain rfl := Option.some.inj (hs₁.symm.trans hs₂)
    exact hiff.mp (hlt s' hs') (halive.symm.trans halive₁)

theorem trail_none (hnone : v.world.snakes.get id = none) :
    (v.after config maths id .step).trail = v.trail := by
  change trailed config id v.world (step config maths v.world).1 v.trail = _
  unfold trailed
  rw [hnone]

theorem Follows.step (h : v.Follows maths id) (hroomy : v.Roomy config id .step) :
    (v.after config maths id .step).Follows maths id := by
  have hevolves := @WorldState.step_evolves maths config v.world
  have heven : ∀ s', (Game.step config maths v.world).1.snakes.get id = some s' →
      (v.after config maths id .step).trail.Even SEGMENT_SPACING s'.sinceLastPoint := by
    intro s' hs'
    obtain ⟨s, hs, -⟩ := hevolves.back hs'
    obtain ⟨-, -, -, -, -, heven⟩ := h.settled hs hs'
    exact heven (h.roomy_iff.mp hroomy s' hs')
  refine ⟨h.sound.step config, heven, ?_, fun hid => ?_⟩
  · cases hs : v.world.snakes.get id with
    | some s =>
        obtain ⟨s', hs', -⟩ := hevolves.forth hs
        exact (heven s' hs').spaced
    | none => exact (@trail_none config maths id v hs).symm ▸ h.spaced
  · have hid' := hevolves.nextEntityId.trans hid
    have hnone : v.world.snakes.get id = none := Option.eq_none_iff_forall_ne_some.mpr
      fun s hs => (h.sound.snakes id s hs).2.1.not_ge hid'
    exact (trail_none hnone).trans (h.unborn hid')

theorem Follows.after (h : v.Follows maths id) (act : WorldAct)
    (hroomy : v.Roomy config id act) : (v.after config maths id act).Follows maths id := by
  by_cases hstep : act = .step
  · subst hstep
    exact h.step hroomy
  · have htrail : (v.after config maths id act).trail = v.trail := by
      cases act with
      | step => exact absurd rfl hstep
      | _ => rfl
    have hpos : (0 : ℚ) < SEGMENT_SPACING := by norm_num [SEGMENT_SPACING]
    have heven : ∀ s', (v.world.after config maths act).snakes.get id = some s' →
        v.trail.Even SEGMENT_SPACING s'.sinceLastPoint := by
      intro s' hs'
      rcases lt_or_ge id v.world.nextEntityId with hid | hid
      · obtain ⟨s, hs, rfl | hact⟩ := (v.world.after_life config maths act hid).2 s' hs'
        · exact h.even s' hs
        · exact absurd hact hstep
      · rw [after_born h.sound act hid hs', h.unborn hid]
        exact Trail.even_empty hpos
    refine ⟨h.sound.after config act, ?_, ?_, fun hid => ?_⟩
    · rw [htrail]
      exact heven
    · rw [htrail]
      exact h.spaced
    · rw [htrail]
      refine h.unborn (le_of_not_gt fun hlt => ?_)
      exact ((v.world.after_life config maths act hlt).1).not_ge hid

/-! ### Any run -/

theorem Follows.evenly (h : v.Follows maths id) : v.Even id :=
  ⟨fun s hs => ⟨(h.even s hs).carried_nonneg, (h.even s hs).carried_lt⟩, h.spaced⟩

theorem follows_of_run {acts : List WorldAct}
    (h : Run (Guarded (Step config maths id) (Roomy config id)) (start config maths) acts v) :
    v.Follows maths id := by
  refine h.invariant (fun v act v' hv hstep => ?_) (follows_start config maths id)
  obtain ⟨rfl, hroomy⟩ := hstep
  exact hv.after act hroomy

theorem step_unique {acts : List WorldAct} {u : Watched} (h : Run (Step config maths id) u acts v)
    (h' : Run (Step config maths id) u acts v') : v = v' := by
  induction h with
  | nil =>
      cases h'
      rfl
  | cons hstep _ ih =>
      obtain _ | ⟨hstep', hrest⟩ := h'
      obtain rfl := hstep.symm.trans hstep'
      exact ih hrest

/-- At such a rate a step is shorter than a spacing, boosting or not. -/
theorem Follows.roomy (h : v.Follows maths id) (hrate : 418 < 12 * (config.tickRateHz : ℚ))
    (act : WorldAct) : v.Roomy config id act := by
  cases act with
  | step =>
      intro s₁ hs₁ _
      obtain ⟨s, hs, steering, rfl⟩ := (WorldState.applyInputs_steers v.world).back hs₁
      have hcarried := (h.even s hs).carried_lt
      have hpos : (0 : ℚ) < config.tickRateHz := Nat.cast_pos.mpr config.tickRateHz_pos
      have htravel : stepTravel config { s with toSteering := steering } < SEGMENT_SPACING := by
        have hle := @stepTravel_le config { s with toSteering := steering }
        rw [show SEGMENT_SPACING = 12 from rfl]
        nlinarith
      dsimp only
      linarith
  | _ => trivial

end Watched

/-- **The spacing of a body.**  In any run, what a snake carries is less than a spacing and its
points are a spacing apart, to within one of the steps that recorded them, in every world up to the
last one exactly when no step of the snake fills two spacings; and at 35 ticks a second or more
none does. -/
theorem even_spacing (config : SimulationConfig) (maths : Maths) (id : EntityId)
    {acts : List WorldAct} {v : Watched}
    (h : Run (Watched.Step config maths id) (.start config maths) acts v) :
    ((∀ acts' v', acts' <+: acts →
        Run (Watched.Step config maths id) (.start config maths) acts' v' → v'.Even id) ↔
      Run (Guarded (Watched.Step config maths id) (Watched.Roomy config id))
        (.start config maths) acts v) ∧
    (35 ≤ config.tickRateHz →
      Run (Guarded (Watched.Step config maths id) (Watched.Roomy config id))
        (.start config maths) acts v) := by
  refine ⟨⟨?_, ?_⟩, fun hrate => ?_⟩
  · refine h.history (I := fun acts v => (∀ acts' v', acts' <+: acts →
      Run (Watched.Step config maths id) (.start config maths) acts' v' → v'.Even id) →
        Run (Guarded (Watched.Step config maths id) (Watched.Roomy config id))
          (.start config maths) acts v) (fun _ => .nil _) ?_
    intro acts v act v' hrun ih hstep heven
    have hguarded := ih fun acts' u hpre => heven acts' u (hpre.trans (List.prefix_append _ _))
    have hfollows := Watched.follows_of_run hguarded
    refine hguarded.snoc ⟨hstep, ?_⟩
    cases act with
    | step =>
        obtain rfl : v.after config maths id .step = v' := hstep
        exact hfollows.roomy_iff.mpr fun s' hs' =>
          ((heven _ _ (List.prefix_refl _) (hrun.snoc rfl)).1 s' hs').2
    | _ => trivial
  · intro hguarded acts' v' hpre hrun
    obtain ⟨rest, rfl⟩ := hpre
    obtain ⟨u, hu, -⟩ := hguarded.split
    obtain rfl := Watched.step_unique hrun hu.of_guarded
    exact (Watched.follows_of_run hu).evenly
  · have hshort : 418 < 12 * (config.tickRateHz : ℚ) := by
      exact_mod_cast (show 418 < 12 * _ by omega)
    refine h.under (I := fun v => v.Follows maths id) (fun v act v' hv hstep => ?_)
      (fun v act v' hv hstep => ⟨hstep, hv.roomy hshort act⟩)
        (Watched.follows_start config maths id)
    obtain rfl : v.after config maths id act = v' := hstep
    exact hv.after act (hv.roomy hshort act)

/-! ### A snake that boosts at 20 ticks a second -/

/-- A small arena that is full of food. -/
def orchard (tickRateHz : ℕ) (h : 0 < tickRateHz) : SimulationConfig :=
  ⟨tickRateHz, h, 100, 80, eighty_pos, 1, some 80⟩

/-- A snake comes, asks for a boost, and eats its fill in the first step. -/
def boosts : List WorldAct :=
  [.spawnSnake 1 "a" false, .enqueueInput 1 ⟨.finite 1, .finite 0, true, .finite 50⟩, .step, .step]

/-- What is watched after the acts. -/
def watched (config : SimulationConfig) (id : EntityId) (acts : List WorldAct) : Watched :=
  acts.foldl (Watched.after config rounded id) (.start config rounded)

theorem run_watched (config : SimulationConfig) (id : EntityId) (acts : List WorldAct) :
    Run (Watched.Step config rounded id) (.start config rounded) acts (watched config id acts) := by
  unfold watched
  generalize Watched.start config rounded = v
  induction acts generalizing v with
  | nil => exact .nil v
  | cons act acts ih => exact .cons rfl (ih _)

theorem even_spacing_sixty : (watched (orchard 60 (by decide)) 81 boosts).Even 81 :=
  have hrun := run_watched (orchard 60 (by decide)) 81 boosts
  have hspacing := even_spacing (orchard 60 (by decide)) rounded 81 hrun
  hspacing.1.mpr (hspacing.2 (by decide)) boosts _ (List.prefix_refl _) hrun

/-- In the second step it goes more than a spacing with a spacing all but full. -/
theorem spacing_uneven : ¬∀ acts v,
    Run (Watched.Step (orchard 20 (by decide)) rounded 81) (.start (orchard 20 (by decide)) rounded)
      acts v → v.Even 81 := by
  intro h
  have heven := h boosts _ (run_watched _ 81 boosts)
  have hcarried : ((watched (orchard 20 (by decide)) 81 boosts).world.snakes.get 81).map
      (fun s => (s.alive, s.sinceLastPoint)) = some (true, 199 / 10) := by decide +kernel
  obtain ⟨s, hs, hcarried⟩ := Option.map_eq_some_iff.mp hcarried
  have hlt := (heven.1 s hs).2
  rw [(Prod.mk.inj hcarried).2] at hlt
  exact absurd hlt (by norm_num [SEGMENT_SPACING])

end SnakeArena.Game
