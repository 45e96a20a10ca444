import SnakeArena.Game.Collisions
import SnakeArena.Game.Pellets

/-!
# Game — what the dead drop

Whose mass a step and a despawning scatter, and how much food each of them leaves.  A step scatters
the snakes that die in it, each once (`step_falls`), and a despawning the snake it takes away, dead
or alive.
-/

namespace SnakeArena.Game
open SnakeArena.Library

/-- The food that one scattering leaves, beside the mass the snake had. -/
structure Drop where
  snake : EntityId
  mass : ℚ
  dropped : ℚ
deriving DecidableEq

section Drops
variable (config : SimulationConfig) (maths : Maths)

def dropOf (w : WorldState) (snake : SnakeEntity) : Drop :=
  ⟨snake.id, snake.mass, foodMass (scatterMass maths config w snake).food - foodMass w.food⟩

/-- The victim of a death is scattered, and what it leaves is noted. -/
def scatterDeath (p : WorldState × List Drop) (death : DeathEvent) : WorldState × List Drop :=
  match p.1.snakes.get death.victim with
  | some snake => (scatterMass maths config p.1 snake, p.2 ++ [dropOf config maths p.1 snake])
  | none => p

/-- What is left by those who die in a step. -/
def stepDrops (w : WorldState) : List Drop :=
  let swept := WorldState.sweep config maths (beforeCollisions config maths w).1
  (swept.2.foldl (scatterDeath config maths) (swept.1, [])).2

/-- What is left by a snake that is despawned, and scattered. -/
def despawnDrops (w : WorldState) (playerId : ℕ) : List Drop :=
  match (w.playerIndex.get playerId).bind w.snakes.get with
  | some snake => [dropOf config maths w snake]
  | none => []

end Drops

section Deaths
variable {config : SimulationConfig} {maths : Maths} {u v w : WorldState} {id : EntityId}
  {deaths : List DeathEvent}

/-- The worlds in which what is left is noted are those of the detection. -/
theorem scatterDeaths_world (config : SimulationConfig) (maths : Maths) (v : WorldState) :
    (detectCollisions config maths v).1 =
      ((WorldState.sweep config maths v).2.foldl (scatterDeath config maths)
        ((WorldState.sweep config maths v).1, [])).1 := by
  unfold detectCollisions WorldState.sweep
  dsimp only
  generalize v.snakes.keys.foldl (collide maths (rebuildBodyHash config v)) (v, []) = swept
  refine @List.foldl_hom _ _ _ Prod.fst (scatterDeath config maths) _ swept.2 (swept.1, [])
    fun p death => ?_
  unfold scatterDeath
  cases p.1.snakes.get death.victim <;> rfl

/-- **What is noted is what is left.**  All the food that the detection adds is in the drops. -/
theorem foodMass_detectCollisions (config : SimulationConfig) (maths : Maths) (v : WorldState) :
    foodMass (detectCollisions config maths v).1.food = foodMass v.food +
      (((WorldState.sweep config maths v).2.foldl (scatterDeath config maths)
        ((WorldState.sweep config maths v).1, [])).2.map (·.dropped)).sum := by
  have hfold : ∀ (deaths : List DeathEvent) (p : WorldState × List Drop),
      foodMass (deaths.foldl (scatterDeath config maths) p).1.food + (p.2.map (·.dropped)).sum =
        foodMass p.1.food +
          ((deaths.foldl (scatterDeath config maths) p).2.map (·.dropped)).sum := by
    intro deaths
    induction deaths with
    | nil => exact fun _ => rfl
    | cons death deaths ih =>
        intro p
        have hrest := ih (scatterDeath config maths p death)
        rw [List.foldl_cons]
        cases hs : p.1.snakes.get death.victim with
        | none =>
            have hone : scatterDeath config maths p death = p := by
              unfold scatterDeath
              rw [hs]
            rwa [hone] at hrest ⊢
        | some s =>
            have hone : scatterDeath config maths p death =
                (scatterMass maths config p.1 s, p.2 ++ [dropOf config maths p.1 s]) := by
              unfold scatterDeath
              rw [hs]
            have hdrop : (dropOf config maths p.1 s).dropped =
              foodMass (scatterMass maths config p.1 s).food - foodMass p.1.food := rfl
            rw [hone] at hrest ⊢
            rw [List.map_append, List.sum_append, List.map_singleton, List.sum_singleton,
              hdrop] at hrest
            linarith only [hrest]
  have hsum := hfold (WorldState.sweep config maths v).2 ((WorldState.sweep config maths v).1, [])
  rw [scatterDeaths_world]
  rwa [List.map_nil, List.sum_nil, add_zero, WorldState.sweep_food] at hsum

/-! ### Who dies -/

theorem lives_kill (id id' : EntityId) :
    lives (kill w id) id' = (decide (id' ≠ id) && lives w id') := by
  unfold lives
  rw [get_kill]
  by_cases h : id' = id
  · subst h
    cases w.snakes.get id' <;> simp
  · simp [h]

theorem lives_credit (id id' : EntityId) : lives (credit w id) id' = lives w id' := by
  unfold lives
  rw [get_credit]
  by_cases h : id' = id
  · subst h
    cases w.snakes.get id' <;> simp
  · simp [h]

/-- The victims of a sweep so far: whoever was alive and is not, each once. -/
structure Fallen (v : WorldState) (p : WorldState × List DeathEvent) : Prop where
  nodup : (p.2.map (·.victim)).Nodup
  fallen : ∀ id ∈ p.2.map (·.victim), lives v id = true ∧ lives p.1 id = false
  left : ∀ id, lives p.1 id = true → lives v id = true
  named : ∀ id, lives v id = true → lives p.1 id = false → id ∈ p.2.map (·.victim)

theorem Fallen.kill {p : WorldState × List DeathEvent} (h : Fallen v p)
    (hid : lives p.1 id = true) {death : DeathEvent} (hdeath : death.victim = id)
    (hw : ∀ id', lives w id' = (decide (id' ≠ id) && lives p.1 id')) :
    Fallen v (w, p.2 ++ [death]) := by
  have hdead : lives w id = false := by simp [hw]
  have hnew : id ∉ p.2.map (·.victim) := fun hmem => by
    rw [(h.fallen id hmem).2] at hid
    cases hid
  refine ⟨?_, fun id' hid' => ?_, fun id' hid' => ?_, fun id' hv hid' => ?_⟩
  · rw [List.map_append, List.map_singleton, hdeath]
    exact h.nodup.append (List.nodup_singleton id) (List.disjoint_singleton.mpr hnew)
  · rw [List.map_append, List.map_singleton, hdeath, List.mem_append, List.mem_singleton] at hid'
    rcases hid' with hid' | rfl
    · obtain ⟨hv, hdead'⟩ := h.fallen id' hid'
      exact ⟨hv, by rw [hw, hdead', Bool.and_false]⟩
    · exact ⟨h.left id' hid, hdead⟩
  · rw [hw, Bool.and_eq_true] at hid'
    exact h.left id' hid'.2
  · rw [List.map_append, List.map_singleton, hdeath, List.mem_append, List.mem_singleton]
    by_cases heq : id' = id
    · exact .inr heq
    · rw [hw, decide_eq_true heq, Bool.true_and] at hid'
      exact .inl (h.named id' hv hid')

theorem Fallen.collide (body : BodyHash) {p : WorldState × List DeathEvent} (h : Fallen v p)
    (hids : ∀ id s, p.1.snakes.get id = some s → s.id = id) (id : EntityId) :
    Fallen v (collide maths body p id) := by
  unfold Game.collide
  split
  · exact h
  next snake hsnake =>
    split_ifs with hdead
    · exact h
    · exact h.kill (by simpa [lives, hsnake] using hdead) (hids id snake hsnake)
        fun id' => lives_kill id id'
    · have hlives : lives p.1 id = true := by simpa [lives, hsnake] using hdead
      split
      · exact h
      · exact h.kill hlives (hids id snake hsnake) fun id' => by rw [lives_credit, lives_kill]

theorem sweep_fallen (config : SimulationConfig) (maths : Maths) (hv : v.Sound maths) :
    Fallen v (WorldState.sweep config maths v) := by
  have hstart : Fallen v (v, []) := ⟨.nil, nofun, fun _ h => h, fun id h h' => by
    rw [h] at h'
    cases h'⟩
  unfold WorldState.sweep
  refine (List.foldlRecOn (motive := fun p : WorldState × List DeathEvent =>
    p.1.Sound maths ∧ Fallen v p) _ _ ⟨hv, hstart⟩ fun p hp id _ => ⟨?_, ?_⟩).2
  · refine hp.1.evolves ((WorldState.collide_feasts _ p id).mono
      fun s s' (hfed : Fed maths s s') => ?_)
    exact ⟨hfed.id, hfed.playerId, hfed.sound⟩
  · exact hp.2.collide _ (fun id s hs => (hp.1.snakes id s hs).1) id

/-! ### Nobody dies before the sweep -/

/-- As many live as before where each snake is as alive as before. -/
theorem lives_evolves {R : SnakeEntity → SnakeEntity → Prop} (h : WorldState.Evolves R v w)
    (hR : ∀ s s', R s s' → s'.alive = s.alive) (id : EntityId) : lives w id = lives v id := by
  have hrel := h.snakes id
  unfold lives
  generalize v.snakes.get id = o at hrel ⊢
  generalize w.snakes.get id = o' at hrel ⊢
  cases hrel with
  | none => rfl
  | some hrel => exact hR _ _ hrel

theorem eatOne_lives (eater : EntityId) (head : Position) (reach : ℚ) (s : Eating)
    (foodId id : EntityId) : lives (eatOne maths eater head reach s foodId).world id =
      lives s.world id := by
  unfold eatOne
  split
  · rfl
  · split_ifs
    · unfold lives
      dsimp only
      rw [OrderedMap.get_update]
      split_ifs with h
      · rw [h, Option.any_map]
        rfl
      · rfl
    · rfl

theorem lives_consumeFood (config : SimulationConfig) (id : EntityId) :
    lives (consumeFood config maths w).1 id = lives w id := by
  unfold consumeFood
  refine List.foldlRecOn (motive := fun s : Eating => lives s.world id = lives w id) _ _ rfl
    fun s hs eater _ => ?_
  unfold eat
  split
  · exact hs
  · split_ifs
    · exact List.foldlRecOn (motive := fun s : Eating => lives s.world id = lives w id) _ _ hs
        fun s hs foodId _ => (eatOne_lives eater _ _ s foodId id).trans hs
    · exact hs

theorem lives_beforeCollisions (config : SimulationConfig) (id : EntityId) :
    lives (beforeCollisions config maths w).1 id = lives w id := by
  have hsteered : lives (applyInputs w) id = lives w id := by
    refine lives_evolves (WorldState.applyInputs_steers w) ?_ id
    rintro s _ ⟨steering, rfl⟩
    rfl
  have hmoved : lives (moveSnakes config maths (applyInputs w)) id = lives (applyInputs w) id := by
    refine lives_evolves (@WorldState.moveSnakes_moves maths config _) (fun s s' h => ?_) id
    unfold WorldState.Moved at h
    subst h
    split_ifs
    · exact (moveSnake_motion config maths s).alive
    · rfl
  exact ((lives_consumeFood config id).trans hmoved).trans hsteered

/-! ### What is noted -/

/-- Six tenths of the mass, and the mass is at least one. -/
def Drop.Whole (d : Drop) : Prop := 1 ≤ d.mass ∧ d.dropped = d.mass * (6 / 10)

theorem dropOf_whole (hw : w.Issued) {snake : SnakeEntity} (hs : 1 ≤ snake.mass) :
    (dropOf config maths w snake).Whole := by
  refine ⟨hs, ?_⟩
  unfold dropOf
  dsimp only
  rw [(WorldState.foodMass_scatterMass hw snake).2, add_sub_cancel_left]

theorem issued_of_sound (hw : w.Sound maths) : w.Issued := hw.food.imp fun _ _ h => h.2

/-- Each of the victims leaves one drop. -/
theorem scatterDeaths_drops (config : SimulationConfig) : ∀ (deaths : List DeathEvent)
    {p : WorldState × List Drop}, p.1.Sound maths →
      (∀ death ∈ deaths, ∃ s, p.1.snakes.get death.victim = some s) →
        ∃ ds, (deaths.foldl (scatterDeath config maths) p).2 = p.2 ++ ds ∧
          ds.map (·.snake) = deaths.map (·.victim) ∧ ∀ d ∈ ds, d.Whole
  | [], _, _, _ => ⟨[], (List.append_nil _).symm, rfl, nofun⟩
  | death :: deaths, p, hw, hsnakes => by
      obtain ⟨s, hs⟩ := hsnakes death (.head _)
      have hfeeds : WorldState.Feeds p.1 (scatterMass maths config p.1 s) :=
        WorldState.feeds_scatterMass config s
      obtain ⟨ds, heq, hids, hwhole⟩ := scatterDeaths_drops config deaths
        (p := (scatterMass maths config p.1 s, p.2 ++ [dropOf config maths p.1 s]))
        (hw.feeds hfeeds) fun death hdeath => by
          obtain ⟨s', hs'⟩ := hsnakes death (.tail _ hdeath)
          exact ⟨s', (hfeeds.snakes_eq _).trans hs'⟩
      obtain ⟨hid, -, hsound⟩ := hw.snakes _ s hs
      refine ⟨dropOf config maths p.1 s :: ds, ?_, ?_, List.forall_mem_cons.mpr
        ⟨dropOf_whole (issued_of_sound hw) hsound.mass, hwhole⟩⟩
      · rw [List.foldl_cons, show scatterDeath config maths p death = _ by
          unfold scatterDeath; rw [hs], heq, List.append_assoc, List.singleton_append]
      · rw [List.map_cons, List.map_cons, hids]
        exact congrArg (· :: _) hid

/-- **Deaths.**  The drops of a step are of the snakes that were alive before it and are dead
afterwards, one of each; and none comes to life. -/
theorem step_falls (config : SimulationConfig) (hw : w.Sound maths) :
    ((stepDrops config maths w).map (·.snake)).Nodup ∧
      (∀ d ∈ stepDrops config maths w, d.Whole) ∧
      (∀ id, id ∈ (stepDrops config maths w).map (·.snake) ↔
        lives w id = true ∧ lives (step config maths w).1 id = false) ∧
      ∀ id, lives (step config maths w).1 id = true → lives w id = true := by
  have hv := beforeCollisions_sound config hw
  have hbefore : ∀ id, lives (beforeCollisions config maths w).1 id = lives w id :=
    fun id => lives_beforeCollisions config id
  have hfallen := sweep_fallen config maths hv
  have hfeasts := @WorldState.sweep_feasts maths config (beforeCollisions config maths w).1
  have hstep : ∀ id, lives (step config maths w).1 id =
      lives (WorldState.sweep config maths (beforeCollisions config maths w).1).1 id := fun id => by
    unfold lives
    rw [(WorldState.step_feeds config w).snakes_eq]
  unfold stepDrops
  dsimp only
  generalize WorldState.sweep config maths (beforeCollisions config maths w).1 = swept
    at hfallen hfeasts hstep ⊢
  generalize (beforeCollisions config maths w).1 = v at hv hbefore hfallen hfeasts
  obtain ⟨v', deaths⟩ := swept
  have hsound : v'.Sound maths := hv.evolves (hfeasts.mono fun s s' (h : Fed maths s s') =>
    (⟨h.id, h.playerId, h.sound⟩ : WorldState.Stays maths s s'))
  have hvictims : ∀ death ∈ deaths, ∃ s, v'.snakes.get death.victim = some s := by
    intro death hdeath
    have hlives := (hfallen.fallen _ (List.mem_map_of_mem hdeath)).1
    obtain ⟨s, hs, -⟩ := (Option.any_eq_true _ _).mp hlives
    obtain ⟨s', hs', -⟩ := hfeasts.forth hs
    exact ⟨s', hs'⟩
  obtain ⟨ds, heq, hids, hwhole⟩ :=
    scatterDeaths_drops config deaths (p := (v', [])) hsound hvictims
  rw [heq, List.nil_append, hids]
  refine ⟨hfallen.nodup, hwhole, fun id => ?_, fun id => ?_⟩
  · rw [hstep, ← hbefore]
    exact ⟨hfallen.fallen id, fun h => hfallen.named id h.1 h.2⟩
  · rw [hstep, ← hbefore]
    exact hfallen.left id

end Deaths

end SnakeArena.Game
