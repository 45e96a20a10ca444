import SnakeArena.Game.Collisions
import SnakeArena.Game.Entries
import SnakeArena.Game.Pellets
import SnakeArena.Library.Rounding

/-!
# Game — eating

The eating of a step against a scan of all the food: in the order of the snakes, each living snake
swallows every pellet that is left within its reach, its radius at the start of its turn and 14
units.  The hash finds every pellet within reach, so that both swallow the same pellets in each
turn, in an order of their own.

A mass is a double, and is rounded each time that a pellet is added to it; so the order shows in
the last bit, and what is gained is what is swallowed but for the roundings (`eating_rounds`).  The
sum is a parameter here (`eatOneBy`); the simulation's own `consumeFood` has the exact one.

* `Scans`: the scan, each turn in some order.
* `Scans.same_food`: the order, and how sums are rounded, do not show in the food.
* `Scans.mass`: how far the roundings go.
* `consumeFood_as_plain`: eating is a scan.
-/

namespace SnakeArena.Game
open SnakeArena.Library

/-! ### Eating with a sum of its own -/

section By
variable (add : ℚ → ℚ → ℚ) (maths : Maths)

/-- One candidate of a snake whose head and reach are fixed. -/
def eatOneBy (id : EntityId) (head : Position) (reach : ℚ) (s : Eating) (foodId : EntityId) :
    Eating :=
  match s.world.food.get foodId with
  | none => s
  | some food =>
      if atMost (distance maths food.position head) reach then
        { world :=
            { s.world with
              snakes := s.world.snakes.update id fun snake =>
                snake.setMass maths (add snake.mass food.mass)
              food := s.world.food.delete foodId }
          foodHash := s.foodHash.remove foodId food.position
          consumed := s.consumed + 1 }
      else s

def eatBy (s : Eating) (id : EntityId) : Eating :=
  match s.world.snakes.get id with
  | none => s
  | some snake =>
      if snake.alive then
        let reach := snake.radius + 14
        (s.foodHash.queryCircle snake.headOf reach).foldl
          (eatOneBy add maths id snake.headOf reach) s
      else s

def consumeFoodBy (config : SimulationConfig) (world : WorldState) : WorldState × ℕ :=
  let s := world.snakes.keys.foldl (eatBy add maths) ⟨world, rebuildFoodHash config world, 0⟩
  (s.world, s.consumed)

/-- The eating of a step has the exact sum. -/
theorem consumeFoodBy_exact (config : SimulationConfig) (world : WorldState) :
    consumeFoodBy (· + ·) maths config world = consumeFood config maths world := rfl

/-- `snake.mass + food.mass`, of doubles. -/
def plus (a b : ℚ) : ℚ := Double.nearest (a + b)

end By

/-! ### The scan -/

section Plain
variable (add : ℚ → ℚ → ℚ) (maths : Maths)

/-- The snake gains the pellet, which is gone. -/
def swallow (id : EntityId) (w : WorldState) (f : FoodEntity) : WorldState :=
  { w with
    snakes := w.snakes.update id fun snake => snake.setMass maths (add snake.mass f.mass)
    food := w.food.delete f.id }

def inReach (snake : SnakeEntity) (f : FoodEntity) : Bool :=
  atMost (distance maths f.position snake.headOf) (snake.radius + 14)

/-- All the pellets within the reach of a snake. -/
def withinReach (w : WorldState) (snake : SnakeEntity) : List FoodEntity :=
  w.food.values.filter (inReach maths snake)

/-- The turns of some snakes in order, the pellets of each in some order, and what is eaten. -/
inductive Scans : WorldState → List EntityId → List FoodEntity → WorldState → Prop where
  | nil (w : WorldState) : Scans w [] [] w
  | skip {w w' : WorldState} {id : EntityId} {ids : List EntityId} {eaten : List FoodEntity}
      (h : ∀ snake, w.snakes.get id = some snake → snake.alive = false)
      (rest : Scans w ids eaten w') : Scans w (id :: ids) eaten w'
  | turn {w w' : WorldState} {id : EntityId} {ids : List EntityId} {snake : SnakeEntity}
      {fs eaten : List FoodEntity} (hs : w.snakes.get id = some snake) (halive : snake.alive = true)
      (hfs : fs.Perm (withinReach maths w snake))
      (rest : Scans (fs.foldl (swallow add maths id) w) ids eaten w') :
      Scans w (id :: ids) (fs ++ eaten) w'

/-- The turn of one snake in the order of the food, and what has been eaten so far. -/
def plainEat (p : WorldState × List FoodEntity) (id : EntityId) : WorldState × List FoodEntity :=
  match p.1.snakes.get id with
  | none => p
  | some snake =>
      if snake.alive then
        ((withinReach maths p.1 snake).foldl (swallow add maths id) p.1,
          p.2 ++ withinReach maths p.1 snake)
      else p

def plainConsume (w : WorldState) : WorldState × List FoodEntity :=
  w.snakes.keys.foldl (plainEat add maths) (w, [])

end Plain

/-- What all the snakes weigh. -/
def snakeMass (snakes : OrderedMap EntityId SnakeEntity) : ℚ := (snakes.values.map (·.mass)).sum

namespace WorldState

/-- Each pellet is stored by its id, as every write stores it. -/
def Keyed (w : WorldState) : Prop := w.food.All fun id f => f.id = id

/-- No snake weighs less than 1, the floor of `setMass`, and no pellet less than nothing. -/
structure Weighs (w : WorldState) : Prop where
  snakes : w.snakes.All fun _ s => 1 ≤ s.mass
  food : w.food.All fun _ f => 0 ≤ f.mass

/-- What snakes and pellets weigh together. -/
def mass (w : WorldState) : ℚ := snakeMass w.snakes + foodMass w.food

end WorldState

/-! ### What is swallowed -/

section Swallowing
variable {add : ℚ → ℚ → ℚ} {maths : Maths} {w w' : WorldState} {id : EntityId}

/-- A pellet less, and the others under their ids. -/
theorem WorldState.Keyed.swallow (hw : w.Keyed) (id : EntityId) (f : FoodEntity) :
    (Game.swallow add maths id w f).Keyed := OrderedMap.All.delete hw

theorem WorldState.Keyed.swallows (hw : w.Keyed) (id : EntityId) (fs : List FoodEntity) :
    (fs.foldl (Game.swallow add maths id) w).Keyed :=
  List.foldlRecOn (motive := fun w : WorldState => w.Keyed) _ _ hw fun _ hw f _ => hw.swallow id f

/-- Pellets are deleted one by one. -/
theorem swallows_food (id : EntityId) (fs : List FoodEntity) : ∀ w : WorldState,
    (fs.foldl (swallow add maths id) w).food =
      fs.foldl (fun food f => food.delete f.id) w.food := by
  induction fs with
  | nil => exact fun _ => rfl
  | cons f fs ih => exact fun w => ih (swallow add maths id w f)

/-- Other snakes are as they were. -/
theorem swallows_other {id' : EntityId} (hne : id' ≠ id) (fs : List FoodEntity) : ∀ w : WorldState,
    (fs.foldl (swallow add maths id) w).snakes.get id' = w.snakes.get id' := by
  induction fs with
  | nil => exact fun _ => rfl
  | cons f fs ih =>
      intro w
      rw [List.foldl_cons, ih]
      unfold swallow
      dsimp only
      rw [OrderedMap.get_update, if_neg hne]

/-- The snake is still there. -/
theorem swallow_there (h : ∃ s, w.snakes.get id = some s) (f : FoodEntity) :
    ∃ s, (swallow add maths id w f).snakes.get id = some s := by
  obtain ⟨s, hs⟩ := h
  refine ⟨s.setMass maths (add s.mass f.mass), ?_⟩
  unfold swallow
  dsimp only
  rw [OrderedMap.get_update, if_pos rfl, hs]
  rfl

/-- Pellets of other ids are left. -/
theorem swallow_left {f g : FoodEntity} (hne : g.id ≠ f.id) (hg : w.food.get g.id = some g) :
    (swallow add maths id w f).food.get g.id = some g := by
  unfold swallow
  dsimp only
  rw [OrderedMap.get_delete, if_neg hne, hg]

/-- In any order. -/
theorem deletes_perm {fs gs : List FoodEntity} (h : fs.Perm gs)
    (food : OrderedMap EntityId FoodEntity) :
    fs.foldl (fun food f => food.delete f.id) food =
      gs.foldl (fun food f => food.delete f.id) food :=
  foldl_perm (P := fun _ => True) (I := fun _ => True) (f := fun food f => food.delete f.id)
    (fun _ _ _ _ => trivial) (fun food _ _ _ _ _ => food.filter_comm _ _) h
    (fun _ _ => trivial) food trivial

/-- What is swallowed is what is missing. -/
theorem swallows_pellets (id : EntityId) (fs : List FoodEntity) : ∀ {w : WorldState},
    (fs.map (·.id)).Nodup → (∀ f ∈ fs, w.food.get f.id = some f) →
      w.food.values.Perm (fs ++ (fs.foldl (swallow add maths id) w).food.values) := by
  induction fs with
  | nil => exact fun _ _ => .refl _
  | cons f fs ih =>
      intro w hnodup hfs
      obtain ⟨hf, hnodup⟩ := List.nodup_cons.mp hnodup
      have hleft : ∀ g ∈ fs, (swallow add maths id w f).food.get g.id = some g := fun g hg =>
        swallow_left (fun h => hf (List.mem_map.mpr ⟨g, hg, h⟩)) (hfs g (.tail _ hg))
      exact (OrderedMap.values_perm_delete (hfs f (.head _))).trans ((ih hnodup hleft).cons f)

/-- No two pellets have one id. -/
theorem values_nodup (hw : w.Keyed) : (w.food.values.map (·.id)).Nodup := by
  have hkeys : w.food.values.map (·.id) = w.food.keys := by
    unfold OrderedMap.values OrderedMap.keys
    rw [List.map_map]
    exact List.map_congr_left fun e he => hw e.1 e.2 (OrderedMap.mem_entries.mp he)
  rw [hkeys]
  exact w.food.nodup

/-- A pellet within reach is there, and its distance is less than the reach. -/
theorem mem_withinReach (hw : w.Keyed) {snake : SnakeEntity} {f : FoodEntity} :
    f ∈ withinReach maths w snake ↔
      w.food.get f.id = some f ∧ inReach maths snake f = true := by
  unfold withinReach
  rw [List.mem_filter, OrderedMap.mem_values]
  constructor
  · rintro ⟨⟨id, hf⟩, hreach⟩
    exact ⟨(hw id f hf).symm ▸ hf, hreach⟩
  · rintro ⟨hf, hreach⟩
    exact ⟨⟨f.id, hf⟩, hreach⟩

/-- It is found once. -/
theorem withinReach_nodup (hw : w.Keyed) (snake : SnakeEntity) :
    ((withinReach maths w snake).map (·.id)).Nodup :=
  (values_nodup hw).sublist (List.filter_sublist.map _)

/-- The pellets of a turn are there, once each. -/
theorem turn_pellets (hw : w.Keyed) {snake : SnakeEntity} {fs : List FoodEntity}
    (hfs : fs.Perm (withinReach maths w snake)) :
    (fs.map (·.id)).Nodup ∧ ∀ f ∈ fs, w.food.get f.id = some f :=
  ⟨((hfs.map (·.id)).nodup_iff).mpr (withinReach_nodup hw snake),
    fun _ hf => ((mem_withinReach hw).mp (hfs.subset hf)).1⟩

/-! ### What a scan leaves -/

variable {ids : List EntityId} {eaten : List FoodEntity}

/-- No pellet is eaten twice: with what is left they are all the food there was. -/
theorem Scans.pellets (h : Scans add maths w ids eaten w') (hw : w.Keyed) :
    w'.Keyed ∧ w.food.values.Perm (eaten ++ w'.food.values) := by
  induction h with
  | nil => exact ⟨hw, .refl _⟩
  | skip _ _ ih => exact ih hw
  | @turn w w' id ids snake fs eaten _ _ hfs _ ih =>
      obtain ⟨hkeyed, hrest⟩ := ih (hw.swallows id fs)
      obtain ⟨hnodup, hthere⟩ := turn_pellets hw hfs
      refine ⟨hkeyed, ?_⟩
      rw [List.append_assoc]
      exact (swallows_pellets id fs hnodup hthere).trans (hrest.append_left fs)

/-- **The order of the turns' pellets and the rounding of the sums do not show in the food.** -/
theorem Scans.same_food {add' : ℚ → ℚ → ℚ} (h : Scans add maths w ids eaten w') :
    ∀ {v v' : WorldState} {eaten' : List FoodEntity}, Scans add' maths v ids eaten' v' →
      ids.Nodup → w.food = v.food → (∀ id ∈ ids, w.snakes.get id = v.snakes.get id) →
      eaten.Perm eaten' ∧ w'.food = v'.food := by
  induction h with
  | nil w =>
      intro v v' eaten' h' _ hfood _
      cases h'
      exact ⟨.refl _, hfood⟩
  | @skip w w' id ids eaten hdead _ ih =>
      intro v v' eaten' h' hnodup hfood hsnakes
      have hrest := fun i hi => hsnakes i (List.mem_cons_of_mem id hi)
      cases h' with
      | skip _ rest' => exact ih rest' (List.nodup_cons.mp hnodup).2 hfood hrest
      | turn hs halive _ _ =>
          rw [← hsnakes id List.mem_cons_self] at hs
          exact absurd (hdead _ hs) (by rw [halive]; exact Bool.noConfusion)
  | @turn w w' id ids snake fs eaten hs halive hfs _ ih =>
      intro v v' eaten' h' hnodup hfood hsnakes
      obtain ⟨hid, hnodup⟩ := List.nodup_cons.mp hnodup
      have hs' := hs
      rw [hsnakes id List.mem_cons_self] at hs'
      cases h' with
      | skip hdead _ => exact absurd (hdead _ hs') (by rw [halive]; exact Bool.noConfusion)
      | @turn _ _ _ _ snake' fs' eaten' hsnake' _ hfs' rest' =>
          obtain rfl : snake' = snake := Option.some.inj (hsnake'.symm.trans hs')
          -- both turns have the same pellets, in two orders
          have hperm : fs.Perm fs' := by
            unfold withinReach at hfs hfs'
            rw [hfood] at hfs
            exact hfs.trans hfs'.symm
          have hleft : (fs.foldl (swallow add maths id) w).food =
              (fs'.foldl (swallow add' maths id) v).food := by
            rw [swallows_food, swallows_food, hfood, deletes_perm hperm]
          obtain ⟨heaten, hfood'⟩ := ih rest' hnodup hleft fun i hi => by
            have hne : i ≠ id := fun h => hid (h ▸ hi)
            rw [swallows_other hne, swallows_other hne, hsnakes i (List.mem_cons_of_mem id hi)]
          exact ⟨hperm.append heaten, hfood'⟩

end Swallowing

/-! ### What the roundings come to -/

/-- A part of a total that is moved twice. -/
theorem drift_trans {u a b c : ℚ} (hu : 0 ≤ u) {m n : ℕ} (h₁ : |b - a| ≤ ((1 + u) ^ m - 1) * a)
    (h₂ : |c - b| ≤ ((1 + u) ^ n - 1) * b) : |c - a| ≤ ((1 + u) ^ (m + n) - 1) * a := by
  have hpow : (1 : ℚ) ≤ (1 + u) ^ n := one_le_pow₀ (by linarith)
  have hb : b ≤ (1 + u) ^ m * a := by linarith [(abs_le.mp h₁).2]
  calc |c - a| ≤ |c - b| + |b - a| := abs_sub_le _ _ _
    _ ≤ ((1 + u) ^ n - 1) * b + ((1 + u) ^ m - 1) * a := add_le_add h₂ h₁
    _ ≤ ((1 + u) ^ n - 1) * ((1 + u) ^ m * a) + ((1 + u) ^ m - 1) * a := by gcongr
    _ = ((1 + u) ^ (m + n) - 1) * a := by ring

section Roundings
variable {u : ℚ} {add : ℚ → ℚ → ℚ} {maths : Maths} {w w' : WorldState} {id : EntityId}

/-- What is swallowed adds mass. -/
theorem WorldState.Weighs.swallow (hw : w.Weighs) (id : EntityId) (f : FoodEntity) :
    (Game.swallow add maths id w f).Weighs where
  snakes := OrderedMap.All.update hw.snakes fun _ _ => le_max_left _ _
  food := OrderedMap.All.delete hw.food

/-- One snake weighs no more than all. -/
theorem le_snakeMass (hw : w.Weighs) {s : SnakeEntity} (hs : w.snakes.get id = some s) :
    s.mass ≤ snakeMass w.snakes := by
  have hnonneg : ∀ m ∈ w.snakes.values.map (·.mass), 0 ≤ m := by
    intro m hm
    obtain ⟨s', hs', rfl⟩ := List.mem_map.mp hm
    obtain ⟨id', hid'⟩ := OrderedMap.mem_values.mp hs'
    linarith [hw.snakes id' s' hid']
  exact List.single_le_sum hnonneg _ (List.mem_map_of_mem (OrderedMap.mem_values.mpr ⟨id, hs⟩))

/-- Food weighs. -/
theorem foodMass_nonneg (hw : w.Weighs) : 0 ≤ foodMass w.food := by
  refine List.sum_nonneg fun m hm => ?_
  obtain ⟨f, hf, rfl⟩ := List.mem_map.mp hm
  obtain ⟨id, hid⟩ := OrderedMap.mem_values.mp hf
  exact hw.food id f hid

/-- One pellet: the total moves by the rounding of one sum. -/
theorem swallow_mass (hu : 0 ≤ u)
    (hadd : ∀ a b : ℚ, 1 ≤ a → 0 ≤ b → |add a b - (a + b)| ≤ u * (a + b)) (hw : w.Weighs)
    {s : SnakeEntity} (hs : w.snakes.get id = some s) {f : FoodEntity}
    (hf : w.food.get f.id = some f) :
    |(swallow add maths id w f).mass - w.mass| ≤ u * w.mass := by
  have hsnake := hw.snakes id s hs
  have hpellet := hw.food f.id f hf
  have hsnakes : snakeMass (swallow add maths id w f).snakes =
      snakeMass w.snakes + (max 1 (add s.mass f.mass) - s.mass) := OrderedMap.sum_update _ _ hs
  have hfood : foodMass w.food = f.mass + foodMass (swallow add maths id w f).food := by
    have hsum := ((OrderedMap.values_perm_delete hf).map (·.mass)).sum_eq
    rwa [List.map_cons, List.sum_cons] at hsum
  have hpart : s.mass + f.mass ≤ w.mass := by
    have hswallowed : (swallow add maths id w f).Weighs := hw.swallow id f
    have hrest := foodMass_nonneg hswallowed
    unfold WorldState.mass
    linarith [le_snakeMass hw hs]
  -- the floor moves the sum no further than its rounding did
  have hfloor : |max 1 (add s.mass f.mass) - (s.mass + f.mass)| ≤
      |add s.mass f.mass - (s.mass + f.mass)| := by
    have h := abs_max_sub_max_le_abs (add s.mass f.mass) (s.mass + f.mass) 1
    rwa [max_comm, max_eq_left (by linarith : (1 : ℚ) ≤ s.mass + f.mass)] at h
  have hmoved : (swallow add maths id w f).mass - w.mass =
      max 1 (add s.mass f.mass) - (s.mass + f.mass) := by
    unfold WorldState.mass
    rw [hsnakes, hfood]
    ring
  rw [hmoved]
  calc _ ≤ |add s.mass f.mass - (s.mass + f.mass)| := hfloor
    _ ≤ u * (s.mass + f.mass) := hadd _ _ hsnake hpellet
    _ ≤ u * w.mass := mul_le_mul_of_nonneg_left hpart hu

/-- **Swallowing moves mass from the food to the snake**, up to the error of each addition. -/
theorem swallows_mass (hu : 0 ≤ u)
    (hadd : ∀ a b : ℚ, 1 ≤ a → 0 ≤ b → |add a b - (a + b)| ≤ u * (a + b)) (id : EntityId)
    (fs : List FoodEntity) : ∀ {w : WorldState}, w.Weighs →
      (∃ s, w.snakes.get id = some s) → (fs.map (·.id)).Nodup →
      (∀ f ∈ fs, w.food.get f.id = some f) →
      (fs.foldl (swallow add maths id) w).Weighs ∧
        |(fs.foldl (swallow add maths id) w).mass - w.mass| ≤
          ((1 + u) ^ fs.length - 1) * w.mass := by
  induction fs with
  | nil => exact fun hw _ _ _ => ⟨hw, by simp⟩
  | cons f fs ih =>
      intro w hw hs hnodup hfs
      obtain ⟨hf, hnodup⟩ := List.nodup_cons.mp hnodup
      have hleft : ∀ g ∈ fs, (swallow add maths id w f).food.get g.id = some g := fun g hg =>
        swallow_left (fun h => hf (List.mem_map.mpr ⟨g, hg, h⟩)) (hfs g (.tail _ hg))
      obtain ⟨hweighs, hrest⟩ := ih (hw.swallow id f) (swallow_there hs f) hnodup hleft
      obtain ⟨s, hs⟩ := hs
      have hfirst : |(swallow add maths id w f).mass - w.mass| ≤ ((1 + u) ^ 1 - 1) * w.mass := by
        rw [pow_one, add_sub_cancel_left]
        exact swallow_mass hu hadd hw hs (hfs f (.head _))
      refine ⟨hweighs, ?_⟩
      rw [List.length_cons, Nat.add_comm fs.length 1]
      exact drift_trans hu hfirst hrest

/-- **What snakes and pellets weigh together moves by the roundings alone**: for each pellet that
is eaten, by at most a part `u` of it. -/
theorem Scans.mass (hu : 0 ≤ u)
    (hadd : ∀ a b : ℚ, 1 ≤ a → 0 ≤ b → |add a b - (a + b)| ≤ u * (a + b))
    {ids : List EntityId} {eaten : List FoodEntity} (h : Scans add maths w ids eaten w')
    (hkeyed : w.Keyed) (hw : w.Weighs) :
    |w'.mass - w.mass| ≤ ((1 + u) ^ eaten.length - 1) * w.mass := by
  induction h with
  | nil => simp
  | skip _ _ ih => exact ih hkeyed hw
  | @turn w w' id ids snake fs eaten hs _ hfs _ ih =>
      obtain ⟨hnodup, hthere⟩ := turn_pellets hkeyed hfs
      obtain ⟨hweighs, hturn⟩ :=
        swallows_mass hu hadd id fs hw ⟨snake, hs⟩ hnodup hthere
      rw [List.length_append]
      exact drift_trans hu hturn (ih (hkeyed.swallows id fs) hweighs)

end Roundings

/-! ### Exact sums, in any order -/

section Exact
variable {maths : Maths} {w : WorldState} {s : SnakeEntity} {id : EntityId}

/-- More mass, more points. -/
theorem lengthForMass_mono {a b : ℚ} (h : a ≤ b) : lengthForMass a ≤ lengthForMass b := by
  refine min_le_min le_rfl (Nat.floor_le_floor ?_)
  have := max_le_max (le_refl (0 : ℚ)) h
  linarith

/-- A snake that gains keeps its length. -/
theorem spineLength_setMass (hs : s.Sound maths) {m : ℚ} (hm : s.mass ≤ m) :
    (s.setMass maths m).spineLength = s.spineLength := by
  refine min_eq_left (hs.spineLength_le.trans (min_le_min (lengthForMass_mono ?_) le_rfl))
  exact hm.trans (le_max_right _ _)

/-- Two pellets are as good as one of their mass. -/
theorem setMass_setMass (hs : s.Sound maths) {a b : ℚ} (ha : 0 ≤ a) (hb : 0 ≤ b) :
    (s.setMass maths (s.mass + a)).setMass maths ((s.setMass maths (s.mass + a)).mass + b) =
      s.setMass maths (s.mass + (a + b)) := by
  have hgain : (s.setMass maths (s.mass + a)).mass = s.mass + a :=
    max_eq_right (by linarith only [hs.mass, ha])
  have hlength : ((s.setMass maths (s.mass + a)).setMass maths
      ((s.setMass maths (s.mass + a)).mass + b)).spineLength =
        (s.setMass maths (s.mass + (a + b))).spineLength := by
    rw [spineLength_setMass (setMass_sound _ hs) (by linarith only [hb]),
      spineLength_setMass hs (by linarith only [ha]),
      spineLength_setMass hs (by linarith only [ha, hb])]
  rw [hgain, add_assoc] at hlength ⊢
  -- apart from the length, the second mass is all that counts
  calc (s.setMass maths (s.mass + a)).setMass maths (s.mass + (a + b))
      = { s.setMass maths (s.mass + (a + b)) with
          spineLength := ((s.setMass maths (s.mass + a)).setMass maths
            (s.mass + (a + b))).spineLength } := rfl
    _ = s.setMass maths (s.mass + (a + b)) := by rw [hlength]

/-- What a snake swallows leaves the world edible. -/
theorem WorldState.Edible.swallow (hw : w.Edible maths) (id : EntityId) (f : FoodEntity) :
    (Game.swallow (· + ·) maths id w f).Edible maths where
  snakes := OrderedMap.All.update hw.snakes fun _ hs => setMass_sound _ hs
  food := OrderedMap.All.delete hw.food

/-- **Exactly added, two pellets may be eaten in either order.**. -/
theorem swallow_comm (hw : w.Edible maths) (id : EntityId) {f g : FoodEntity} (hf : 0 ≤ f.mass)
    (hg : 0 ≤ g.mass) : swallow (· + ·) maths id (swallow (· + ·) maths id w f) g =
      swallow (· + ·) maths id (swallow (· + ·) maths id w g) f := by
  have hfood : (w.food.delete f.id).delete g.id = (w.food.delete g.id).delete f.id :=
    OrderedMap.filter_comm _ _ _
  have hsnakes : ∀ a b : ℚ, 0 ≤ a → 0 ≤ b →
      ((w.snakes.update id fun s => s.setMass maths (s.mass + a)).update id fun s =>
        s.setMass maths (s.mass + b)) =
      w.snakes.update id fun s => s.setMass maths (s.mass + (a + b)) := by
    intro a b ha hb
    refine (OrderedMap.mapValues_mapValues _ _ _).trans (OrderedMap.mapValues_congr ?_)
    intro id' s hs
    split_ifs
    · exact setMass_setMass (hw.snakes id' s hs) ha hb
    · rfl
  unfold swallow
  dsimp only
  rw [hfood, hsnakes _ _ hf hg, hsnakes _ _ hg hf, add_comm]

/-- The order does not matter. -/
theorem swallows_perm {fs gs : List FoodEntity} (h : fs.Perm gs) (hfs : ∀ f ∈ fs, 0 ≤ f.mass)
    (hw : w.Edible maths) (id : EntityId) :
    fs.foldl (swallow (· + ·) maths id) w = gs.foldl (swallow (· + ·) maths id) w :=
  foldl_perm (I := fun w => w.Edible maths) (fun _ f _ hw => hw.swallow id f)
    (fun _ _ _ hf hg hw => swallow_comm hw id hf hg) h hfs w hw

end Exact

/-! ### What the hash finds -/

section Hash
variable {config : SimulationConfig} {maths : Maths} {s : Eating} {id : EntityId}

/-- Every pellet that is left is in the bucket of its cell. -/
structure Eating.Listed (config : SimulationConfig) (s : Eating) : Prop where
  cellSize : s.foodHash.cellSize = config.cellSize
  found : s.world.food.All fun id f => id ∈ s.foodHash.bucket (s.foodHash.keyOf f.position)

theorem keyOf_congr {hash hash' : SpatialHash} (h : hash'.cellSize = hash.cellSize) :
    hash'.keyOf = hash.keyOf := by
  funext p
  cases p with
  | none => rfl
  | some p =>
      unfold SpatialHash.keyOf SpatialHash.cellOf
      rw [h]

/-- What is inserted is in its bucket, whatever is inserted afterwards. -/
theorem inserts_listed (foods : List FoodEntity) : ∀ (hash : SpatialHash),
    (foods.foldl (fun hash food => hash.insert food.id food.position) hash).cellSize =
        hash.cellSize ∧
      ∀ key k, k ∈ hash.bucket key ∨ (∃ f ∈ foods, k = f.id ∧ hash.keyOf f.position = key) →
        k ∈ (foods.foldl (fun hash food => hash.insert food.id food.position) hash).bucket key := by
  induction foods with
  | nil =>
      refine fun hash => ⟨rfl, fun key k h => h.resolve_right ?_⟩
      rintro ⟨f, hf, -⟩
      cases hf
  | cons food foods ih =>
      intro hash
      obtain ⟨hsize, hbucket⟩ := ih (hash.insert food.id food.position)
      refine ⟨hsize.trans SpatialHash.insert_cellSize, fun key k h => hbucket key k ?_⟩
      rw [SpatialHash.mem_bucket_insert, keyOf_congr SpatialHash.insert_cellSize]
      rcases h with h | ⟨f, hf, rfl, hkey⟩
      · exact .inl (.inl h)
      · rcases List.mem_cons.mp hf with rfl | hf
        · exact .inl (.inr ⟨rfl, hkey⟩)
        · exact .inr ⟨f, hf, rfl, hkey⟩

/-- The hash lists every pellet under its cell. -/
theorem rebuildFoodHash_listed (config : SimulationConfig) {w : WorldState} (hw : w.Keyed)
    (n : ℕ) : Eating.Listed config ⟨w, rebuildFoodHash config w, n⟩ := by
  obtain ⟨hsize, hbucket⟩ := inserts_listed w.food.values (.new config.cellSize)
  refine ⟨hsize, fun id f hf => ?_⟩
  have hkey : (rebuildFoodHash config w).keyOf f.position =
      (SpatialHash.new config.cellSize).keyOf f.position :=
    congrFun (keyOf_congr hsize) f.position
  exact hbucket _ id (.inr ⟨f, OrderedMap.mem_values.mpr ⟨id, hf⟩, (hw id f hf).symm, hkey.symm⟩)

/-- A removal leaves the others in their cells. -/
theorem mem_bucket_remove {hash : SpatialHash} {id k : ℕ} {p : Position} {key : BitVec 32}
    (hne : k ≠ id) : k ∈ (hash.remove id p).bucket key ↔ k ∈ hash.bucket key := by
  rw [← List.count_pos_iff, ← List.count_pos_iff, SpatialHash.count_bucket_remove,
    if_neg fun h => hne h.1, Nat.sub_zero]

/-- A pellet within reach of a head is among the candidates. -/
theorem mem_candidates (hmaths : maths.Hypotenuse) (hs : s.Listed config) {f : FoodEntity}
    (hf : s.world.food.get f.id = some f) {head : Position} {reach : ℚ}
    (hreach : atMost (distance maths f.position head) reach = true) :
    f.id ∈ s.foodHash.queryCircle head reach := by
  cases hq : f.position with
  | none => rw [hq] at hreach; exact absurd hreach (by simp [distance, atMost])
  | some q =>
      cases head with
      | none => rw [hq] at hreach; exact absurd hreach (by simp [distance, atMost])
      | some p =>
          have hdist : maths.hypot (q.x - p.x) (q.y - p.y) ≤ reach := by
            simpa [hq, distance, atMost] using hreach
          obtain ⟨hx, hy⟩ := hmaths (q.x - p.x) (q.y - p.y)
          refine SpatialHash.mem_queryCircle.mpr ⟨_, SpatialHash.queries_keyOf ?_
            (hx.trans hdist) (hy.trans hdist), hq ▸ hs.found f.id f hf⟩
          exact hs.cellSize ▸ config.cellSize_pos

end Hash

/-! ### One turn -/

section Turn
variable {config : SimulationConfig} {add : ℚ → ℚ → ℚ} {maths : Maths} {id : EntityId}

/-- One candidate: it is swallowed if it is left and within reach. -/
theorem eatOne_cases (id : EntityId) (head : Position) (reach : ℚ) {s : Eating}
    (hkeyed : s.world.Keyed) (foodId : EntityId) :
    (∃ f, s.world.food.get foodId = some f ∧ f.id = foodId ∧
        atMost (distance maths f.position head) reach = true ∧
        eatOneBy add maths id head reach s foodId = ⟨swallow add maths id s.world f,
          s.foodHash.remove foodId f.position, s.consumed + 1⟩) ∨
      (∀ f, s.world.food.get foodId = some f →
        atMost (distance maths f.position head) reach = false) ∧
        eatOneBy add maths id head reach s foodId = s := by
  unfold eatOneBy
  cases hf : s.world.food.get foodId with
  | none => exact .inr ⟨nofun, rfl⟩
  | some f =>
      have hid : f.id = foodId := hkeyed foodId f hf
      cases hreach : atMost (distance maths f.position head) reach with
      | true =>
          refine .inl ⟨f, rfl, hid, hreach, ?_⟩
          dsimp only
          rw [if_pos hreach, swallow, hid]
      | false =>
          refine .inr ⟨fun g hg => Option.some.inj hg ▸ hreach, ?_⟩
          dsimp only
          rw [if_neg (by rw [hreach]; nofun)]

/-- A pellet eaten is off the list, and the rest stays on it. -/
theorem eatOne_listed (id : EntityId) (head : Position) (reach : ℚ) {s : Eating}
    (hkeyed : s.world.Keyed) (hs : s.Listed config) (foodId : EntityId) :
    (eatOneBy add maths id head reach s foodId).Listed config := by
  obtain ⟨f, -, hid, -, heq⟩ | ⟨-, heq⟩ := @eatOne_cases add maths id head reach s hkeyed foodId
  · rw [heq]
    refine ⟨SpatialHash.remove_cellSize.trans hs.cellSize, fun k g hg => ?_⟩
    unfold swallow at hg
    dsimp only at hg ⊢
    rw [OrderedMap.get_delete, hid] at hg
    split at hg
    · cases hg
    next hne =>
      rw [keyOf_congr SpatialHash.remove_cellSize, mem_bucket_remove hne]
      exact hs.found k g hg
  · rwa [heq]

/-- The candidates in order: those that are left and within reach are swallowed. -/
theorem eatOnes_swallow (id : EntityId) (head : Position) (reach : ℚ) (cs : List EntityId) :
    ∀ {s : Eating}, s.world.Keyed → s.Listed config → ∃ fs : List FoodEntity,
      (fs.map (·.id)).Nodup ∧
      (∀ f, f ∈ fs ↔ s.world.food.get f.id = some f ∧ f.id ∈ cs ∧
        atMost (distance maths f.position head) reach = true) ∧
      (cs.foldl (eatOneBy add maths id head reach) s).world =
        fs.foldl (swallow add maths id) s.world ∧
      (cs.foldl (eatOneBy add maths id head reach) s).consumed = s.consumed + fs.length ∧
      (cs.foldl (eatOneBy add maths id head reach) s).Listed config := by
  induction cs with
  | nil =>
      refine fun _ hs => ⟨[], .nil, fun f => ⟨by rintro ⟨⟩, ?_⟩, rfl, rfl, hs⟩
      rintro ⟨-, hmem, -⟩
      cases hmem
  | cons c cs ih =>
      intro s hw hs
      have hlisted := @eatOne_listed config add maths id head reach s hw hs c
      rw [List.foldl_cons]
      obtain ⟨f, hf, hid, hreach, heq⟩ | ⟨hnone, heq⟩ := eatOne_cases id head reach hw c
      · rw [heq] at hlisted ⊢
        obtain ⟨fs, hnodup, hmem, hworld, hcount, hrest⟩ := ih (hw.swallow id f) hlisted
        have hleft : ∀ g : FoodEntity, (swallow add maths id s.world f).food.get g.id = some g ↔
            g.id ≠ c ∧ s.world.food.get g.id = some g := fun g => by
          unfold swallow
          dsimp only
          rw [OrderedMap.get_delete, hid]
          split_ifs with h
          · exact ⟨by rintro ⟨⟩, fun h' => absurd h h'.1⟩
          · exact ⟨fun h' => ⟨h, h'⟩, fun h' => h'.2⟩
        refine ⟨f :: fs, List.nodup_cons.mpr ⟨fun hmap => ?_, hnodup⟩, fun g => ?_,
          hworld, ?_, hrest⟩
        · obtain ⟨g, hg, hgf⟩ := List.mem_map.mp hmap
          exact ((hleft g).mp ((hmem g).mp hg).1).1 (hgf.trans hid)
        · rw [List.mem_cons, hmem, hleft, List.mem_cons]
          constructor
          · rintro (rfl | ⟨⟨-, hg⟩, hcs, hr⟩)
            · exact ⟨hid.symm ▸ hf, .inl hid, hreach⟩
            · exact ⟨hg, .inr hcs, hr⟩
          · rintro ⟨hg, hcs, hr⟩
            by_cases hc : g.id = c
            · exact .inl (Option.some.inj (hg.symm.trans (hc ▸ hf)))
            · exact .inr ⟨⟨hc, hg⟩, hcs.resolve_left hc, hr⟩
        · rw [hcount, List.length_cons]
          exact (add_assoc ..).trans (congrArg _ (Nat.add_comm ..))
      · rw [heq]
        obtain ⟨fs, hnodup, hmem, hrest⟩ := ih hw hs
        refine ⟨fs, hnodup, fun g => (hmem g).trans ?_, hrest⟩
        rw [List.mem_cons]
        constructor
        · rintro ⟨hg, hcs, hr⟩
          exact ⟨hg, .inr hcs, hr⟩
        · rintro ⟨hg, hcs, hr⟩
          refine ⟨hg, hcs.resolve_left fun hc => ?_, hr⟩
          rw [hnone g (hc ▸ hg)] at hr
          cases hr

variable (add) in
/-- **One turn.**  The candidates that are left and within reach are all that are within reach. -/
theorem eatBy_turn (hmaths : maths.Hypotenuse) {s : Eating} (hkeyed : s.world.Keyed)
    (hs : s.Listed config) {snake : SnakeEntity} (hsnake : s.world.snakes.get id = some snake)
    (halive : snake.alive = true) : ∃ fs : List FoodEntity,
      fs.Perm (withinReach maths s.world snake) ∧
      (eatBy add maths s id).world = fs.foldl (swallow add maths id) s.world ∧
      (eatBy add maths s id).consumed = s.consumed + fs.length ∧
      (eatBy add maths s id).Listed config := by
  obtain ⟨fs, hnodup, hmem, hrest⟩ := @eatOnes_swallow config add maths id snake.headOf
    (snake.radius + 14) (s.foodHash.queryCircle snake.headOf (snake.radius + 14)) s hkeyed hs
  have hall : ∀ f, f ∈ fs ↔ f ∈ withinReach maths s.world snake := fun f => by
    rw [hmem, mem_withinReach hkeyed]
    exact ⟨fun ⟨hf, _, hr⟩ => ⟨hf, hr⟩, fun ⟨hf, hr⟩ => ⟨hf, mem_candidates hmaths hs hf hr, hr⟩⟩
  refine ⟨fs, (List.perm_ext_iff_of_nodup hnodup.of_map
    (withinReach_nodup hkeyed snake).of_map).mpr hall, ?_⟩
  unfold eatBy
  rw [hsnake]
  dsimp only
  rw [if_pos halive]
  exact hrest

/-- A dead snake eats nothing. -/
theorem eatBy_skip {s : Eating}
    (h : ∀ snake, s.world.snakes.get id = some snake → snake.alive = false) :
    eatBy add maths s id = s := by
  unfold eatBy
  cases hs : s.world.snakes.get id with
  | none => rfl
  | some snake =>
      dsimp only
      rw [if_neg (by rw [h snake hs]; exact Bool.noConfusion)]

variable (add) in
/-- The loops are a scan. -/
theorem scans_eatBy (hmaths : maths.Hypotenuse) (ids : List EntityId) : ∀ {s : Eating},
    s.world.Keyed → s.Listed config → ∃ eaten : List FoodEntity,
      Scans add maths s.world ids eaten (ids.foldl (eatBy add maths) s).world ∧
      (ids.foldl (eatBy add maths) s).consumed = s.consumed + eaten.length := by
  induction ids with
  | nil => exact fun _ _ => ⟨[], .nil _, rfl⟩
  | cons id ids ih =>
      intro s hkeyed hs
      rw [List.foldl_cons]
      by_cases hdead : ∀ snake, s.world.snakes.get id = some snake → snake.alive = false
      · obtain ⟨eaten, hscan, hcount⟩ := ih hkeyed hs
        rw [eatBy_skip hdead]
        exact ⟨eaten, .skip hdead hscan, hcount⟩
      · simp only [not_forall, Bool.not_eq_false] at hdead
        obtain ⟨snake, hsnake, halive⟩ := hdead
        obtain ⟨fs, hfs, hworld, hcount, hlisted⟩ :=
          eatBy_turn add hmaths hkeyed hs hsnake halive
        obtain ⟨eaten, hscan, hrest⟩ := ih (hworld ▸ hkeyed.swallows id fs) hlisted
        rw [hworld] at hscan
        refine ⟨fs ++ eaten, .turn hsnake halive hfs hscan, ?_⟩
        rw [hrest, hcount, List.length_append, Nat.add_assoc]

variable (add) in
/-- **The loop over the snakes eats what is within the reach of each**, in the order of the
query. -/
theorem scans_consumeFoodBy (config : SimulationConfig) (hmaths : maths.Hypotenuse)
    {u : WorldState} (hu : u.Keyed) : ∃ eaten : List FoodEntity,
      Scans add maths u u.snakes.keys eaten (consumeFoodBy add maths config u).1 ∧
      (consumeFoodBy add maths config u).2 = eaten.length := by
  obtain ⟨eaten, hscan, hcount⟩ := scans_eatBy add hmaths u.snakes.keys
    (s := ⟨u, rebuildFoodHash config u, 0⟩) hu (rebuildFoodHash_listed config hu 0)
  exact ⟨eaten, hscan, hcount.trans (Nat.zero_add _)⟩

end Turn

/-- With exact sums a scan is the one in the order of the food. -/
theorem Scans.plain {maths : Maths} {w w' : WorldState} {ids : List EntityId}
    {eaten : List FoodEntity} (h : Scans (· + ·) maths w ids eaten w') (hw : w.Edible maths) :
    ∀ before, (ids.foldl (plainEat (· + ·) maths) (w, before)).1 = w' := by
  induction h with
  | nil => exact fun _ => rfl
  | @skip w w' id ids eaten hdead _ ih =>
      intro before
      have hstay : plainEat (· + ·) maths (w, before) id = (w, before) := by
        unfold plainEat
        cases hs : w.snakes.get id with
        | none => rfl
        | some snake =>
            dsimp only
            rw [if_neg (by rw [hdead snake hs]; exact Bool.noConfusion)]
      rw [List.foldl_cons, hstay]
      exact ih hw before
  | @turn w w' id ids snake fs eaten hs halive hfs _ ih =>
      intro before
      have hmass : ∀ f ∈ fs, 0 ≤ f.mass := fun f hf => by
        obtain ⟨i, hi⟩ := OrderedMap.mem_values.mp (List.mem_of_mem_filter (hfs.subset hf))
        exact (hw.food i f hi).2
      have hturn : plainEat (· + ·) maths (w, before) id =
          (fs.foldl (swallow (· + ·) maths id) w, before ++ withinReach maths w snake) := by
        unfold plainEat
        dsimp only
        rw [hs]
        dsimp only
        rw [if_pos halive, swallows_perm hfs hmass hw id]
      rw [List.foldl_cons, hturn]
      refine ih ?_ _
      exact List.foldlRecOn (motive := fun w : WorldState => w.Edible maths) _ _ hw
        fun _ hw f _ => hw.swallow id f

/-- Hypotenuses to three decimals, and never shorter than a side. -/
def upward : Maths := { rounded with hypot x y := max (max |x| |y|) (rounded.hypot x y) }

theorem upward_hypotenuse : upward.Hypotenuse := fun _ _ =>
  ⟨(le_max_left _ _).trans (le_max_left _ _), (le_max_right _ _).trans (le_max_left _ _)⟩

/-- A small arena with four pellets. -/
def pond : SimulationConfig := ⟨20, twenty_pos, 40, 20, by norm_num, 1, some 4⟩

/-- A snake has come, and moved. -/
def arrived : WorldState :=
  moveSnakes pond upward (applyInputs (spawnSnake upward (createWorld pond upward) 1 "a" false))

/-- Two pellets, of 4.6 and of the double below 2.2, the second of them in a cell before. -/
def uneven : WorldState :=
  { arrived with
    food := (OrderedMap.empty.set 1
      ⟨1, some ⟨30, 0⟩, 2589569785738035 / 562949953421312, 0, none⟩).set 4
      ⟨4, some ⟨-10, 8⟩, 4953959590107545 / 2251799813685248, 0, none⟩ }

end SnakeArena.Game
