import SnakeArena.Game.World

/-!
# Game — what the sweep misses

`detectCollisions` against a plain check over all pairs (`plainSweep`), the snakes taken in one
order.  The body hash finds a point when the cell of the point is one that is queried
(`Reaches`): it invents nothing, and it misses a snake whose head is touched only at points out of
the margin.

* `sweep_as_plain`: the two kill the same snakes exactly when no touched snake is missed.
* `covered_of_radius`: none is while no snake is wider than the margin.
-/

namespace SnakeArena.Game
open SnakeArena.Library

/-! ### The plain check -/

section Plain
variable (maths : Maths)

/-- Some indexed point of another living snake is touched. -/
def plainTouched (w : WorldState) (snake : SnakeEntity) : Bool :=
  w.snakes.values.any fun other =>
    decide (other.id ≠ snake.id) && other.alive && (indexed other).any (touches maths snake other)

def plainCollide (w : WorldState) (id : EntityId) : WorldState :=
  match w.snakes.get id with
  | none => w
  | some snake =>
      if !snake.alive then w
      else if outside maths w snake || plainTouched maths w snake then kill w id
      else w

def plainSweep (w : WorldState) : WorldState := w.snakes.keys.foldl (plainCollide maths) w

end Plain

def lives (w : WorldState) (id : EntityId) : Bool := (w.snakes.get id).any (·.alive)

/-- The detection leaves alive whom the plain check leaves alive. -/
def KillsAsPlain (config : SimulationConfig) (maths : Maths) (u : WorldState) : Prop :=
  ∀ id, lives (detectCollisions config maths u).1 id = lives (plainSweep maths u) id

/-- The point is in a cell that is queried for the head, or in one of the same key. -/
def Reaches (config : SimulationConfig) (snake other : SnakeEntity) (offset : ℕ) : Prop :=
  ∃ head, snake.headOf = some head ∧ (SpatialHash.new config.cellSize).Queries head
    (snake.radius + 40) ((SpatialHash.new config.cellSize).keyOf (other.pointAt offset))

/-- A point of another living snake is touched, and `Q` of it. -/
def Meets (maths : Maths) (w : WorldState) (snake : SnakeEntity) (Q : SnakeEntity → ℕ → Prop) :
    Prop :=
  ∃ id other offset, w.snakes.get id = some other ∧ other.id ≠ snake.id ∧ other.alive = true ∧
    offset ∈ indexed other ∧ touches maths snake other offset = true ∧ Q other offset

/-- If the snake is touched inside the world, it is at a point that is reached. -/
def CoveredAt (config : SimulationConfig) (maths : Maths) (w : WorldState) (id : EntityId) : Prop :=
  ∀ snake, w.snakes.get id = some snake → snake.alive = true → outside maths w snake = false →
    plainTouched maths w snake = true → Meets maths w snake (Reaches config snake)

/-- Each snake of the list is covered when the plain check comes to it. -/
def CoveredFrom (config : SimulationConfig) (maths : Maths) (w : WorldState) : List EntityId → Prop
  | [] => True
  | id :: ids => CoveredAt config maths w id ∧
      CoveredFrom config maths (plainCollide maths w id) ids

def Covered (config : SimulationConfig) (maths : Maths) (u : WorldState) : Prop :=
  CoveredFrom config maths u u.snakes.keys

/-! ### The body hash -/

/-- The points are indexed, each under a key of its own cell, and nothing else. -/
structure BodyHash.Indexes (b : BodyHash) (cellSize : ℚ) (points : List (SnakeEntity × ℕ)) :
    Prop where
  cellSize : b.hash.cellSize = cellSize
  below : ∀ k id, b.bodyOwner.get k = some id → k < b.key
  found : ∀ key k, k ∈ b.hash.bucket key → ∃ e ∈ points, b.bodyOwner.get k = some e.1.id ∧
    b.bodyPoint.get k = some e.2 ∧ b.hash.keyOf (e.1.pointAt e.2) = key
  covers : ∀ e ∈ points, ∃ k, b.bodyOwner.get k = some e.1.id ∧ b.bodyPoint.get k = some e.2 ∧
    k ∈ b.hash.bucket (b.hash.keyOf (e.1.pointAt e.2))

section Body
variable {b : BodyHash} {cellSize : ℚ} {points : List (SnakeEntity × ℕ)}

/-- An insert leaves the cells as they are. -/
theorem keyOf_insert (hash : SpatialHash) (id : ℕ) (p q : Position) :
    (hash.insert id p).keyOf q = hash.keyOf q := by
  cases q with
  | none => rfl
  | some q =>
      unfold SpatialHash.keyOf SpatialHash.cellOf
      dsimp only
      rw [SpatialHash.insert_cellSize]

/-- One point more is found under its own cell. -/
theorem BodyHash.Indexes.add (h : b.Indexes cellSize points) (snake : SnakeEntity) (offset : ℕ) :
    (BodyHash.add snake b offset).Indexes cellSize (points ++ [(snake, offset)]) := by
  -- the key of the new point is new
  have hnew : ∀ {k id}, b.bodyOwner.get k = some id → k ≠ b.key := fun hk => (h.below _ _ hk).ne
  constructor
  · exact SpatialHash.insert_cellSize.trans h.cellSize
  · intro k id hk
    dsimp only [BodyHash.add] at hk ⊢
    rw [OrderedMap.get_set] at hk
    split_ifs at hk with hkey
    · exact hkey ▸ Nat.lt_succ_self _
    · exact (h.below k id hk).trans (Nat.lt_succ_self _)
  · intro key k hk
    dsimp only [BodyHash.add] at hk ⊢
    rw [SpatialHash.mem_bucket_insert] at hk
    simp only [keyOf_insert, OrderedMap.get_set]
    rcases hk with hk | ⟨rfl, hkey⟩
    · obtain ⟨e, he, howner, hpoint, hkey⟩ := h.found key k hk
      refine ⟨e, List.mem_append_left _ he, ?_, ?_, hkey⟩
      · rw [if_neg (hnew howner), howner]
      · rw [if_neg (hnew howner), hpoint]
    · exact ⟨_, List.mem_append_right _ (List.mem_singleton_self _), if_pos rfl, if_pos rfl, hkey⟩
  · intro e he
    dsimp only [BodyHash.add]
    simp only [keyOf_insert, OrderedMap.get_set, SpatialHash.mem_bucket_insert]
    rcases List.mem_append.mp he with he | he
    · obtain ⟨k, howner, hpoint, hk⟩ := h.covers e he
      refine ⟨k, ?_, ?_, .inl hk⟩
      · rw [if_neg (hnew howner), howner]
      · rw [if_neg (hnew howner), hpoint]
    · obtain rfl := List.mem_singleton.mp he
      exact ⟨b.key, if_pos rfl, if_pos rfl, .inr ⟨rfl, rfl⟩⟩

/-- The points of one snake, in the order of the loop. -/
theorem BodyHash.Indexes.addAll (snake : SnakeEntity) : ∀ (offsets : List ℕ) {b : BodyHash}
    {points : List (SnakeEntity × ℕ)}, b.Indexes cellSize points →
    (offsets.foldl (BodyHash.add snake) b).Indexes cellSize (points ++ offsets.map (snake, ·))
  | [], _, points, h => by rwa [List.map_nil, List.append_nil]
  | offset :: offsets, _, points, h => by
      have h' := addAll snake offsets (h.add snake offset)
      rwa [List.append_assoc] at h'

/-- The points of a snake that are indexed: all or none. -/
def pointsOf (snake : SnakeEntity) : List (SnakeEntity × ℕ) :=
  if snake.alive then (indexed snake).map (snake, ·) else []

/-- What is indexed of a snake: every other point, or none of the dead. -/
theorem BodyHash.Indexes.addSnake (h : b.Indexes cellSize points) (snake : SnakeEntity) :
    (b.addSnake snake).Indexes cellSize (points ++ pointsOf snake) := by
  unfold BodyHash.addSnake pointsOf
  split_ifs
  · exact h.addAll snake _
  · rwa [List.append_nil]

/-- All snakes. -/
theorem BodyHash.Indexes.addSnakes : ∀ (snakes : List SnakeEntity) {b : BodyHash}
    {points : List (SnakeEntity × ℕ)}, b.Indexes cellSize points →
    (snakes.foldl BodyHash.addSnake b).Indexes cellSize (points ++ snakes.flatMap pointsOf)
  | [], _, points, h => by rwa [List.flatMap_nil, List.append_nil]
  | snake :: snakes, _, points, h => by
      have h' := addSnakes snakes (h.addSnake snake)
      rwa [List.append_assoc, ← List.flatMap_cons] at h'

/-- **The hash holds the points that were indexed**, and no other. -/
theorem rebuildBodyHash_indexes (config : SimulationConfig) (u : WorldState) :
    (rebuildBodyHash config u).Indexes config.cellSize (u.snakes.values.flatMap pointsOf) := by
  have hnil : BodyHash.Indexes ⟨.new config.cellSize, .empty, .empty, 1⟩ config.cellSize [] := by
    refine ⟨rfl, fun k id hk => ?_, fun key k hk => ?_, fun e he => absurd he List.not_mem_nil⟩
    · rw [OrderedMap.get_empty] at hk
      cases hk
    · exact absurd hk List.not_mem_nil
  exact hnil.addSnakes _

end Body

/-- A point that is indexed is one of a living snake. -/
theorem mem_points {u : WorldState} {e : SnakeEntity × ℕ} :
    e ∈ u.snakes.values.flatMap pointsOf ↔
      (∃ id, u.snakes.get id = some e.1) ∧ e.1.alive = true ∧ e.2 ∈ indexed e.1 := by
  rw [List.mem_flatMap]
  constructor
  · rintro ⟨s, hs, he⟩
    unfold pointsOf at he
    split_ifs at he with halive
    · obtain ⟨offset, hoffset, rfl⟩ := List.mem_map.mp he
      exact ⟨OrderedMap.mem_values.mp hs, halive, hoffset⟩
    · cases he
  · rintro ⟨hs, halive, hoffset⟩
    refine ⟨e.1, OrderedMap.mem_values.mpr hs, ?_⟩
    unfold pointsOf
    rw [if_pos halive]
    exact List.mem_map.mpr ⟨e.2, hoffset, rfl⟩

/-! ### During the sweep -/

/-- Of the same body: it may have died, and killed. -/
def Hurt (s s' : SnakeEntity) : Prop :=
  ∃ alive kills, (alive = true → s.alive = true) ∧ s' = { s with alive, kills }

/-- The snakes of a world, some of them hurt since. -/
structure Since (u w : WorldState) : Prop where
  snakes : ∀ id, Option.Rel Hurt (u.snakes.get id) (w.snakes.get id)
  radius : w.radius = u.radius

/-- Only the kills differ. -/
def Twin (s s' : SnakeEntity) : Prop := ∃ kills, s' = { s with kills }

structure Alike (w w' : WorldState) : Prop where
  snakes : ∀ id, Option.Rel Twin (w.snakes.get id) (w'.snakes.get id)
  radius : w'.radius = w.radius

section Sweep
variable {config : SimulationConfig} {maths : Maths} {u w w' : WorldState}

/-- A death clears the flag of its snake. -/
theorem get_kill (w : WorldState) (id id' : EntityId) : (kill w id).snakes.get id' =
    (w.snakes.get id').map fun s => if id' = id then { s with alive := false } else s := by
  unfold kill
  dsimp only
  rw [OrderedMap.get_update]
  split_ifs with hid
  · rw [hid]
  · rw [Option.map_id']

/-- A kill is counted for its snake. -/
theorem get_credit (w : WorldState) (id id' : EntityId) : (credit w id).snakes.get id' =
    (w.snakes.get id').map fun s => if id' = id then { s with kills := s.kills + 1 } else s := by
  unfold credit
  dsimp only
  rw [OrderedMap.get_update]
  split_ifs with hid
  · rw [hid]
  · rw [Option.map_id']

/-- Related entries stay so under related functions. -/
theorem rel_mono {α : Type*} {R R' : α → α → Prop} {f g : α → α}
    (h : ∀ s s', R s s' → R' (f s) (g s')) :
    ∀ {o o' : Option α}, Option.Rel R o o' → Option.Rel R' (o.map f) (o'.map g)
  | _, _, .none => .none
  | _, _, .some hR => .some (h _ _ hR)

/-- Where two entries are related, both are there or neither is. -/
theorem rel_some {α : Type*} {R : α → α → Prop} {o o' : Option α} (h : Option.Rel R o o') :
    (∀ s, o = some s → ∃ s', o' = some s' ∧ R s s') ∧
      ∀ s', o' = some s' → ∃ s, o = some s ∧ R s s' := by
  cases h with
  | none => exact ⟨nofun, nofun⟩
  | some hR => exact ⟨fun s e => ⟨_, rfl, Option.some.inj e ▸ hR⟩, fun s' e =>
      ⟨_, rfl, Option.some.inj e ▸ hR⟩⟩

theorem Since.refl (u : WorldState) : Since u u :=
  ⟨fun id => by
    cases u.snakes.get id with
    | none => exact .none
    | some s => exact .some ⟨s.alive, s.kills, fun h => h, rfl⟩, rfl⟩

/-- A death leaves the bodies as they were indexed. -/
theorem Since.kill (h : Since u w) (id : EntityId) : Since u (kill w id) where
  snakes id' := by
    rw [get_kill, ← Option.map_id' (x := u.snakes.get id')]
    refine rel_mono ?_ (h.snakes id')
    rintro s s' ⟨alive, kills, halive, rfl⟩
    split_ifs
    · exact ⟨false, kills, nofun, rfl⟩
    · exact ⟨alive, kills, halive, rfl⟩
  radius := h.radius

/-- So does a kill that is counted. -/
theorem Since.credit (h : Since u w) (id : EntityId) : Since u (credit w id) where
  snakes id' := by
    rw [get_credit, ← Option.map_id' (x := u.snakes.get id')]
    refine rel_mono ?_ (h.snakes id')
    rintro s s' ⟨alive, kills, halive, rfl⟩
    split_ifs
    · exact ⟨alive, kills + 1, halive, rfl⟩
    · exact ⟨alive, kills, halive, rfl⟩
  radius := h.radius

theorem Alike.refl (u : WorldState) : Alike u u :=
  ⟨fun id => by
    cases u.snakes.get id with
    | none => exact .none
    | some s => exact .some ⟨s.kills, rfl⟩, rfl⟩

/-- Two worlds that are alike stay so when the same snake dies in both. -/
theorem Alike.kill (h : Alike w w') (id : EntityId) : Alike (kill w id) (kill w' id) where
  snakes id' := by
    rw [get_kill, get_kill]
    refine rel_mono ?_ (h.snakes id')
    rintro s s' ⟨kills, rfl⟩
    split_ifs
    · exact ⟨kills, rfl⟩
    · exact ⟨kills, rfl⟩
  radius := h.radius

/-- A kill counted in one of them makes no difference to who lives. -/
theorem Alike.credit (h : Alike w w') (id : EntityId) : Alike w (credit w' id) where
  snakes id' := by
    rw [get_credit, ← Option.map_id' (x := w.snakes.get id')]
    refine rel_mono ?_ (h.snakes id')
    rintro s s' ⟨kills, rfl⟩
    split_ifs
    · exact ⟨kills + 1, rfl⟩
    · exact ⟨kills, rfl⟩
  radius := h.radius

/-- The same snakes live. -/
theorem Alike.lives (h : Alike w w') (id : EntityId) : lives w' id = lives w id := by
  unfold Game.lives
  have hrel := h.snakes id
  cases hs : w.snakes.get id with
  | none =>
      rw [hs] at hrel
      cases hs' : w'.snakes.get id with
      | none => rfl
      | some s' => rw [hs'] at hrel; cases hrel
  | some s =>
      obtain ⟨_, hs', kills, rfl⟩ := (rel_some hrel).1 s hs
      rw [hs']
      rfl

/-- Whom a snake meets does not depend on the kills. -/
theorem Alike.meets (h : Alike w w') {snake : SnakeEntity} {Q : SnakeEntity → ℕ → Prop}
    (hQ : ∀ s kills offset, Q { s with kills } offset ↔ Q s offset) (kills : ℕ) :
    Meets maths w' { snake with kills } Q ↔ Meets maths w snake Q := by
  constructor
  · rintro ⟨id, other, offset, hother, hne, halive, hoffset, htouch, hq⟩
    obtain ⟨other, hother', kills', rfl⟩ := (rel_some (h.snakes id)).2 other hother
    exact ⟨id, other, offset, hother', hne, halive, hoffset, htouch, (hQ _ _ _).mp hq⟩
  · rintro ⟨id, other, offset, hother, hne, halive, hoffset, htouch, hq⟩
    obtain ⟨_, hother', kills', rfl⟩ := (rel_some (h.snakes id)).1 other hother
    exact ⟨id, _, offset, hother', hne, halive, hoffset, htouch, (hQ _ _ _).mpr hq⟩

/-- The plain test touches where some point of a body does. -/
theorem plainTouched_iff {snake : SnakeEntity} :
    plainTouched maths w snake = true ↔ Meets maths w snake fun _ _ => True := by
  unfold plainTouched
  rw [List.any_eq_true]
  constructor
  · rintro ⟨other, hmem, h⟩
    obtain ⟨id, hother⟩ := OrderedMap.mem_values.mp hmem
    rw [Bool.and_eq_true, Bool.and_eq_true, decide_eq_true_iff, List.any_eq_true] at h
    obtain ⟨⟨hne, halive⟩, offset, hoffset, htouch⟩ := h
    exact ⟨id, other, offset, hother, hne, halive, hoffset, htouch, trivial⟩
  · rintro ⟨id, other, offset, hother, hne, halive, hoffset, htouch, -⟩
    refine ⟨other, OrderedMap.mem_values.mpr ⟨id, hother⟩, ?_⟩
    rw [Bool.and_eq_true, Bool.and_eq_true, decide_eq_true_iff, List.any_eq_true]
    exact ⟨⟨hne, halive⟩, offset, hoffset, htouch⟩

/-- What makes a candidate a hit. -/
theorem hitBy_isSome {body : BodyHash} {snake : SnakeEntity} {k : ℕ} :
    (hitBy maths body w snake k).isSome ↔ ∃ ownerId other, body.bodyOwner.get k = some ownerId ∧
      ownerId ≠ snake.id ∧ w.snakes.get ownerId = some other ∧ other.alive = true ∧
      touches maths snake other ((body.bodyPoint.get k).getD 0) = true := by
  unfold hitBy
  split
  next hnone => simp [hnone]
  next ownerId howner =>
    rw [howner]
    split_ifs with hown
    · simp [hown]
    · split
      next hnone => simp [hnone]
      next other hother =>
        split_ifs with hhit
        · simp only [Option.isSome_some, true_iff]
          exact ⟨ownerId, other, rfl, hown, hother, hhit.1, hhit.2⟩
        · simp only [Option.isSome_none, Bool.false_eq_true, false_iff]
          rintro ⟨_, _, ⟨⟩, -, hother', hhit'⟩
          obtain rfl := Option.some.inj (hother.symm.trans hother')
          exact hhit hhit'

/-- **The broad phase.**  A candidate is hit exactly when a touched point is reached. -/
theorem hit_iff (config : SimulationConfig) (maths : Maths)
    (hid : ∀ id s, u.snakes.get id = some s → s.id = id) (hu : Since u w) (snake : SnakeEntity) :
    (((rebuildBodyHash config u).hash.queryCircle snake.headOf (snake.radius + 40)).findSome?
      (hitBy maths (rebuildBodyHash config u) w snake)).isSome ↔
        Meets maths w snake (Reaches config snake) := by
  have hindexes := rebuildBodyHash_indexes config u
  generalize rebuildBodyHash config u = body at hindexes ⊢
  have hqueries : ∀ p r key, body.hash.Queries p r key ↔
      (SpatialHash.new config.cellSize).Queries p r key := by
    intro p r key
    unfold SpatialHash.Queries SpatialHash.cellOf
    rw [hindexes.cellSize]
    rfl
  have hkeyOf : ∀ p, body.hash.keyOf p = (SpatialHash.new config.cellSize).keyOf p := by
    intro p
    unfold SpatialHash.keyOf SpatialHash.cellOf
    rw [hindexes.cellSize]
    rfl
  rw [List.findSome?_isSome_iff]
  constructor
  · rintro ⟨k, hk, hhit⟩
    obtain ⟨ownerId, other, howner, hne, hother, halive, htouch⟩ := hitBy_isSome.mp hhit
    cases hhead : snake.headOf with
    | none =>
        rw [hhead] at hk
        cases hk
    | some head =>
        rw [hhead] at hk
        obtain ⟨key, hquery, hbucket⟩ := SpatialHash.mem_queryCircle.mp hk
        obtain ⟨e, he, howner', hpoint, hkey⟩ := hindexes.found key k hbucket
        obtain ⟨⟨id, hsome⟩, -, hoffset⟩ := mem_points.mp he
        -- the point is one of the snake that is there now
        obtain rfl := hid id e.1 hsome
        obtain rfl := Option.some.inj (howner'.symm.trans howner)
        obtain ⟨other', hother', alive, kills, -, rfl⟩ := (rel_some (hu.snakes _)).1 _ hsome
        obtain rfl := Option.some.inj (hother'.symm.trans hother)
        rw [hpoint] at htouch
        refine ⟨_, _, e.2, hother, hne, halive, hoffset, htouch, head, hhead, ?_⟩
        rw [← hqueries, ← hkeyOf]
        exact hkey ▸ hquery
  · rintro ⟨id, other, offset, hother, hne, halive, hoffset, htouch, head, hhead, hreach⟩
    obtain ⟨s, hs, alive, kills, hwas, rfl⟩ := (rel_some (hu.snakes _)).2 _ hother
    obtain rfl := hid id s hs
    obtain ⟨k, howner, hpoint, hbucket⟩ :=
      hindexes.covers (s, offset) (mem_points.mpr ⟨⟨_, hs⟩, hwas halive, hoffset⟩)
    refine ⟨k, ?_, hitBy_isSome.mpr ⟨_, _, howner, hne, hother, halive, ?_⟩⟩
    · rw [hhead]
      rw [← hqueries, ← hkeyOf] at hreach
      exact SpatialHash.mem_queryCircle.mpr ⟨_, hreach, hbucket⟩
    · rwa [hpoint]

/-! ### One snake of the sweep -/

/-- The sweep finds a reason for the snake to die. -/
def Dies (config : SimulationConfig) (maths : Maths) (w : WorldState)
    (snake : SnakeEntity) : Prop :=
  snake.alive = true ∧ (outside maths w snake = true ∨ Meets maths w snake (Reaches config snake))

def PlainDies (maths : Maths) (w : WorldState) (snake : SnakeEntity) : Prop :=
  snake.alive = true ∧ (outside maths w snake = true ∨ Meets maths w snake fun _ _ => True)

/-- A snake is covered if what it touches, the query finds. -/
theorem coveredAt_iff {id : EntityId} {snake : SnakeEntity} (hs : w.snakes.get id = some snake) :
    CoveredAt config maths w id ↔ (PlainDies maths w snake → Dies config maths w snake) := by
  constructor
  · rintro hcovered ⟨halive, hout | hmeets⟩
    · exact ⟨halive, .inl hout⟩
    · refine ⟨halive, ?_⟩
      by_cases hout : outside maths w snake = true
      · exact .inl hout
      · exact .inr (hcovered snake hs halive (Bool.eq_false_iff.mpr hout)
          (plainTouched_iff.mpr hmeets))
  · intro h snake' hs' halive hout htouched
    obtain rfl := Option.some.inj (hs.symm.trans hs')
    rcases (h ⟨halive, .inr (plainTouched_iff.mp htouched)⟩).2 with hin | hmeets
    · rw [hout] at hin
      cases hin
    · exact hmeets

/-- Who dies by the query dies by the plain test. -/
theorem Dies.plain {snake : SnakeEntity} (h : Dies config maths w snake) :
    PlainDies maths w snake := by
  obtain ⟨halive, hout | ⟨id, other, offset, hother, hne, hlives, hoffset, htouch, -⟩⟩ := h
  · exact ⟨halive, .inl hout⟩
  · exact ⟨halive, .inr ⟨id, other, offset, hother, hne, hlives, hoffset, htouch, trivial⟩⟩

/-- Who dies is read off bodies and flags, not off kills. -/
theorem Alike.dies (h : Alike w w') (s : SnakeEntity) (kills : ℕ) :
    Dies config maths w' { s with kills } ↔ Dies config maths w s := by
  unfold Dies outside
  rw [h.radius]
  exact and_congr Iff.rfl (or_congr Iff.rfl (h.meets (fun _ _ _ => Iff.rfl) kills))

/-- The plain sweep kills who dies by the plain test. -/
theorem plainCollide_dies {id : EntityId} {snake : SnakeEntity}
    (hs : w.snakes.get id = some snake) :
    (PlainDies maths w snake → plainCollide maths w id = kill w id) ∧
      (¬PlainDies maths w snake → plainCollide maths w id = w) := by
  unfold PlainDies plainCollide
  rw [hs, ← plainTouched_iff, ← Bool.or_eq_true]
  dsimp only
  cases snake.alive with
  | false => exact ⟨fun h => absurd h.1 nofun, fun _ => rfl⟩
  | true => exact ⟨fun h => if_pos h.2, fun h => if_neg fun h' => h ⟨rfl, h'⟩⟩

/-- The sweep kills who dies by the query, and credits another at most. -/
theorem collide_dies (config : SimulationConfig) (maths : Maths)
    (hid : ∀ id s, u.snakes.get id = some s → s.id = id) (hu : Since u w)
    {id : EntityId} {snake : SnakeEntity} (hs : w.snakes.get id = some snake)
    (deaths : List DeathEvent) :
    (Dies config maths w snake →
      (collide maths (rebuildBodyHash config u) (w, deaths) id).1 = kill w id ∨
      ∃ other, (collide maths (rebuildBodyHash config u) (w, deaths) id).1 =
        credit (kill w id) other) ∧
      (¬Dies config maths w snake →
        (collide maths (rebuildBodyHash config u) (w, deaths) id).1 = w) := by
  have hhit := hit_iff config maths hid hu snake
  unfold Dies collide
  dsimp only
  rw [hs, ← hhit]
  dsimp only
  cases snake.alive with
  | false => exact ⟨nofun, fun _ => rfl⟩
  | true =>
      cases outside maths w snake with
      | true => exact ⟨fun _ => .inl rfl, fun h => absurd ⟨rfl, .inl rfl⟩ h⟩
      | false =>
          generalize List.findSome? _ _ = found
          cases found with
          | none => exact ⟨fun h => (h.2.elim nofun nofun), fun _ => rfl⟩
          | some other => exact ⟨fun _ => .inr ⟨other.id, rfl⟩, fun h => absurd ⟨rfl, .inr rfl⟩ h⟩

/-- A snake that is gone does nothing. -/
theorem collide_none (body : BodyHash) {id : EntityId} (hs : w.snakes.get id = none)
    (deaths : List DeathEvent) : collide maths body (w, deaths) id = (w, deaths) := by
  unfold collide
  dsimp only
  rw [hs]

/-- One snake of the sweep leaves the bodies as they were indexed. -/
theorem collide_since (config : SimulationConfig) (maths : Maths)
    (hid : ∀ id s, u.snakes.get id = some s → s.id = id) (hu : Since u w)
    (id : EntityId) (deaths : List DeathEvent) :
    Since u (collide maths (rebuildBodyHash config u) (w, deaths) id).1 := by
  cases hs : w.snakes.get id with
  | none => rwa [collide_none _ hs]
  | some s =>
      obtain ⟨hdies, hlives⟩ := collide_dies config maths hid hu hs deaths
      by_cases h : Dies config maths w s
      · rcases hdies h with heq | ⟨other, heq⟩
        · exact heq ▸ hu.kill id
        · exact heq ▸ (hu.kill id).credit other
      · exact (hlives h).symm ▸ hu

/-- A covered snake dies in the one when it dies in the other. -/
theorem collide_alike (hid : ∀ id s, u.snakes.get id = some s → s.id = id) (hu : Since u w')
    (h : Alike w w') {id : EntityId} (hcovered : CoveredAt config maths w id)
    (deaths : List DeathEvent) : Alike (plainCollide maths w id)
      (collide maths (rebuildBodyHash config u) (w', deaths) id).1 := by
  cases hs : w.snakes.get id with
  | none =>
      have hs' : w'.snakes.get id = none := by
        cases hs' : w'.snakes.get id with
        | none => rfl
        | some s' =>
            obtain ⟨s, hsome, -⟩ := (rel_some (h.snakes id)).2 s' hs'
            rw [hs] at hsome
            cases hsome
      rw [collide_none _ hs']
      unfold plainCollide
      rw [hs]
      exact h
  | some s =>
      obtain ⟨_, hs', kills, rfl⟩ := (rel_some (h.snakes id)).1 s hs
      obtain ⟨hdies, hlives⟩ := collide_dies config maths hid hu hs' deaths
      rw [h.dies s kills] at hdies hlives
      by_cases hplain : PlainDies maths w s
      · rw [(plainCollide_dies hs).1 hplain]
        rcases hdies ((coveredAt_iff hs).mp hcovered hplain) with heq | ⟨other, heq⟩
        · exact heq ▸ h.kill id
        · exact heq ▸ (h.kill id).credit other
      · rw [(plainCollide_dies hs).2 hplain, hlives fun hdies => hplain hdies.plain]
        exact h

/-- A snake that is missed survives. -/
theorem collide_missed (hid : ∀ id s, u.snakes.get id = some s → s.id = id) (hu : Since u w')
    (h : Alike w w') {id : EntityId} (hmissed : ¬CoveredAt config maths w id)
    (deaths : List DeathEvent) : lives (plainCollide maths w id) id = false ∧
      lives (collide maths (rebuildBodyHash config u) (w', deaths) id).1 id = true := by
  cases hs : w.snakes.get id with
  | none =>
      refine absurd (fun snake hsome => ?_) hmissed
      rw [hs] at hsome
      cases hsome
  | some s =>
      obtain ⟨_, hs', kills, rfl⟩ := (rel_some (h.snakes id)).1 s hs
      obtain ⟨-, hlives⟩ := collide_dies config maths hid hu hs' deaths
      rw [h.dies s kills] at hlives
      rw [coveredAt_iff hs, Classical.not_imp] at hmissed
      obtain ⟨hplain, hdies⟩ := hmissed
      constructor
      · rw [(plainCollide_dies hs).1 hplain]
        unfold lives
        rw [get_kill, hs, Option.map_some, if_pos rfl]
        rfl
      · rw [hlives hdies]
        unfold lives
        rw [hs']
        exact hplain.1

/-! ### The snakes that follow -/

/-- The steps for others leave it. -/
theorem collide_other (config : SimulationConfig) (maths : Maths)
    (hid : ∀ id s, u.snakes.get id = some s → s.id = id) (hu : Since u w)
    {id id' : EntityId} (hne : id ≠ id') (deaths : List DeathEvent) :
    lives (collide maths (rebuildBodyHash config u) (w, deaths) id').1 id = lives w id := by
  have hkill : lives (kill w id') id = lives w id := by
    unfold lives
    rw [get_kill]
    simp only [if_neg hne, Option.map_id']
  have hcredit : ∀ v other, lives (credit v other) id = lives v id := by
    intro v other
    unfold lives
    rw [get_credit, Option.any_map]
    congr 1
    funext s
    split_ifs <;> rfl
  cases hs : w.snakes.get id' with
  | none => rw [collide_none _ hs]
  | some s =>
      obtain ⟨hdies, hlives⟩ := collide_dies config maths hid hu hs deaths
      by_cases h : Dies config maths w s
      · rcases hdies h with heq | ⟨other, heq⟩
        · rw [heq, hkill]
        · rw [heq, hcredit, hkill]
      · rw [hlives h]

/-- The dead stay dead. -/
theorem plainCollide_dead {id : EntityId} (id' : EntityId) (h : lives w id = false) :
    lives (plainCollide maths w id') id = false := by
  have hkill : lives (kill w id') id = false := by
    unfold lives at h ⊢
    rw [get_kill]
    cases hs : w.snakes.get id with
    | none => rfl
    | some s =>
        rw [hs] at h
        rw [Option.map_some, Option.any_some]
        split_ifs
        · rfl
        · exact h
  unfold plainCollide
  split
  · exact h
  · split_ifs
    · exact h
    · exact hkill
    · exact h

/-- A snake that is not swept again keeps its life. -/
theorem collides_other (config : SimulationConfig) (maths : Maths)
    (hid : ∀ id s, u.snakes.get id = some s → s.id = id) {id : EntityId} :
    ∀ (ids : List EntityId) {w : WorldState} {deaths : List DeathEvent}, Since u w → id ∉ ids →
      lives (ids.foldl (collide maths (rebuildBodyHash config u)) (w, deaths)).1 id = lives w id
  | [], _, _, _, _ => rfl
  | id' :: ids, w, deaths, hu, hmem => by
      rw [List.mem_cons, not_or] at hmem
      have hstep := collide_other config maths hid hu hmem.1 deaths
      have hsince := collide_since config maths hid hu id' deaths
      exact (collides_other config maths hid ids hsince hmem.2).trans hstep

/-- The two sweeps leave the same snakes alive exactly when each is covered in its turn. -/
theorem sweep_iff (config : SimulationConfig) (maths : Maths)
    (hid : ∀ id s, u.snakes.get id = some s → s.id = id) : ∀ (ids : List EntityId)
    {w w' : WorldState} {deaths : List DeathEvent}, ids.Nodup → Since u w' → Alike w w' →
      ((∀ id, lives (ids.foldl (collide maths (rebuildBodyHash config u)) (w', deaths)).1 id =
        lives (ids.foldl (plainCollide maths) w) id) ↔ CoveredFrom config maths w ids)
  | [], _, _, _, _, _, h => ⟨fun _ => trivial, fun _ id => h.lives id⟩
  | id :: ids, w, w', deaths, hnodup, hu, h => by
      rw [List.nodup_cons] at hnodup
      have hsince := collide_since config maths hid hu id deaths
      rw [List.foldl_cons, List.foldl_cons]
      unfold CoveredFrom
      by_cases hcovered : CoveredAt config maths w id
      · rw [and_iff_right hcovered]
        exact sweep_iff config maths hid ids hnodup.2 hsince
          (collide_alike hid hu h hcovered deaths)
      · -- the one has killed the snake, the other has not, and neither comes back to it
        obtain ⟨hdead, halive⟩ := collide_missed hid hu h hcovered deaths
        refine ⟨fun heq => ?_, fun hfrom => absurd hfrom.1 hcovered⟩
        have hlast : lives (ids.foldl (plainCollide maths) (plainCollide maths w id)) id = false :=
          List.foldlRecOn ids (plainCollide maths) (motive := fun w => lives w id = false) hdead
            fun _ hw id' _ => plainCollide_dead id' hw
        rw [← heq id, collides_other config maths hid ids hsince hnodup.1, halive] at hlast
        cases hlast

end Sweep

/-! ### Every reachable world -/

section Reached
variable {config : SimulationConfig} {maths : Maths} {w : WorldState}

/-- Before the collisions, snakes are of their sizes. -/
theorem beforeCollisions_sound (config : SimulationConfig) (hw : w.Sound maths) :
    (beforeCollisions config maths w).1.Sound maths :=
  hw.evolves ((WorldState.beforeCollisions_evolves config w).mono fun s s'
    (h : WorldState.Stepped config maths s s') => h.stays)

/-- **The sweep against the plain check**, in the world of any step: the same snakes are killed
exactly when no snake is touched only out of the margin. -/
theorem sweep_as_plain (hw : Reachable (Plays config maths) (· = createWorld config maths) w) :
    KillsAsPlain config maths (beforeCollisions config maths w).1 ↔
      Covered config maths (beforeCollisions config maths w).1 := by
  have hsound := beforeCollisions_sound config (reachable_sound hw)
  generalize (beforeCollisions config maths w).1 = u at hsound ⊢
  have hiff := @sweep_iff u config maths (fun id s hs => (hsound.snakes id s hs).1) u.snakes.keys
    u u [] u.snakes.nodup (Since.refl u) (Alike.refl u)
  refine Iff.trans (forall_congr' fun id => ?_) hiff
  -- scattering leaves the snakes alone
  unfold lives
  rw [(WorldState.feeds_detectCollisions config u).snakes_eq]
  rfl

/-- The coordinates of a difference are no longer than it. -/
def Maths.Hypotenuse (maths : Maths) : Prop :=
  ∀ x y, |x| ≤ maths.hypot x y ∧ |y| ≤ maths.hypot x y

/-- Of a snake no wider than the margin, each point that is touched is reached. -/
theorem reaches_of_touches (hmaths : maths.Hypotenuse) {snake other : SnakeEntity} {offset : ℕ}
    (hradius : other.radius ≤ 40) (h : touches maths snake other offset = true) :
    Reaches config snake other offset := by
  unfold touches distance at h
  split at h
  next p head hp hhead =>
    refine ⟨head, hhead, ?_⟩
    rw [hp]
    have hreach : maths.hypot (p.x - head.x) (p.y - head.y) ≤ snake.radius + other.radius := by
      simpa [atMost] using h
    obtain ⟨hx, hy⟩ := hmaths (p.x - head.x) (p.y - head.y)
    exact SpatialHash.queries_keyOf config.cellSize_pos (by linarith) (by linarith)
  · cases h

/-- Where no radius is above the margin's 40 the query misses nobody. -/
theorem coveredFrom_of_radius (hmaths : maths.Hypotenuse) :
    ∀ (ids : List EntityId) {w : WorldState},
    (w.snakes.All fun _ s => s.radius ≤ 40) → CoveredFrom config maths w ids
  | [], _, _ => trivial
  | id :: ids, w, hw => by
      refine ⟨fun snake _ _ _ htouched => ?_, coveredFrom_of_radius hmaths ids ?_⟩
      · obtain ⟨id', other, offset, hother, hne, halive, hoffset, htouch, -⟩ :=
          plainTouched_iff.mp htouched
        exact ⟨id', other, offset, hother, hne, halive, hoffset, htouch,
          reaches_of_touches hmaths (hw id' other hother) htouch⟩
      · unfold plainCollide
        split
        · exact hw
        · split_ifs
          · exact hw
          · exact hw.update fun s hs => hs
          · exact hw

/-- Nothing is missed while no snake is wider than the margin, up to a mass of 400. -/
theorem covered_of_radius (hmaths : maths.Hypotenuse) {u : WorldState}
    (hu : u.snakes.All fun _ s => s.radius ≤ 40) : Covered config maths u :=
  coveredFrom_of_radius hmaths _ hu

end Reached

/-! ### A wide snake -/

/-- A small arena that is full of food, of many ticks. -/
def crowded : SimulationConfig := ⟨120, by decide, 22, 8, by norm_num, 119, some 132⟩

/-- The first snake has eaten nearly all, and a second one comes. -/
def gorged : WorldState :=
  (((createWorld crowded rounded).after crowded rounded (.spawnSnake 1 "a" false)).after crowded
    rounded .step).after crowded rounded (.spawnSnake 2 "b" false)

/-- A snake that has eaten its way past the margin. -/
theorem gorged_reachable :
    Reachable (Plays crowded rounded) (· = createWorld crowded rounded) gorged :=
  ⟨_, [.spawnSnake 1 "a" false, .step, .spawnSnake 2 "b" false], rfl,
    .cons rfl (.cons rfl (.cons rfl (.nil _)))⟩

theorem sweep_as_plain_gorged :
    KillsAsPlain crowded rounded (beforeCollisions crowded rounded gorged).1 ↔
      Covered crowded rounded (beforeCollisions crowded rounded gorged).1 :=
  sweep_as_plain gorged_reachable

/-- The plain sweep kills one that the query misses. -/
theorem gorged_misses : lives (detectCollisions crowded rounded
    (beforeCollisions crowded rounded gorged).1).1 142 = true ∧
    lives (plainSweep rounded (beforeCollisions crowded rounded gorged).1) 142 = false := by
  decide +kernel

/-- The head of the second is within the sum of the radii, and out of the margin. -/
theorem sweep_misses : ¬∀ w, Reachable (Plays crowded rounded) (· = createWorld crowded rounded) w →
    KillsAsPlain crowded rounded (beforeCollisions crowded rounded w).1 := by
  intro h
  have hmissed := h gorged gorged_reachable 142
  rw [gorged_misses.1, gorged_misses.2] at hmissed
  cases hmissed

end SnakeArena.Game
