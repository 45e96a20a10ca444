import SnakeArena.Game.Types

/-!
# Game — the spatial hash

`game-core/src/spatial-hash.ts`.  Cells are packed into keys of 32 bits, so that two cells can
have one key; a query finds all that is in its cells, and more (`mem_queryCircle`).
-/

namespace SnakeArena.Game
open SnakeArena.Library

/-- Packs cell coordinates into one integer key. -/
def cellKey (cx cy : ℤ) : BitVec 32 :=
  (BitVec.ofInt 32 (cx + 32768) <<< 16) ||| BitVec.ofInt 32 (cy + 32768)

structure SpatialHash where
  cellSize : ℚ
  buckets : OrderedMap (BitVec 32) (List ℕ)

namespace SpatialHash

def new (cellSize : ℚ) : SpatialHash := ⟨cellSize, .empty⟩

def cellOf (hash : SpatialHash) (value : ℚ) : ℤ := ⌊value / hash.cellSize⌋

/-- The bits of `NaN` are all zero. -/
def keyOf (hash : SpatialHash) : Position → BitVec 32
  | some p => cellKey (hash.cellOf p.x) (hash.cellOf p.y)
  | none => 0

def insert (hash : SpatialHash) (id : ℕ) (p : Position) : SpatialHash :=
  let key := hash.keyOf p
  match hash.buckets.get key with
  | some bucket => { hash with buckets := hash.buckets.set key (bucket ++ [id]) }
  | none => { hash with buckets := hash.buckets.set key [id] }

/-- The last takes its place. -/
def swapRemove (bucket : List ℕ) (id : ℕ) : List ℕ :=
  match bucket.getLast? with
  | none => []
  | some last => if id ∈ bucket then (bucket.dropLast.replace id last) else bucket

def remove (hash : SpatialHash) (id : ℕ) (p : Position) : SpatialHash :=
  let key := hash.keyOf p
  match hash.buckets.get key with
  | none => hash
  | some bucket =>
      let bucket := swapRemove bucket id
      if bucket = [] then { hash with buckets := hash.buckets.delete key }
      else { hash with buckets := hash.buckets.set key bucket }

def clear (hash : SpatialHash) : SpatialHash := { hash with buckets := .empty }

/-- The cells from one to another. -/
def cellsFrom (first last : ℤ) : List ℤ :=
  (List.range (last - first + 1).toNat).map fun i : ℕ => first + i

/-- Ids in every cell overlapping the square around the given circle. -/
def queryCircle (hash : SpatialHash) (p : Position) (radius : ℚ) : List ℕ :=
  match p with
  | none => []
  | some p =>
      (cellsFrom (hash.cellOf (p.x - radius)) (hash.cellOf (p.x + radius))).flatMap fun cx =>
        (cellsFrom (hash.cellOf (p.y - radius)) (hash.cellOf (p.y + radius))).flatMap fun cy =>
          (hash.buckets.get (cellKey cx cy)).getD []

/-! ### What a query finds -/

variable {hash : SpatialHash} {id k : ℕ} {p : Position} {key : BitVec 32}

def bucket (hash : SpatialHash) (key : BitVec 32) : List ℕ := (hash.buckets.get key).getD []

theorem insert_cellSize : (hash.insert id p).cellSize = hash.cellSize := by
  unfold insert
  dsimp only
  split <;> rfl

theorem mem_bucket_insert : k ∈ (hash.insert id p).bucket key ↔
    k ∈ hash.bucket key ∨ k = id ∧ hash.keyOf p = key := by
  unfold insert bucket
  dsimp only
  split
  next ids hids =>
    dsimp only
    rw [OrderedMap.get_set]
    split_ifs with hkey
    · subst hkey
      rw [hids, Option.getD_some, Option.getD_some, List.mem_append, List.mem_singleton,
        and_iff_left rfl]
    · exact (or_iff_left fun h => hkey h.2.symm).symm
  next hnone =>
    dsimp only
    rw [OrderedMap.get_set]
    split_ifs with hkey
    · subst hkey
      rw [hnone, Option.getD_some, Option.getD_none, List.mem_singleton, and_iff_left rfl]
      exact (or_iff_right List.not_mem_nil).symm
    · exact (or_iff_left fun h => hkey h.2.symm).symm

/-- A cell of the key overlaps the square around the circle. -/
def Queries (hash : SpatialHash) (p : Vec) (radius : ℚ) (key : BitVec 32) : Prop :=
  ∃ cx cy, (hash.cellOf (p.x - radius) ≤ cx ∧ cx ≤ hash.cellOf (p.x + radius)) ∧
    (hash.cellOf (p.y - radius) ≤ cy ∧ cy ≤ hash.cellOf (p.y + radius)) ∧ cellKey cx cy = key

theorem mem_cellsFrom {first last c : ℤ} : c ∈ cellsFrom first last ↔ first ≤ c ∧ c ≤ last := by
  unfold cellsFrom
  rw [List.mem_map]
  constructor
  · rintro ⟨i, hi, rfl⟩
    have := List.mem_range.mp hi
    omega
  · rintro ⟨hfirst, hlast⟩
    exact ⟨(c - first).toNat, List.mem_range.mpr (by omega), by omega⟩

theorem mem_queryCircle {p : Vec} {radius : ℚ} : k ∈ hash.queryCircle (some p) radius ↔
    ∃ key, hash.Queries p radius key ∧ k ∈ hash.bucket key := by
  unfold queryCircle Queries bucket
  simp only [List.mem_flatMap, mem_cellsFrom]
  constructor
  · rintro ⟨cx, hx, cy, hy, hmem⟩
    exact ⟨_, ⟨cx, cy, hx, hy, rfl⟩, hmem⟩
  · rintro ⟨_, ⟨cx, cy, hx, hy, rfl⟩, hmem⟩
    exact ⟨cx, hx, cy, hy, hmem⟩

/-- A point no farther from the centre, along both axes, is in a cell that is queried. -/
theorem queries_keyOf (hpos : 0 < hash.cellSize) {p q : Vec} {radius : ℚ}
    (hx : |q.x - p.x| ≤ radius) (hy : |q.y - p.y| ≤ radius) :
    hash.Queries p radius (hash.keyOf (some q)) := by
  have hcell : ∀ {a b : ℚ}, a ≤ b → hash.cellOf a ≤ hash.cellOf b := fun h =>
    Int.floor_le_floor (div_le_div_of_nonneg_right h hpos.le)
  rw [abs_le] at hx hy
  exact ⟨_, _, ⟨hcell (by linarith), hcell (by linarith)⟩,
    ⟨hcell (by linarith), hcell (by linarith)⟩, rfl⟩

end SpatialHash

end SnakeArena.Game
