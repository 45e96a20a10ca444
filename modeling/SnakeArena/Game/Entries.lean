import SnakeArena.Game.SpatialHash
import SnakeArena.Library.Rows
import SnakeArena.Library.Runs

/-!
# Game — what the spatial hash holds

The insertions a hash stands for: each id with its point, and a removal takes away one insertion of
the id in the cell, whichever it is.  Where cells fit in 16 bits the key of a cell is its own, so
that the bucket of a cell has each id as often as it is inserted there (`Holds`), and a query has
it as often as it is inserted in the cells overlapping the square around the circle.

These are all that are within the radius, and some that are not: an id inserted at several points
is not found as often as it is inserted within the radius, nor as often as it is inserted.
-/

namespace SnakeArena.Game
open SnakeArena.Library

/-! ### Cells -/

/-- A 16-bit signed cell coordinate. -/
def Fits (c : ℤ) : Prop := -32768 ≤ c ∧ c ≤ 32767

instance (c : ℤ) : Decidable (Fits c) := inferInstanceAs (Decidable (_ ∧ _))

/-- The key of a cell, as the number that its two halves make. -/
theorem cellKey_toNat {cx cy : ℤ} (hx : Fits cx) (hy : Fits cy) :
    (cellKey cx cy).toNat = (cx + 32768).toNat * 65536 + (cy + 32768).toNat := by
  unfold Fits at hx hy
  obtain ⟨a, ha⟩ := Int.eq_ofNat_of_zero_le (show 0 ≤ cx + 32768 by omega)
  obtain ⟨b, hb⟩ := Int.eq_ofNat_of_zero_le (show 0 ≤ cy + 32768 by omega)
  have hmod : ∀ n : ℕ, n < 65536 → ((n : ℤ) % ((2 ^ 32 : ℕ) : ℤ)).toNat = n := fun n _ => by omega
  rw [cellKey, ha, hb, BitVec.toNat_or, BitVec.toNat_shiftLeft, BitVec.toNat_ofInt,
    BitVec.toNat_ofInt, hmod a (by omega), hmod b (by omega), Nat.shiftLeft_eq,
    Nat.mod_eq_of_lt (by omega), ← Nat.shiftLeft_eq,
    ← Nat.shiftLeft_add_eq_or_of_lt (by omega), Nat.shiftLeft_eq]
  rfl

/-- The key of a cell is its own. -/
theorem cellKey_injective {cx cy cx' cy' : ℤ} (hx : Fits cx) (hy : Fits cy) (hx' : Fits cx')
    (hy' : Fits cy') (h : cellKey cx cy = cellKey cx' cy') : (cx, cy) = (cx', cy') := by
  have hkeys := congrArg BitVec.toNat h
  rw [cellKey_toNat hx hy, cellKey_toNat hx' hy'] at hkeys
  unfold Fits at hx hy hx' hy'
  rw [Prod.mk.injEq]
  omega

namespace SpatialHash

def cell (hash : SpatialHash) (p : Vec) : ℤ × ℤ := (hash.cellOf p.x, hash.cellOf p.y)

/-- The cells of a query, in the order in which they are looked up. -/
def cells (hash : SpatialHash) (p : Vec) (radius : ℚ) : List (ℤ × ℤ) :=
  (cellsFrom (hash.cellOf (p.x - radius)) (hash.cellOf (p.x + radius))).flatMap fun cx =>
    (cellsFrom (hash.cellOf (p.y - radius)) (hash.cellOf (p.y + radius))).map fun cy => (cx, cy)

variable {hash : SpatialHash} {id k : ℕ} {p q : Vec} {radius : ℚ} {key : BitVec 32}

/-- A query reads the cells that its square overlaps. -/
theorem queryCircle_cells : hash.queryCircle (some p) radius =
    (hash.cells p radius).flatMap fun c => hash.bucket (cellKey c.1 c.2) := by
  unfold queryCircle cells bucket
  rw [List.flatMap_assoc]
  simp only [List.flatMap_map]

/-- The cells that a square overlaps, by their columns and rows. -/
theorem mem_cells {c : ℤ × ℤ} : c ∈ hash.cells p radius ↔
    (hash.cellOf (p.x - radius) ≤ c.1 ∧ c.1 ≤ hash.cellOf (p.x + radius)) ∧
      (hash.cellOf (p.y - radius) ≤ c.2 ∧ c.2 ≤ hash.cellOf (p.y + radius)) := by
  obtain ⟨cx, cy⟩ := c
  simp only [cells, List.mem_flatMap, List.mem_map, mem_cellsFrom, Prod.mk.injEq]
  constructor
  · rintro ⟨_, hx, _, hy, rfl, rfl⟩
    exact ⟨hx, hy⟩
  · rintro ⟨hx, hy⟩
    exact ⟨cx, hx, cy, hy, rfl, rfl⟩

theorem nodup_cellsFrom (first last : ℤ) : (cellsFrom first last).Nodup :=
  List.nodup_range.map fun i j h => by simpa using h

/-- Each of them is read once. -/
theorem nodup_cells : (hash.cells p radius).Nodup := by
  refine List.nodup_flatMap.mpr ⟨fun cx _ => ?_, ?_⟩
  · exact (nodup_cellsFrom _ _).map fun _ _ h => congrArg Prod.snd h
  · refine (nodup_cellsFrom _ _).imp fun hne c hc hc' => hne ?_
    obtain ⟨_, -, rfl⟩ := List.mem_map.mp hc
    obtain ⟨_, -, h⟩ := List.mem_map.mp hc'
    exact (congrArg Prod.fst h).symm

/-! ### The buckets after one operation -/

/-- An insert adds one entry to one bucket. -/
theorem count_bucket_insert {p : Position} : ((hash.insert id p).bucket key).count k =
    (hash.bucket key).count k + if k = id ∧ hash.keyOf p = key then 1 else 0 := by
  have hbucket : (hash.insert id p).bucket key =
      hash.bucket key ++ if hash.keyOf p = key then [id] else [] := by
    unfold insert bucket
    dsimp only
    split
    next ids hids =>
      dsimp only
      rw [OrderedMap.get_set]
      by_cases hkey : hash.keyOf p = key
      · rw [if_pos hkey.symm, if_pos hkey, ← hkey, hids, Option.getD_some, Option.getD_some]
      · rw [if_neg (Ne.symm hkey), if_neg hkey, List.append_nil]
    next hnone =>
      dsimp only
      rw [OrderedMap.get_set]
      by_cases hkey : hash.keyOf p = key
      · rw [if_pos hkey.symm, if_pos hkey, ← hkey, hnone, Option.getD_some, Option.getD_none,
          List.nil_append]
      · rw [if_neg (Ne.symm hkey), if_neg hkey, List.append_nil]
  rw [hbucket, List.count_append]
  by_cases hkey : hash.keyOf p = key
  · simp only [hkey, if_true, and_true, List.count_singleton', eq_comm]
  · simp only [hkey, if_false, and_false, List.count_nil]

/-- Swapping in the last takes out the one. -/
theorem replace_perm {front : List ℕ} {last : ℕ} (h : id ∈ front) :
    (front.replace id last).Perm (last :: front.erase id) := by
  induction front with
  | nil => exact absurd h List.not_mem_nil
  | cons a front ih =>
      by_cases ha : id = a
      · rw [← ha, List.replace_cons_self, List.erase_cons_head]
      · rw [List.erase_cons_tail (by simpa using Ne.symm ha), List.replace_cons,
          show (id == a) = false by simpa using ha]
        exact ((ih ((List.mem_cons.mp h).resolve_left ha)).cons a).trans (.swap last a _)

/-- The last takes its place: all but one are still there. -/
theorem swapRemove_perm (bucket : List ℕ) (id : ℕ) :
    (swapRemove bucket id).Perm (bucket.erase id) := by
  unfold swapRemove
  split
  next hnone => rw [List.getLast?_eq_none_iff.mp hnone]; rfl
  next last hlast =>
      obtain ⟨front, rfl⟩ := List.getLast?_eq_some_iff.mp hlast
      rw [List.dropLast_concat]
      split_ifs with hid
      · by_cases hfront : id ∈ front
        · rw [List.erase_append_left _ hfront]
          exact (replace_perm hfront).trans (List.perm_append_singleton last _).symm
        · obtain rfl : id = last := by simpa [hfront] using hid
          rw [List.replace_of_not_mem hfront, List.erase_append_right _ hfront,
            List.erase_cons_head, List.append_nil]
      · rw [List.erase_of_not_mem hid]

/-- A removal takes one entry of the id out. -/
theorem count_swapRemove (bucket : List ℕ) :
    (swapRemove bucket id).count k = bucket.count k - if k = id then 1 else 0 := by
  rw [(swapRemove_perm bucket id).count_eq, List.count_erase]
  simp only [beq_iff_eq, @eq_comm _ k id]

theorem remove_cellSize {p : Position} : (hash.remove id p).cellSize = hash.cellSize := by
  unfold remove
  dsimp only
  split
  · rfl
  · split_ifs <;> rfl

/-- It takes it out of its own bucket. -/
theorem count_bucket_remove {p : Position} : ((hash.remove id p).bucket key).count k =
    (hash.bucket key).count k - if k = id ∧ hash.keyOf p = key then 1 else 0 := by
  have hbucket : (hash.remove id p).bucket key =
      if hash.keyOf p = key then swapRemove (hash.bucket key) id else hash.bucket key := by
    unfold remove bucket
    dsimp only
    split
    next hnone =>
      split_ifs with hkey
      · rw [← hkey, hnone]; rfl
      · rfl
    next ids hids =>
      split_ifs with hempty hkey hkey
      · dsimp only
        rw [← hkey, OrderedMap.get_delete, if_pos rfl, hids, Option.getD_some, hempty]; rfl
      · dsimp only
        rw [OrderedMap.get_delete, if_neg (Ne.symm hkey)]
      · dsimp only
        rw [← hkey, OrderedMap.get_set, if_pos rfl, hids, Option.getD_some, Option.getD_some]
      · dsimp only
        rw [OrderedMap.get_set, if_neg (Ne.symm hkey)]
  rw [hbucket]
  by_cases hkey : hash.keyOf p = key
  · simp only [hkey, if_true, and_true, count_swapRemove]
  · simp only [hkey, if_false, and_false, Nat.sub_zero]

end SpatialHash

/-! ### Runs -/

inductive HashOp
  | insert (id : ℕ) (p : Vec)
  | remove (id : ℕ) (p : Vec)
  | clear

/-- The cells of its coordinates fit in 16 bits. -/
def HashOp.Fits (hash : SpatialHash) : HashOp → Prop
  | .insert _ p | .remove _ p => Game.Fits (hash.cell p).1 ∧ Game.Fits (hash.cell p).2
  | .clear => True

instance (hash : SpatialHash) : (op : HashOp) → Decidable (op.Fits hash)
  | .insert _ _ | .remove _ _ => inferInstanceAs (Decidable (_ ∧ _))
  | .clear => inferInstanceAs (Decidable True)

def SpatialHash.apply (hash : SpatialHash) : HashOp → SpatialHash
  | .insert id p => hash.insert id (some p)
  | .remove id p => hash.remove id (some p)
  | .clear => hash.clear

/-- What is inserted, before and after one operation.  A removal takes away one insertion of the id
in its cell, whichever it is. -/
inductive Entries (cell : Vec → ℤ × ℤ) : List (ℕ × Vec) → HashOp → List (ℕ × Vec) → Prop
  | insert {entries id p} : Entries cell entries (.insert id p) ((id, p) :: entries)
  | remove {before after id p q} : cell q = cell p →
      Entries cell (before ++ (id, q) :: after) (.remove id p) (before ++ after)
  | absent {entries id p} : (∀ e ∈ entries, e.1 = id → cell e.2 ≠ cell p) →
      Entries cell entries (.remove id p) entries
  | clear {entries} : Entries cell entries .clear []

/-- A hash, and what is inserted. -/
structure Held where
  hash : SpatialHash
  entries : List (ℕ × Vec)

def Held.Step (held : Held) (op : HashOp) (held' : Held) : Prop :=
  op.Fits held.hash ∧ held'.hash = held.hash.apply op ∧
    Entries held.hash.cell held.entries op held'.entries

/-- As often as the id is inserted in the cell. -/
def Held.times (held : Held) (id : ℕ) (c : ℤ × ℤ) : ℕ :=
  held.entries.countP fun e => e.1 = id ∧ held.hash.cell e.2 = c

/-- The bucket of a cell has each id as often as it is inserted there. -/
structure Holds (cellSize : ℚ) (held : Held) : Prop where
  cellSize : held.hash.cellSize = cellSize
  fits : ∀ e ∈ held.entries, Fits (held.hash.cell e.2).1 ∧ Fits (held.hash.cell e.2).2
  count : ∀ c : ℤ × ℤ, Fits c.1 → Fits c.2 → ∀ id,
    (held.hash.bucket (cellKey c.1 c.2)).count id = held.times id c

variable {cellSize : ℚ} {held held' : Held} {op : HashOp}

theorem holds_new : Holds cellSize ⟨.new cellSize, []⟩ :=
  ⟨rfl, fun _ he => absurd he List.not_mem_nil, fun _ _ _ _ => rfl⟩

theorem apply_cellSize {hash : SpatialHash} : (hash.apply op).cellSize = hash.cellSize := by
  cases op with
  | insert id p => exact SpatialHash.insert_cellSize
  | remove id p => exact SpatialHash.remove_cellSize
  | clear => rfl

theorem cell_eq {hash hash' : SpatialHash} (h : hash'.cellSize = hash.cellSize) :
    hash'.cell = hash.cell := by
  funext p
  unfold SpatialHash.cell SpatialHash.cellOf
  rw [h]

/-- The key of a point in a cell. -/
theorem keyOf_eq_iff {hash : SpatialHash} {p : Vec} {c : ℤ × ℤ} (hp : Fits (hash.cell p).1)
    (hp' : Fits (hash.cell p).2) (hc : Fits c.1) (hc' : Fits c.2) :
    hash.keyOf (some p) = cellKey c.1 c.2 ↔ hash.cell p = c := by
  constructor
  · exact fun h => cellKey_injective hp hp' hc hc' h
  · rintro rfl
    rfl

/-- An operation does to the buckets what it does to the entries. -/
theorem Holds.step (h : Holds cellSize held) (hstep : held.Step op held') :
    Holds cellSize held' := by
  obtain ⟨hash, entries⟩ := held
  obtain ⟨hash', entries'⟩ := held'
  obtain ⟨hfits, rfl, hentries⟩ := hstep
  have hcell : (hash.apply op).cell = hash.cell := cell_eq apply_cellSize
  refine ⟨apply_cellSize.trans h.cellSize, ?_, ?_⟩
  · rw [hcell]
    cases hentries with
    | insert => exact List.forall_mem_cons.mpr ⟨hfits, h.fits⟩
    | remove =>
        exact fun e he => h.fits e <| List.mem_append.mpr <|
          (List.mem_append.mp he).imp_right (List.mem_cons_of_mem _)
    | absent => exact h.fits
    | clear => exact fun _ he => absurd he List.not_mem_nil
  · intro c hc hc' k
    have hcount := h.count c hc hc' k
    unfold Held.times at hcount ⊢
    dsimp only at hcount ⊢
    rw [hcell]
    cases hentries with
    | @insert _ id p =>
        rw [SpatialHash.apply, SpatialHash.count_bucket_insert, hcount, List.countP_cons]
        simp only [keyOf_eq_iff hfits.1 hfits.2 hc hc', decide_eq_true_eq, @eq_comm _ k id]
    | @remove before after id p q hq =>
        rw [SpatialHash.apply, SpatialHash.count_bucket_remove, hcount, List.append_eq,
          List.append_eq, List.countP_append, List.countP_append, List.countP_cons]
        simp only [keyOf_eq_iff hfits.1 hfits.2 hc hc', decide_eq_true_eq, @eq_comm _ k id, hq]
        omega
    | @absent _ id p habsent =>
        rw [SpatialHash.apply, SpatialHash.count_bucket_remove, hcount]
        simp only [keyOf_eq_iff hfits.1 hfits.2 hc hc']
        split_ifs with hid
        · obtain ⟨rfl, rfl⟩ := hid
          rw [List.countP_eq_zero.mpr]
          exact fun e he => by simpa using habsent e he
        · rfl
    | clear => rfl

/-- **After every sequence of operations the buckets hold the entries.**. -/
theorem holds_of_reachable (h : Reachable Held.Step (· = ⟨.new cellSize, []⟩) held) :
    Holds cellSize held :=
  h.invariant (fun _ h => h ▸ holds_new) fun _ _ _ h hstep => h.step hstep

/-! ### Queries -/

/-- The cells of the square around the circle fit in 16 bits. -/
def InRange (hash : SpatialHash) (p : Vec) (radius : ℚ) : Prop :=
  (Fits (hash.cellOf (p.x - radius)) ∧ Fits (hash.cellOf (p.x + radius))) ∧
    Fits (hash.cellOf (p.y - radius)) ∧ Fits (hash.cellOf (p.y + radius))

/-- A point no farther from the centre than the radius. -/
def Within (p : Vec) (radius : ℚ) (q : Vec) : Prop :=
  0 ≤ radius ∧ (q.x - p.x) ^ 2 + (q.y - p.y) ^ 2 ≤ radius ^ 2

instance (hash : SpatialHash) (p : Vec) (radius : ℚ) : Decidable (InRange hash p radius) :=
  inferInstanceAs (Decidable ((_ ∧ _) ∧ _ ∧ _))

instance (p : Vec) (radius : ℚ) (q : Vec) : Decidable (Within p radius q) :=
  inferInstanceAs (Decidable (_ ∧ _))

namespace Held

variable {p : Vec} {radius : ℚ} {id : ℕ}

/-- As often as the id is inserted. -/
def inserted (held : Held) (id : ℕ) : ℕ := held.entries.countP fun e => e.1 = id

/-- As often as the id is inserted within the radius. -/
def within (held : Held) (p : Vec) (radius : ℚ) (id : ℕ) : ℕ :=
  held.entries.countP fun e => e.1 = id ∧ Within p radius e.2

/-- As often as the id is inserted in the cells overlapping the square around the circle. -/
def overlapping (held : Held) (p : Vec) (radius : ℚ) (id : ℕ) : ℕ :=
  held.entries.countP fun e => e.1 = id ∧ held.hash.cell e.2 ∈ held.hash.cells p radius

/-- What overlaps is among what is there. -/
theorem overlapping_le_inserted : held.overlapping p radius id ≤ held.inserted id :=
  List.countP_mono_left fun e _ he => by
    simp only [decide_eq_true_eq] at he ⊢
    exact he.1

/-- Both coordinates are no farther than the radius, so that the cell overlaps the square. -/
theorem within_le_overlapping (hsize : 0 < held.hash.cellSize) :
    held.within p radius id ≤ held.overlapping p radius id := by
  refine List.countP_mono_left fun e _ he => ?_
  simp only [decide_eq_true_eq] at he ⊢
  obtain ⟨hid, hradius, hdist⟩ := he
  have hcell : ∀ {a b : ℚ}, a ≤ b → held.hash.cellOf a ≤ held.hash.cellOf b := fun h =>
    Int.floor_le_floor (div_le_div_of_nonneg_right h hsize.le)
  have hx : |e.2.x - p.x| ≤ radius :=
    abs_le_of_sq_le_sq (by linarith only [hdist, sq_nonneg (e.2.y - p.y)]) hradius
  have hy : |e.2.y - p.y| ≤ radius :=
    abs_le_of_sq_le_sq (by linarith only [hdist, sq_nonneg (e.2.x - p.x)]) hradius
  rw [abs_le] at hx hy
  exact ⟨hid, SpatialHash.mem_cells.mpr
    ⟨⟨hcell (by linarith only [hx.1]), hcell (by linarith only [hx.2])⟩,
      hcell (by linarith only [hy.1]), hcell (by linarith only [hy.2])⟩⟩

end Held

/-- Cell by cell, each once. -/
theorem Holds.count_queryCircle (h : Holds cellSize held) {p : Vec} {radius : ℚ}
    (hrange : InRange held.hash p radius) (id : ℕ) :
    (held.hash.queryCircle (some p) radius).count id = held.overlapping p radius id := by
  have hcells : ∀ c ∈ held.hash.cells p radius,
      (held.hash.bucket (cellKey c.1 c.2)).count id = held.times id c := fun c hc => by
    obtain ⟨⟨hx, hx'⟩, hy, hy'⟩ := SpatialHash.mem_cells.mp hc
    obtain ⟨⟨⟨hlow, -⟩, -, hhigh⟩, ⟨hlow', -⟩, -, hhigh'⟩ := hrange
    exact h.count c ⟨hlow.trans hx, hx'.trans hhigh⟩ ⟨hlow'.trans hy, hy'.trans hhigh'⟩ id
  have htimes : ∀ c, held.times id c =
      (held.entries.filter fun e => e.1 = id).countP fun e => held.hash.cell e.2 = c := fun c => by
    rw [Held.times, List.countP_filter]
    simp only [Bool.decide_and, Bool.and_comm]
  calc (held.hash.queryCircle (some p) radius).count id
      = ((held.hash.cells p radius).map fun c =>
          (held.hash.bucket (cellKey c.1 c.2)).count id).sum := by
        rw [SpatialHash.queryCircle_cells, List.count_flatMap]
        rfl
    _ = ((held.hash.cells p radius).map fun c =>
          (held.entries.filter fun e => e.1 = id).countP fun e => held.hash.cell e.2 = c).sum := by
        refine congrArg List.sum (List.map_congr_left fun c hc => ?_)
        rw [hcells c hc, htimes c]
    _ = held.overlapping p radius id := by
        rw [count_by_keys (fun e : ℕ × Vec => held.hash.cell e.2) _ SpatialHash.nodup_cells,
          List.countP_filter, Held.overlapping]
        refine List.countP_congr fun e _ => ?_
        simp only [Bool.and_eq_true, decide_eq_true_eq, and_comm]

/-- A query has each id exactly as often as it is inserted in the cells overlapping the square
around the circle, so that it has it at least as often as it is inserted within the radius, and at
most as often as it is inserted; a removal takes away one insertion of the id in the cell, if there
is one, and leaves all others in place. -/
theorem count_queryCircle_of_reachable (hsize : 0 < cellSize)
    (h : Reachable Held.Step (· = ⟨.new cellSize, []⟩) held) :
    (∀ p radius, InRange held.hash p radius → ∀ id,
      (held.hash.queryCircle (some p) radius).count id = held.overlapping p radius id ∧
        held.within p radius id ≤ (held.hash.queryCircle (some p) radius).count id ∧
        (held.hash.queryCircle (some p) radius).count id ≤ held.inserted id) ∧
    ∀ id p, Fits (held.hash.cell p).1 → Fits (held.hash.cell p).2 → ∀ k c, Fits c.1 → Fits c.2 →
      (held.hash.bucket (cellKey c.1 c.2)).count k = held.times k c ∧
        ((held.hash.remove id (some p)).bucket (cellKey c.1 c.2)).count k =
          held.times k c - if k = id ∧ held.hash.cell p = c then 1 else 0 := by
  have hholds := holds_of_reachable h
  constructor
  · intro p radius hrange id
    have hcount := hholds.count_queryCircle hrange id
    refine ⟨hcount, hcount ▸ ?_, hcount ▸ Held.overlapping_le_inserted⟩
    exact Held.within_le_overlapping (hholds.cellSize.symm ▸ hsize)
  · intro id p hx hy k c hc hc'
    have hcount := hholds.count c hc hc' k
    refine ⟨hcount, ?_⟩
    rw [SpatialHash.count_bucket_remove, hcount]
    simp only [keyOf_eq_iff hx hy hc hc']

/-! ### One id at three points -/

def Held.insert (held : Held) (id : ℕ) (p : Vec) : Held :=
  ⟨held.hash.insert id (some p), (id, p) :: held.entries⟩

theorem Held.step_insert {id : ℕ} {p : Vec} (h : (HashOp.insert id p).Fits held.hash) :
    held.Step (.insert id p) (held.insert id p) := ⟨h, rfl, .insert⟩

/-- Near the origin, in its cell, and far away. -/
def points : Held :=
  ((Held.insert ⟨.new 10, []⟩ 1 ⟨0, 0⟩).insert 1 ⟨5, 5⟩).insert 1 ⟨1000, 1000⟩

theorem reachable_points : Reachable Held.Step (· = ⟨.new 10, []⟩) points :=
  ⟨_, _, rfl, .cons (Held.step_insert (by decide +kernel)) <|
    .cons (Held.step_insert (by decide +kernel)) <|
      .cons (Held.step_insert (by decide +kernel)) (.nil _)⟩

theorem count_queryCircle_points : points.overlapping ⟨0, 0⟩ 1 1 = 2 ∧
    (points.hash.queryCircle (some ⟨0, 0⟩) 1).count 1 = points.overlapping ⟨0, 0⟩ 1 1 :=
  ⟨by decide +kernel,
    ((count_queryCircle_of_reachable (by decide) reachable_points).1 ⟨0, 0⟩ 1
      (by decide +kernel) 1).1⟩

/-- The id is found twice: neither as often as it is inserted, nor as often as it is inserted
within the radius. -/
theorem query_counts_neither : ∃ held, Reachable Held.Step (· = ⟨.new 10, []⟩) held ∧
    InRange held.hash ⟨0, 0⟩ 1 ∧
    (held.hash.queryCircle (some ⟨0, 0⟩) 1).count 1 ≠ held.inserted 1 ∧
    (held.hash.queryCircle (some ⟨0, 0⟩) 1).count 1 ≠ held.within ⟨0, 0⟩ 1 1 :=
  ⟨points, reachable_points, by decide +kernel, by decide +kernel,
    by decide +kernel⟩

end SnakeArena.Game
