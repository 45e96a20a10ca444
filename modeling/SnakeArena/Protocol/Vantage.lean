import SnakeArena.Protocol.RoundTrip

/-!
# Protocol — two points of view

A snapshot that is encoded about one point and decoded about another.

* `decode_records`: the records of a client are those that were sent, each as it is seen from there;
  where a count does not fit in its two bytes, they are fewer (`decode_counts`).
* `seenPoint_window`: within the window, a point arrives to the nearest quarter unit, and off by
  what is between the two points.
-/

namespace SnakeArena.Protocol
open SnakeArena.Library SnakeArena.Game Borsh Buffers

/-! ### The window -/

/-- Half-width of the representable window around the viewer, in world units. -/
def POSITION_RANGE : ℚ := 32767 / POSITION_SCALE

def InWindow (origin p : Vec) : Prop :=
  |p.x - origin.x| ≤ POSITION_RANGE ∧ |p.y - origin.y| ≤ POSITION_RANGE

/-- To the nearest quarter unit from the origin. -/
def toQuarter (origin p : Vec) : Vec where
  x := origin.x + round ((p.x - origin.x) * POSITION_SCALE) / POSITION_SCALE
  y := origin.y + round ((p.y - origin.y) * POSITION_SCALE) / POSITION_SCALE

/-- Half a quarter away at most. -/
theorem toQuarter_near (origin p : Vec) :
    |(toQuarter origin p).x - p.x| ≤ 1 / 8 ∧ |(toQuarter origin p).y - p.y| ≤ 1 / 8 := by
  have hnear : ∀ o x : ℚ, |o + round ((x - o) * POSITION_SCALE) / POSITION_SCALE - x| ≤ 1 / 8 := by
    intro o x
    have hround := abs_sub_round ((x - o) * POSITION_SCALE)
    rw [POSITION_SCALE, abs_le] at hround
    rw [POSITION_SCALE, abs_le]
    constructor <;> linarith
  exact ⟨hnear _ _, hnear _ _⟩

theorem clampI16_window {d : ℚ} (h : |d| ≤ POSITION_RANGE) :
    clampI16 (some (d * POSITION_SCALE)) = round (d * POSITION_SCALE) := by
  rw [POSITION_RANGE, POSITION_SCALE, abs_le] at h
  have hround := abs_sub_round (d * POSITION_SCALE)
  rw [POSITION_SCALE, abs_le] at hround
  have hlo : (-32768 : ℚ) < round (d * 4) := by linarith
  have hhi : (round (d * 4) : ℚ) < 32768 := by linarith
  have hlo' : -32768 < round (d * 4) := by exact_mod_cast hlo
  have hhi' : round (d * 4) < 32768 := by exact_mod_cast hhi
  rw [clampI16, POSITION_SCALE]
  omega

/-- **A point is seen off by what is between where it was written about and where it is read
about.** -/
theorem seenPoint_window {centre p : Vec} (origin : Vec) (h : InWindow centre p) :
    seenPoint (some centre) origin (some p) =
      some ⟨(toQuarter centre p).x + (origin.x - centre.x),
        (toQuarter centre p).y + (origin.y - centre.y)⟩ := by
  have hx : relative Vec.x (some centre) (some p) = some ((p.x - centre.x) * POSITION_SCALE) := rfl
  have hy : relative Vec.y (some centre) (some p) = some ((p.y - centre.y) * POSITION_SCALE) := rfl
  rw [seenPoint, hx, hy, clampI16_window h.1, clampI16_window h.2, toQuarter]
  congr 2 <;> ring

/-! ### The records -/

section
variable {snapshot : Snapshot} (options : EncodeSnapshotOptions) (origin : Vec)

/-- What is removed can be read, whatever the counts say. -/
theorem read_removed {buffer : Bytes} {offset m n : ℕ}
    (h : offset + m * UUID_BYTES + n * 4 ≤ buffer.length) :
    ∃ uuids ids, readMany (getUuid buffer) m offset = .ok (uuids, offset + m * UUID_BYTES) ∧
      readMany (getId buffer) n (offset + m * UUID_BYTES) =
        .ok (ids, offset + m * UUID_BYTES + n * 4) := by
  have huuid : ∀ start, start + UUID_BYTES ≤ offset + m * UUID_BYTES → ∃ uuid, True ∧
      ∀ _ : Unit, getUuid buffer start = .ok (uuid, start + UUID_BYTES) :=
    fun start _ => ⟨_, trivial, fun _ => rfl⟩
  have hid : ∀ start, start + 4 ≤ buffer.length → ∃ id, True ∧
      ∀ _ : Unit, getId buffer start = .ok (id, start + 4) := by
    intro start hroom
    obtain ⟨id, -, hread⟩ := getUint_inside hroom
    have hread := hread []
    rw [List.append_nil] at hread
    exact ⟨id, trivial, fun _ => by rw [getId, hread]; rfl⟩
  obtain ⟨uuids, -, -, huuids⟩ := readMany_inside huuid le_rfl
  obtain ⟨ids, -, -, hids⟩ := readMany_inside hid h
  exact ⟨uuids, ids, huuids (), hids ()⟩

/-- The records that a client has, where the counts fit. -/
theorem decode_records (hsnakes : snapshot.snakes.length ≤ 65535)
    (hfood : snapshot.food.length ≤ 65535) (heach : ∀ snake ∈ snapshot.snakes, FitsSnake snake) :
    ∃ decoded, decodeSnapshot (snapshotBytes snapshot options) origin = .ok decoded ∧
      decoded.snakes = snapshot.snakes.map (seenSnake options.origin origin) ∧
      decoded.food = snapshot.food.map (seenFood options.origin origin) := by
  obtain ⟨hheader, hrecords⟩ := (At.all (snapshotBytes snapshot options)).append
  obtain ⟨hsnakesAt, hrecords⟩ := hrecords.append
  obtain ⟨hfoodAt, -⟩ := hrecords.append
  rw [length_headerBytes, Nat.zero_add] at hsnakesAt hfoodAt
  have hread₁ := ReadsAt.many (fun snake hmem => readsAt_snake options.origin origin
    (Nat.lt_succ_of_le (heach snake hmem).nickname)
    (Nat.lt_succ_of_le (heach snake hmem).points)) _ hsnakesAt
  have hread₂ := ReadsAt.many (fun food _ => readsAt_food options.origin origin food) _ hfoodAt
  -- a count of what is removed is written as no more than it is
  have hroom := length_snapshotBytes snapshot options
  have hfoods := length_flatMap_const (length_foodBytes options.origin) snapshot.food
  have hremovedSnakes := Nat.mod_le snapshot.removedSnakes.length (256 ^ 2)
  have hremovedFood := Nat.mod_le snapshot.removedFood.length (256 ^ 2)
  rw [← hfoods] at hroom
  obtain ⟨uuids, ids, hread₃, hread₄⟩ := @read_removed (snapshotBytes snapshot options)
    (HEADER_BYTES + (snapshot.snakes.flatMap (snakeBytes options.origin)).length +
      (snapshot.food.flatMap (foodBytes options.origin)).length)
    (snapshot.removedSnakes.length % 256 ^ 2) (snapshot.removedFood.length % 256 ^ 2)
    (by unfold UUID_BYTES at *; omega)
  have hlt : ∀ n ≤ 65535, n % 256 ^ 2 = n := fun n hn => Nat.mod_eq_of_lt (Nat.lt_succ_of_le hn)
  rw [decodeSnapshot_header origin hheader, hlt _ hsnakes, hlt _ hfood]
  simp only [hread₁, hread₂, hread₃, hread₄, ok_bind]
  exact ⟨_, rfl, rfl, rfl⟩

theorem length_readMany {α : Type} {d : ℕ → Except RangeError (α × ℕ)} {count : ℕ} :
    ∀ {offset next : ℕ} {as : List α}, readMany d count offset = .ok (as, next) →
      as.length = count := by
  induction count with
  | zero =>
      intro offset next as h
      obtain ⟨rfl, -⟩ := Prod.mk.inj (Except.ok.inj h)
      rfl
  | succ count ih =>
      intro offset next as h
      obtain ⟨⟨a, offset'⟩, -, h⟩ := ok_of_bind h
      obtain ⟨⟨as', next'⟩, hrest, h⟩ := ok_of_bind h
      obtain ⟨rfl, -⟩ := Prod.mk.inj (Except.ok.inj h)
      rw [List.length_cons, ih hrest]

/-- How many records it has is what their counts have room for. -/
theorem decode_counts {decoded : Snapshot}
    (h : decodeSnapshot (snapshotBytes snapshot options) origin = .ok decoded) :
    decoded.snakes.length = snapshot.snakes.length % 256 ^ 2 ∧
      decoded.food.length = snapshot.food.length % 256 ^ 2 := by
  obtain ⟨hheader, -⟩ := (At.all (snapshotBytes snapshot options)).append
  rw [decodeSnapshot_header origin hheader] at h
  obtain ⟨⟨snakes, offset₁⟩, hsnakes, h⟩ := ok_of_bind h
  obtain ⟨⟨food, offset₂⟩, hfood, h⟩ := ok_of_bind h
  obtain ⟨⟨removedSnakes, offset₃⟩, -, h⟩ := ok_of_bind h
  obtain ⟨⟨removedFood, offset₄⟩, -, h⟩ := ok_of_bind h
  obtain rfl := Except.ok.inj h
  exact ⟨length_readMany hsnakes, length_readMany hfood⟩

end

end SnakeArena.Protocol
