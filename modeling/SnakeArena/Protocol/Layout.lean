import SnakeArena.Protocol.Binary

/-!
# Protocol — what is in the buffer of a snapshot

* `encodeSnapshot_eq`: the buffer is the header and the records, one after the other, and as long
  as they are.
* `length_snapshotBytes_le`: the estimate is no smaller.
-/

namespace SnakeArena.Protocol
open SnakeArena.Library SnakeArena.Game Borsh Buffers

/-! ### The records -/

theorem length_uuidToBytes (uuid : String) : (uuidToBytes uuid).length = UUID_BYTES := by
  unfold uuidToBytes
  rw [List.length_flatMap]
  simp only [length_intBytes, List.map_const', List.length_range]
  rfl

def pointBytes (origin point : Position) : Bytes :=
  intBytes 2 (clampI16 (relative Vec.x origin point)) ++
    intBytes 2 (clampI16 (relative Vec.y origin point))

theorem length_pointBytes (origin point : Position) : (pointBytes origin point).length = 4 := by
  rw [pointBytes, List.length_append, length_intBytes, length_intBytes]

/-- The text of a snake's nickname, as bytes. -/
def nicknameBytes (snake : SnakeState) : Bytes := Utf8.encode snake.nickname.toList

def snakeBytes (origin : Position) (snake : SnakeState) : Bytes :=
  uuidToBytes snake.id ++ (intBytes 1 (nicknameBytes snake).length ++ (nicknameBytes snake ++
    (intBytes 2 (angleUnits snake.angle) ++ (intBytes 2 (min 65535 (round snake.mass)) ++
      (intBytes 2 (min 65535 (round (snake.radius * 4))) ++ (intBytes 1 (flagsOf snake) ++
        (intBytes 2 snake.points.length ++ snake.points.flatMap (pointBytes origin))))))))

def foodBytes (origin : Position) (food : FoodState) : Bytes :=
  intBytes 4 food.id ++ (pointBytes origin food.position ++ intBytes 1 (min 255 (round food.mass)))

theorem length_foodBytes (origin : Position) (food : FoodState) :
    (foodBytes origin food).length = 9 := by
  simp only [foodBytes, List.length_append, length_intBytes, length_pointBytes]

def headerBytes (snapshot : Snapshot) (full : Bool) : Bytes :=
  intBytes 1 MessageType.snapshot ++ (intBytes 1 (if full then SnapshotFlags.full else 0) ++
    (intBytes 2 snapshot.snakes.length ++ (intBytes 2 snapshot.food.length ++
      (intBytes 2 snapshot.removedSnakes.length ++ (intBytes 2 snapshot.removedFood.length ++
        (intBytes 4 snapshot.tick ++ (intBytes 4 snapshot.serverTime ++
          intBytes 4 snapshot.ackSeq)))))))

/-- The records after the header. -/
def recordBytes (snapshot : Snapshot) (origin : Position) : Bytes :=
  snapshot.snakes.flatMap (snakeBytes origin) ++ (snapshot.food.flatMap (foodBytes origin) ++
    (snapshot.removedSnakes.flatMap uuidToBytes ++
      snapshot.removedFood.flatMap fun id : ℕ => intBytes 4 id))

def snapshotBytes (snapshot : Snapshot) (options : EncodeSnapshotOptions) : Bytes :=
  headerBytes snapshot options.full ++ recordBytes snapshot options.origin

/-! ### Their sizes -/

theorem length_flatMap_const {α : Type} {f : α → Bytes} {size : ℕ} (h : ∀ x, (f x).length = size)
    (xs : List α) : (xs.flatMap f).length = xs.length * size := by
  induction xs with
  | nil => rw [List.flatMap_nil, List.length_nil, List.length_nil, Nat.zero_mul]
  | cons x xs ih => rw [List.flatMap_cons, List.length_append, h, ih,
      List.length_cons, Nat.succ_mul,
      Nat.add_comm]

theorem length_headerBytes (snapshot : Snapshot) (full : Bool) :
    (headerBytes snapshot full).length = HEADER_BYTES := by
  simp only [headerBytes, List.length_append, length_intBytes]
  rfl

theorem length_snakeBytes (origin : Position) (snake : SnakeState) :
    (snakeBytes origin snake).length =
      26 + (nicknameBytes snake).length + snake.points.length * 4 := by
  simp only [snakeBytes, List.length_append, length_intBytes, length_uuidToBytes, UUID_BYTES,
    length_flatMap_const (length_pointBytes origin)]
  omega

theorem length_snapshotBytes (snapshot : Snapshot) (options : EncodeSnapshotOptions) :
    (snapshotBytes snapshot options).length =
      HEADER_BYTES + (snapshot.snakes.flatMap (snakeBytes options.origin)).length +
        snapshot.food.length * 9 + snapshot.removedSnakes.length * UUID_BYTES +
        snapshot.removedFood.length * 4 := by
  have hid : ∀ id : ℕ, (intBytes 4 id).length = 4 := fun id => length_intBytes 4 id
  simp only [snapshotBytes, recordBytes, List.length_append, length_headerBytes,
    length_flatMap_const (length_foodBytes _), length_flatMap_const length_uuidToBytes,
    length_flatMap_const hid]
  omega

/-- A nickname takes at most three bytes for each of its units. -/
theorem length_snakes_le (origin : Position) (snakes : List SnakeState) :
    (snakes.flatMap (snakeBytes origin)).length ≤ (snakes.map fun snake =>
      UUID_BYTES + 1 + Utf8.utf16Length snake.nickname.toList * 3 + 2 + 2 + 2 + 1 + 2 +
        snake.points.length * 4).sum := by
  induction snakes with
  | nil => exact le_rfl
  | cons snake snakes ih =>
      have hnickname := Utf8.length_encode snake.nickname.toList
      rw [List.flatMap_cons, List.length_append, length_snakeBytes, List.map_cons, List.sum_cons]
      unfold nicknameBytes UUID_BYTES at *
      omega

/-- **The estimate is never smaller than what is written.** -/
theorem length_snapshotBytes_le (snapshot : Snapshot) (options : EncodeSnapshotOptions) :
    (snapshotBytes snapshot options).length ≤ estimateSize snapshot := by
  have hsnakes := length_snakes_le options.origin snapshot.snakes
  rw [length_snapshotBytes, estimateSize]
  omega

/-! ### What writes them -/

theorem writes_putInt (width : ℕ) (v : ℤ) : Writes (putInt width v) (intBytes width v) := by
  intro size out buffer h hfits
  rw [length_intBytes] at hfits ⊢
  obtain ⟨buffer', hset, hw⟩ := h.setInt v rfl hfits
  exact ⟨buffer', by rw [putInt, hset, ok_bind], hw⟩

theorem writes_set (bs : Bytes) : Writes (set bs) bs := by
  intro size out buffer h hfits
  obtain ⟨buffer', hset, hw⟩ := h.setBytes hfits
  exact ⟨buffer', by rw [set, hset, ok_bind], hw⟩

theorem writes_putUuid (uuid : String) : Writes (putUuid uuid) (uuidToBytes uuid) := by
  intro size out buffer h hfits
  refine ⟨_, ?_, h.write hfits⟩
  rw [putUuid, put_eq (by rwa [h.length]), length_uuidToBytes]

theorem writes_putPoint (origin point : Position) :
    Writes (fun s => putPoint origin s point) (pointBytes origin point) := by
  intro size out buffer h hfits
  rw [length_pointBytes] at hfits ⊢
  obtain ⟨buffer₁, h₁, hw₁⟩ := h.setInt (clampI16 (relative Vec.x origin point))
    (rfl : out.length = out.length) (show out.length + 2 ≤ size by omega)
  obtain ⟨buffer₂, h₂, hw₂⟩ := @Written.setInt _ _ _ hw₁ 2 (out.length + 2)
    (clampI16 (relative Vec.y origin point)) (by simp) (by omega)
  refine ⟨buffer₂, ?_, ?_⟩
  · simp only [putPoint, h₁, h₂, ok_bind]
  · simpa only [pointBytes, List.append_assoc] using hw₂

theorem writes_putSnake (origin : Position) (snake : SnakeState) :
    Writes (fun s => putSnake origin s snake) (snakeBytes origin snake) :=
  (writes_putUuid _).bind <| (writes_putInt _ _).bind <| (writes_set _).bind <|
    (writes_putInt _ _).bind <| (writes_putInt _ _).bind <| (writes_putInt _ _).bind <|
    (writes_putInt _ _).bind <| (writes_putInt _ _).bind <| .foldlM (writes_putPoint origin)

theorem writes_putFood (origin : Position) (food : FoodState) :
    Writes (fun s => putFood origin s food) (foodBytes origin food) := by
  intro size out buffer h hfits
  rw [length_foodBytes] at hfits ⊢
  obtain ⟨buffer₁, h₁, hw₁⟩ := @Written.setInt _ _ _ h 4 out.length food.id rfl (by omega)
  obtain ⟨buffer₂, h₂, hw₂⟩ := @Written.setInt _ _ _ hw₁ 2 (out.length + 4)
    (clampI16 (relative Vec.x origin food.position)) (by simp) (by omega)
  obtain ⟨buffer₃, h₃, hw₃⟩ := @Written.setInt _ _ _ hw₂ 2 (out.length + 6)
    (clampI16 (relative Vec.y origin food.position)) (by simp) (by omega)
  obtain ⟨buffer₄, h₄, hw₄⟩ := @Written.setInt _ _ _ hw₃ 1 (out.length + 8)
    (min 255 (round food.mass)) (by simp) (by omega)
  refine ⟨buffer₄, ?_, ?_⟩
  · simp only [putFood, h₁, h₂, h₃, h₄, ok_bind]
  · simpa only [foodBytes, pointBytes, List.append_assoc] using hw₄

theorem putHeader_written {size : ℕ} (snapshot : Snapshot) (full : Bool)
    (hsize : HEADER_BYTES ≤ size) : ∃ buffer,
      putHeader snapshot full (List.replicate size 0) = .ok buffer ∧
        Written size (headerBytes snapshot full) buffer := by
  unfold HEADER_BYTES at hsize
  obtain ⟨buffer₁, h₁, hw₁⟩ := @Written.setInt size _ _ (Written.zero size) 1 0
    MessageType.snapshot rfl (by omega)
  obtain ⟨buffer₂, h₂, hw₂⟩ := @Written.setInt _ _ _ hw₁ 1 1
    (if full then SnapshotFlags.full else 0) rfl (by omega)
  obtain ⟨buffer₃, h₃, hw₃⟩ := @Written.setInt _ _ _ hw₂ 2 2 snapshot.snakes.length rfl (by omega)
  obtain ⟨buffer₄, h₄, hw₄⟩ := @Written.setInt _ _ _ hw₃ 2 4 snapshot.food.length rfl (by omega)
  obtain ⟨buffer₅, h₅, hw₅⟩ := @Written.setInt _ _ _ hw₄ 2 6 snapshot.removedSnakes.length rfl
    (by omega)
  obtain ⟨buffer₆, h₆, hw₆⟩ := @Written.setInt _ _ _ hw₅ 2 8 snapshot.removedFood.length rfl
    (by omega)
  obtain ⟨buffer₇, h₇, hw₇⟩ := @Written.setInt _ _ _ hw₆ 4 10 snapshot.tick rfl (by omega)
  obtain ⟨buffer₈, h₈, hw₈⟩ := @Written.setInt _ _ _ hw₇ 4 14 snapshot.serverTime rfl (by omega)
  obtain ⟨buffer₉, h₉, hw₉⟩ := @Written.setInt _ _ _ hw₈ 4 18 snapshot.ackSeq rfl (by omega)
  refine ⟨buffer₉, ?_, ?_⟩
  · simp only [putHeader, h₁, h₂, h₃, h₄, h₅, h₆, h₇, h₈, h₉, ok_bind]
  · simpa only [headerBytes, List.append_assoc, List.nil_append] using hw₉

theorem writes_records (snapshot : Snapshot) (origin : Position) :
    Writes (fun s => do
      let s ← snapshot.snakes.foldlM (putSnake origin) s
      let s ← snapshot.food.foldlM (putFood origin) s
      let s ← snapshot.removedSnakes.foldlM (fun s id => putUuid id s) s
      snapshot.removedFood.foldlM (fun s (id : ℕ) => putInt 4 id s) s)
      (recordBytes snapshot origin) :=
  (Writes.foldlM (writes_putSnake origin)).bind <| (Writes.foldlM (writes_putFood origin)).bind <|
    (Writes.foldlM writes_putUuid).bind <| Writes.foldlM fun id => writes_putInt 4 id

/-- The buffer of a snapshot. -/
theorem encodeSnapshot_eq (snapshot : Snapshot) (options : EncodeSnapshotOptions) :
    encodeSnapshot snapshot options = .ok (snapshotBytes snapshot options) := by
  have hle := length_snapshotBytes_le snapshot options
  rw [snapshotBytes, List.length_append, length_headerBytes] at hle
  obtain ⟨buffer, hheader, hw⟩ := putHeader_written snapshot options.full
    (show HEADER_BYTES ≤ estimateSize snapshot by omega)
  obtain ⟨buffer', hrecords, hw'⟩ := writes_records snapshot options.origin _ _ _ hw
    (by rwa [length_headerBytes])
  have htake := hw'.take
  rw [List.length_append, length_headerBytes] at htake
  dsimp only at hrecords
  rw [length_headerBytes] at hrecords
  have hencode : encodeSnapshot snapshot options =
      (putHeader snapshot options.full (List.replicate (estimateSize snapshot) 0) >>= fun buffer =>
        (do
          let s ← snapshot.snakes.foldlM (putSnake options.origin) ⟨buffer, HEADER_BYTES⟩
          let s ← snapshot.food.foldlM (putFood options.origin) s
          let s ← snapshot.removedSnakes.foldlM (fun s id => putUuid id s) s
          snapshot.removedFood.foldlM (fun s (id : ℕ) => putInt 4 id s) s) >>= fun s =>
        .ok (s.buffer.take s.offset)) := by
    simp only [encodeSnapshot, bind_assoc]
  rw [hencode, hheader, ok_bind, hrecords, ok_bind, snapshotBytes]
  exact congrArg Except.ok htake

end SnakeArena.Protocol
