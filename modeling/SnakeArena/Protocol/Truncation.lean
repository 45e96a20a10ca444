import SnakeArena.Protocol.RoundTrip

/-!
# Protocol — truncated snapshots

Each reader of `decodeSnapshot` checks the bounds but the one of an id, for which a byte that is
not there is zero.

* `truncated_iff`: a prefix is rejected where the last bytes are not of an id.
-/

namespace SnakeArena.Protocol
open SnakeArena.Library SnakeArena.Game Borsh Buffers

/-! ### Readers that check -/

section
variable {buffer : Bytes} {origin : Vec} {offset : ℕ}

/-- An id inside the buffer does not see what follows. -/
theorem bytesToUuid_append (h : offset + UUID_BYTES ≤ buffer.length) (rest : Bytes) :
    bytesToUuid (buffer ++ rest) offset = bytesToUuid buffer offset := by
  unfold bytesToUuid
  refine congrArg dashed (List.flatMap_congr fun i hi => ?_)
  rw [List.getElem?_append_left (by have := List.mem_range.mp hi; omega)]

/-- A point is read inside the buffer, or not at all. -/
theorem checked_getPoint (origin : Vec) : Checked fun buffer => getPoint buffer origin := by
  intro buffer offset a next h
  obtain ⟨x, hx, h⟩ := ok_of_bind h
  obtain ⟨y, hy, h⟩ := ok_of_bind h
  obtain ⟨rfl, rfl⟩ := Prod.mk.inj (Except.ok.inj h)
  obtain ⟨-, hx'⟩ := getInt_ok hx
  obtain ⟨hroom, hy'⟩ := getInt_ok hy
  exact ⟨hroom, fun rest => by simp only [getPoint, hx' rest, hy' rest, ok_bind]⟩

/-- So is a pellet. -/
theorem checked_getFood (origin : Vec) : Checked fun buffer => getFood buffer origin := by
  intro buffer offset a next h
  obtain ⟨id, hid, h⟩ := ok_of_bind h
  obtain ⟨x, hx, h⟩ := ok_of_bind h
  obtain ⟨y, hy, h⟩ := ok_of_bind h
  obtain ⟨mass, hmass, h⟩ := ok_of_bind h
  obtain ⟨rfl, rfl⟩ := Prod.mk.inj (Except.ok.inj h)
  obtain ⟨hroom, hmass'⟩ := getUint_ok hmass
  refine ⟨hroom, fun rest => ?_⟩
  simp only [getFood, (getUint_ok hid).2 rest, (getInt_ok hx).2 rest, (getInt_ok hy).2 rest,
    hmass' rest, ok_bind]

/-- And an id of a pellet. -/
theorem checked_getId : Checked getId := by
  intro buffer offset a next h
  obtain ⟨id, hid, h⟩ := ok_of_bind h
  obtain ⟨rfl, rfl⟩ := Prod.mk.inj (Except.ok.inj h)
  obtain ⟨hroom, hid'⟩ := getUint_ok hid
  exact ⟨hroom, fun rest => by rw [getId, hid' rest, ok_bind]⟩

/-- The length that follows an id is checked, and the number that follows a nickname. -/
theorem checked_getSnake (origin : Vec) : Checked fun buffer => getSnake buffer origin := by
  intro buffer offset a next h
  obtain ⟨nicknameLength, hlength, h⟩ := ok_of_bind h
  obtain ⟨angle, hangle, h⟩ := ok_of_bind h
  obtain ⟨mass, hmass, h⟩ := ok_of_bind h
  obtain ⟨radius, hradius, h⟩ := ok_of_bind h
  obtain ⟨flags, hflags, h⟩ := ok_of_bind h
  obtain ⟨pointCount, hcount, h⟩ := ok_of_bind h
  obtain ⟨⟨points, next'⟩, hpoints, h⟩ := ok_of_bind h
  obtain ⟨rfl, rfl⟩ := Prod.mk.inj (Except.ok.inj h)
  obtain ⟨hroom, hlength'⟩ := getUint_ok hlength
  obtain ⟨hroom', hangle'⟩ := getUint_ok hangle
  obtain ⟨hroom'', hcount'⟩ := getUint_ok hcount
  obtain ⟨hend, hpoints'⟩ := Checked.many (checked_getPoint origin) hpoints
  refine ⟨?_, fun rest => ?_⟩
  · rcases hend with hend | ⟨-, rfl⟩
    · exact hend
    · exact hroom''
  · have hnickname : ((buffer ++ rest).drop (offset + UUID_BYTES + 1)).take nicknameLength =
        (buffer.drop (offset + UUID_BYTES + 1)).take nicknameLength := by
      rw [List.drop_append_of_le_length hroom,
        List.take_append_of_le_length (by rw [List.length_drop]; omega)]
    have huuid : offset + UUID_BYTES ≤ buffer.length := by omega
    simp only [getSnake, bytesToUuid_append huuid, hlength' rest, hnickname, hangle' rest,
      (getUint_ok hmass).2 rest, (getUint_ok hradius).2 rest, (getUint_ok hflags).2 rest,
      hcount' rest, hpoints' rest, ok_bind]

/-- Ids are read whatever is there. -/
theorem readMany_getUuid (buffer : Bytes) (count : ℕ) : ∀ offset,
    readMany (getUuid buffer) count offset =
      .ok ((List.range count).map fun k => bytesToUuid buffer (offset + k * UUID_BYTES),
        offset + count * UUID_BYTES) := by
  induction count with
  | zero =>
      intro offset
      rw [Nat.zero_mul]
      rfl
  | succ count ih =>
      intro offset
      rw [readMany, getUuid, ok_bind]
      dsimp only
      rw [ih, ok_bind, List.range_succ_eq_map, List.map_cons, List.map_map, Nat.zero_mul,
        Nat.add_zero]
      have hnext : ∀ k, offset + UUID_BYTES + k * UUID_BYTES = offset + (k + 1) * UUID_BYTES := by
        intro k
        ring
      simp only [hnext]
      rfl

/-- A pellet is nine bytes. -/
theorem size_getFood (offset : ℕ) (food : FoodState) (next : ℕ)
    (h : getFood buffer origin offset = .ok (food, next)) : next = offset + 9 := by
  obtain ⟨_, -, h⟩ := ok_of_bind h
  obtain ⟨_, -, h⟩ := ok_of_bind h
  obtain ⟨_, -, h⟩ := ok_of_bind h
  obtain ⟨_, -, h⟩ := ok_of_bind h
  exact (Prod.mk.inj (Except.ok.inj h)).2.symm

/-- An id of a pellet is four. -/
theorem size_getId (offset id next : ℕ) (h : getId buffer offset = .ok (id, next)) :
    next = offset + 4 := by
  obtain ⟨_, -, h⟩ := ok_of_bind h
  exact (Prod.mk.inj (Except.ok.inj h)).2.symm

/-! ### Prefixes -/

/-- A prefix that is decoded, where the last bytes are checked, is the whole. -/
theorem length_le_of_ok {cut : ℕ} {snapshot : Snapshot} {options : EncodeSnapshotOptions}
    (hfits : Fits snapshot) (hcut : HEADER_BYTES ≤ cut) {decoded : Snapshot}
    (h : decodeSnapshot ((snapshotBytes snapshot options).take cut) origin = .ok decoded)
    (hlast : snapshot.removedSnakes = [] ∨ snapshot.removedFood ≠ []) :
    (snapshotBytes snapshot options).length ≤ cut := by
  have hall := At.all (snapshotBytes snapshot options)
  have hheader := @At.cut _ _ _ hall.append.1 cut
    (by rw [length_headerBytes, Nat.zero_add]; exact hcut)
  have hsnakes := hall.append.2.append.1
  rw [length_headerBytes, Nat.zero_add] at hsnakes
  have hlt : ∀ n ≤ 65535, n % 256 ^ 2 = n := fun n hn => Nat.mod_eq_of_lt (Nat.lt_succ_of_le hn)
  rw [decodeSnapshot_header origin hheader, hlt _ hfits.snakes, hlt _ hfits.food,
    hlt _ hfits.removedSnakes, hlt _ hfits.removedFood] at h
  obtain ⟨⟨snakes, offset₁⟩, hreadSnakes, h⟩ := ok_of_bind h
  obtain ⟨⟨food, offset₂⟩, hreadFood, h⟩ := ok_of_bind h
  dsimp only at hreadFood h
  rw [readMany_getUuid, ok_bind] at h
  obtain ⟨⟨ids, offset₃⟩, hreadIds, -⟩ := ok_of_bind h
  dsimp only at hreadIds
  obtain ⟨hend₁, hext₁⟩ := Checked.many (checked_getSnake origin) hreadSnakes
  obtain ⟨hend₂, -⟩ := Checked.many (checked_getFood origin) hreadFood
  obtain ⟨hend₃, -⟩ := Checked.many checked_getId hreadIds
  -- the snakes end where they end in the whole
  have hext₁ := hext₁ ((snapshotBytes snapshot options).drop cut)
  rw [List.take_append_drop] at hext₁
  have hread₁ := ReadsAt.many (fun snake hmem => readsAt_snake options.origin origin
    (Nat.lt_succ_of_le (hfits.each snake hmem).nickname)
    (Nat.lt_succ_of_le (hfits.each snake hmem).points)) _ hsnakes
  rw [hread₁] at hext₁
  have hsize₁ : HEADER_BYTES + (snapshot.snakes.flatMap (snakeBytes options.origin)).length =
      offset₁ := (Prod.mk.inj (Except.ok.inj hext₁)).2
  have hsize₂ := readMany_size size_getFood hreadFood
  have hsize₃ := readMany_size size_getId hreadIds
  have hlength : ((snapshotBytes snapshot options).take cut).length ≤ cut := List.length_take_le _ _
  have hlast : snapshot.removedSnakes.length = 0 ∨ snapshot.removedFood.length ≠ 0 :=
    hlast.imp List.length_eq_zero_iff.mpr fun h => List.length_eq_zero_iff.not.mpr h
  rw [length_snapshotBytes]
  unfold HEADER_BYTES UUID_BYTES at *
  omega

/-- A field that is inside is read. -/
theorem getInt_inside {width : ℕ} {fixed : Bytes} (h : offset + width ≤ fixed.length) :
    ∃ v, getInt width fixed offset = .ok v := by
  obtain ⟨n, -, hget⟩ := getUint_inside h
  have := hget []
  rw [List.append_nil] at this
  exact ⟨signed width n, by rw [getInt, this]; rfl⟩

/-- The same, without a sign. -/
theorem getUint_of_le {width : ℕ} {fixed : Bytes} (h : offset + width ≤ fixed.length) :
    ∃ n, getUint width fixed offset = .ok n := ⟨_, if_pos h⟩

/-- Pellets that are inside are read, all of them. -/
theorem readMany_getFood {count : ℕ} (h : offset + count * 9 ≤ buffer.length) :
    ∃ food, readMany (getFood buffer origin) count offset = .ok (food, offset + count * 9) := by
  obtain ⟨food, -, -, hread⟩ := @readMany_inside _ Unit (fun _ => getFood buffer origin)
    (fun _ => True) 9 buffer.length (fun offset h => by
      obtain ⟨id, hid⟩ := @getUint_of_le offset 4 buffer (by omega)
      obtain ⟨x, hx⟩ := @getInt_inside (offset + 4) 2 buffer (by omega)
      obtain ⟨y, hy⟩ := @getInt_inside (offset + 6) 2 buffer (by omega)
      obtain ⟨mass, hmass⟩ := @getUint_of_le (offset + 8) 1 buffer (by omega)
      exact ⟨_, trivial, fun _ => by rw [getFood, hid, ok_bind, hx, ok_bind, hy, ok_bind, hmass,
        ok_bind]⟩) count offset h
  exact ⟨food, hread ()⟩

/-- So are the ids. -/
theorem readMany_getId {count : ℕ} (h : offset + count * 4 ≤ buffer.length) :
    ∃ ids, readMany (getId buffer) count offset = .ok (ids, offset + count * 4) := by
  obtain ⟨ids, -, -, hread⟩ := @readMany_inside _ Unit (fun _ => getId buffer)
    (fun _ => True) 4 buffer.length (fun offset h => by
      obtain ⟨id, hid⟩ := @getUint_of_le offset 4 buffer h
      exact ⟨id, trivial, fun _ => by rw [getId, hid, ok_bind]⟩) count offset h
  exact ⟨ids, hread ()⟩

/-- A prefix that holds what the counts say, but for the ids when they are the last, is decoded. -/
theorem decoded_of_length {cut start : ℕ} {snapshot : Snapshot} {options : EncodeSnapshotOptions}
    (heach : ∀ snake ∈ snapshot.snakes, FitsSnake snake)
    (hlength : cut ≤ (snapshotBytes snapshot options).length)
    (hstart : start = HEADER_BYTES +
      ((snapshot.snakes.take (snapshot.snakes.length % 256 ^ 2)).flatMap
      (snakeBytes options.origin)).length)
    (hfood : start + snapshot.food.length % 256 ^ 2 * 9 ≤ cut)
    (hids : snapshot.removedFood.length % 256 ^ 2 = 0 ∨
      start + snapshot.food.length % 256 ^ 2 * 9 +
        snapshot.removedSnakes.length % 256 ^ 2 * UUID_BYTES +
        snapshot.removedFood.length % 256 ^ 2 * 4 ≤ cut) :
    ∃ decoded, decodeSnapshot ((snapshotBytes snapshot options).take cut) origin = .ok decoded := by
  have hall := At.all (snapshotBytes snapshot options)
  have hcut : ((snapshotBytes snapshot options).take cut).length = cut := by
    rw [List.length_take, min_eq_left hlength]
  have hheader := @At.cut _ _ _ hall.append.1 cut (by rw [length_headerBytes]; omega)
  have hsnakes := hall.append.2.append.1
  rw [length_headerBytes, Nat.zero_add, ← List.take_append_drop (snapshot.snakes.length % 256 ^ 2)
    snapshot.snakes, List.flatMap_append] at hsnakes
  have hsnakes := @At.cut _ _ _ hsnakes.append.1 cut (by omega)
  have hread₁ := ReadsAt.many (fun snake hmem => readsAt_snake options.origin origin
    (Nat.lt_succ_of_le (heach snake (List.mem_of_mem_take hmem)).nickname)
    (Nat.lt_succ_of_le (heach snake (List.mem_of_mem_take hmem)).points)) _ hsnakes
  rw [List.length_take, min_eq_left (Nat.mod_le _ _)] at hread₁
  have hread₁ : readMany (getSnake ((snapshotBytes snapshot options).take cut) origin)
      (snapshot.snakes.length % 256 ^ 2) HEADER_BYTES = .ok (_, start) := hstart ▸ hread₁
  obtain ⟨food, hread₂⟩ := @readMany_getFood
    ((snapshotBytes snapshot options).take cut) origin start
    (snapshot.food.length % 256 ^ 2) (by rwa [hcut])
  rw [decodeSnapshot_header origin hheader, hread₁, ok_bind]
  dsimp only
  rw [hread₂, ok_bind]
  dsimp only
  rw [readMany_getUuid, ok_bind]
  dsimp only
  rcases hids with hzero | hids
  · rw [hzero]
    exact ⟨_, rfl⟩
  · obtain ⟨ids, hread₃⟩ := @readMany_getId ((snapshotBytes snapshot options).take cut)
      (start + snapshot.food.length % 256 ^ 2 * 9 +
        snapshot.removedSnakes.length % 256 ^ 2 * UUID_BYTES) _ (by rwa [hcut])
    rw [hread₃]
    exact ⟨_, rfl⟩

/-- Where a prefix can be decoded. -/
theorem decoded_of_not_fits {snapshot : Snapshot} (options : EncodeSnapshotOptions)
    (heach : ∀ snake ∈ snapshot.snakes, FitsSnake snake)
    (h : ¬(Fits snapshot ∧ (snapshot.removedSnakes = [] ∨ snapshot.removedFood ≠ []))) :
    ∃ cut < (snapshotBytes snapshot options).length, ∃ decoded,
      decodeSnapshot ((snapshotBytes snapshot options).take cut) origin = .ok decoded := by
  have hlength := length_snapshotBytes snapshot options
  obtain ⟨first, hfirst⟩ : ∃ first, first = ((snapshot.snakes.take
    (snapshot.snakes.length % 256 ^ 2)).flatMap (snakeBytes options.origin)).length := ⟨_, rfl⟩
  obtain ⟨others, hothers⟩ : ∃ others, others = ((snapshot.snakes.drop
    (snapshot.snakes.length % 256 ^ 2)).flatMap (snakeBytes options.origin)).length := ⟨_, rfl⟩
  have hsnakes : (snapshot.snakes.flatMap (snakeBytes options.origin)).length = first + others := by
    rw [hfirst, hothers, ← List.length_append, ← List.flatMap_append, List.take_append_drop]
  have hmore : snapshot.snakes.length % 256 ^ 2 < snapshot.snakes.length → 0 < others := by
    intro hlt
    cases hdrop : snapshot.snakes.drop (snapshot.snakes.length % 256 ^ 2) with
    | nil => exact absurd (List.drop_eq_nil_iff.mp hdrop) hlt.not_ge
    | cons snake snakes =>
        rw [hothers, hdrop, List.flatMap_cons, List.length_append, length_snakeBytes]
        omega
  have hover : 65535 < snapshot.snakes.length ∨ 65535 < snapshot.food.length ∨
      65535 < snapshot.removedSnakes.length ∨ 65535 < snapshot.removedFood.length ∨
      snapshot.removedSnakes.length ≠ 0 ∧ snapshot.removedFood.length = 0 := by
    by_contra hfits
    simp only [not_or, not_lt, not_and, List.length_eq_zero_iff] at hfits
    obtain ⟨hs, hf, hrs, hrf, hlast⟩ := hfits
    refine h ⟨⟨hs, hf, hrs, hrf, heach⟩, ?_⟩
    by_cases hnone : snapshot.removedSnakes = []
    · exact .inl hnone
    · exact .inr (hlast fun h => hnone (List.length_eq_zero_iff.mp h))
  rw [hsnakes] at hlength
  have hmod := Nat.mod_le snapshot.snakes.length (256 ^ 2)
  have hmod' := Nat.mod_le snapshot.food.length (256 ^ 2)
  have hmod'' := Nat.mod_le snapshot.removedSnakes.length (256 ^ 2)
  refine ⟨(snapshotBytes snapshot options).length - 1, ?_, decoded_of_length heach (Nat.sub_le _ _)
    (congrArg _ hfirst) ?_ ?_⟩
  · unfold HEADER_BYTES at hlength
    omega
  · unfold HEADER_BYTES UUID_BYTES at *
    omega
  · unfold HEADER_BYTES UUID_BYTES at *
    omega

/-! ### Any bytes -/

/-- What is read of a buffer that is not rejected. -/
structure Parsed (buffer : Bytes) (origin : Vec) where
  snakeCount : ℕ
  foodCount : ℕ
  removedSnakeCount : ℕ
  removedFoodCount : ℕ
  tick : ℕ
  serverTime : ℕ
  ackSeq : ℕ
  snakes : List SnakeState
  food : List FoodState
  removedFood : List ℕ
  /-- Where the snakes end. -/
  foodAt : ℕ
  removedAt : ℕ
  next : ℕ
  room : HEADER_BYTES ≤ buffer.length
  messageType : getUint 1 buffer 0 = .ok MessageType.snapshot
  getSnakeCount : getUint 2 buffer 2 = .ok snakeCount
  getFoodCount : getUint 2 buffer 4 = .ok foodCount
  getRemovedSnakeCount : getUint 2 buffer 6 = .ok removedSnakeCount
  getRemovedFoodCount : getUint 2 buffer 8 = .ok removedFoodCount
  getTick : getUint 4 buffer 10 = .ok tick
  getServerTime : getUint 4 buffer 14 = .ok serverTime
  getAckSeq : getUint 4 buffer 18 = .ok ackSeq
  getSnakes : readMany (getSnake buffer origin) snakeCount HEADER_BYTES = .ok (snakes, foodAt)
  getFood : readMany (getFood buffer origin) foodCount foodAt = .ok (food, removedAt)
  getRemovedFood : readMany (getId buffer) removedFoodCount
    (removedAt + removedSnakeCount * UUID_BYTES) = .ok (removedFood, next)

namespace Parsed
variable (p : Parsed buffer origin)

/-- The snapshot that the parts are of. -/
def snapshot : Snapshot where
  tick := p.tick
  serverTime := p.serverTime
  ackSeq := p.ackSeq
  snakes := p.snakes
  food := p.food
  removedSnakes := (List.range p.removedSnakeCount).map fun k =>
    bytesToUuid buffer (p.removedAt + k * UUID_BYTES)
  removedFood := p.removedFood

/-- The parts are what is decoded. -/
theorem decode : decodeSnapshot buffer origin = .ok p.snapshot := by
  simp only [decodeSnapshot, if_neg p.room.not_gt, p.messageType, ok_bind, ne_eq, not_true_eq_false,
    if_false, p.getSnakeCount, p.getFoodCount, p.getRemovedSnakeCount, p.getRemovedFoodCount,
    p.getTick, p.getServerTime, p.getAckSeq, p.getSnakes, p.getFood, readMany_getUuid,
    p.getRemovedFood]
  rfl

/-- What is decoded has its parts. -/
theorem of_ok {decoded : Snapshot} (h : decodeSnapshot buffer origin = .ok decoded) :
    Nonempty (Parsed buffer origin) := by
  unfold decodeSnapshot at h
  split_ifs at h with hroom
  obtain ⟨messageType, htype, h⟩ := ok_of_bind h
  split_ifs at h with hmessage
  obtain ⟨_, h₂, h⟩ := ok_of_bind h
  obtain ⟨_, h₄, h⟩ := ok_of_bind h
  obtain ⟨_, h₆, h⟩ := ok_of_bind h
  obtain ⟨_, h₈, h⟩ := ok_of_bind h
  obtain ⟨_, h₁₀, h⟩ := ok_of_bind h
  obtain ⟨_, h₁₄, h⟩ := ok_of_bind h
  obtain ⟨_, h₁₈, h⟩ := ok_of_bind h
  obtain ⟨⟨_, _⟩, hsnakes, h⟩ := ok_of_bind h
  obtain ⟨⟨_, _⟩, hfood, h⟩ := ok_of_bind h
  dsimp only at hfood h
  rw [readMany_getUuid, ok_bind] at h
  obtain ⟨⟨_, _⟩, hremoved, -⟩ := ok_of_bind h
  exact ⟨⟨_, _, _, _, _, _, _, _, _, _, _, _, _, not_lt.mp hroom,
    not_not.mp hmessage ▸ htype, h₂, h₄,
    h₆, h₈, h₁₀, h₁₄, h₁₈, hsnakes, hfood, hremoved⟩⟩

/-- What is read stays when bytes follow. -/
def extend (rest : Bytes) : Parsed (buffer ++ rest) origin :=
  { p with
    room := p.room.trans (by rw [List.length_append]; exact Nat.le_add_right _ _)
    messageType := (getUint_ok p.messageType).2 rest
    getSnakeCount := (getUint_ok p.getSnakeCount).2 rest
    getFoodCount := (getUint_ok p.getFoodCount).2 rest
    getRemovedSnakeCount := (getUint_ok p.getRemovedSnakeCount).2 rest
    getRemovedFoodCount := (getUint_ok p.getRemovedFoodCount).2 rest
    getTick := (getUint_ok p.getTick).2 rest
    getServerTime := (getUint_ok p.getServerTime).2 rest
    getAckSeq := (getUint_ok p.getAckSeq).2 rest
    getSnakes := (Checked.many (checked_getSnake origin) p.getSnakes).2 rest
    getFood := (Checked.many (checked_getFood origin) p.getFood).2 rest
    getRemovedFood := (Checked.many checked_getId p.getRemovedFood).2 rest }

/-- The ids are the last that is declared, and are not all there. -/
def IdsCut : Prop :=
  p.removedFoodCount = 0 ∧ buffer.length < p.removedAt + p.removedSnakeCount * UUID_BYTES

/-- Where no id is cut, they are all inside. -/
theorem ids_inside (h : ¬p.IdsCut) :
    p.removedAt + p.removedSnakeCount * UUID_BYTES ≤ buffer.length := by
  by_contra hcut
  have hend := (Checked.many checked_getId p.getRemovedFood).1
  have hnext := readMany_size size_getId p.getRemovedFood
  exact h ⟨by omega, not_le.mp hcut⟩

end Parsed

/-- Bytes that follow the buffer have no part in what is read. -/
def ReadsInside (buffer : Bytes) (origin : Vec) : Prop :=
  ∀ rest, decodeSnapshot (buffer ++ rest) origin = decodeSnapshot buffer origin

/-- The last digit of an id is of its last byte. -/
theorem getLast?_bytesToUuid (buffer : Bytes) (offset : ℕ) :
    (bytesToUuid buffer offset).toList.getLast? =
      some (hexDigit ((buffer[offset + 15]?.getD 0).toNat % 16)) := by
  have hlength : ((List.range 15).flatMap fun i =>
      hexDigits (buffer[offset + i]?.getD 0)).length = 30 := by
    rw [List.length_flatMap]
    rfl
  rw [bytesToUuid, UUID_BYTES, List.range_succ, List.flatMap_append, List.flatMap_singleton, dashed,
    String.toList_ofList, List.drop_append_of_le_length (by omega) (i := 20)]
  simp [List.getLast?_append, List.getLast?_cons, hexDigits]

/-- **A snapshot is read from inside the buffer if and only if no removed id is cut.**. -/
theorem readsInside_iff (p : Parsed buffer origin) : ReadsInside buffer origin ↔ ¬p.IdsCut := by
  constructor
  · rintro hinside ⟨-, hcut⟩
    have hstart : p.removedAt ≤ buffer.length := by
      have hroom := p.room
      have hsnakes := (Checked.many (checked_getSnake origin) p.getSnakes).1
      have hfood := (Checked.many (checked_getFood origin) p.getFood).1
      omega
    have hpos : 0 < p.removedSnakeCount := by
      rw [Nat.pos_iff_ne_zero]
      intro hzero
      rw [hzero, Nat.zero_mul] at hcut
      omega
    -- ones after the end change the last digit of the last id
    have hsame := hinside (List.replicate (p.removedSnakeCount * UUID_BYTES) 1)
    rw [(p.extend _).decode, p.decode] at hsame
    have hids := List.map_inj_left.mp (congrArg Snapshot.removedSnakes (Except.ok.inj hsame))
      (p.removedSnakeCount - 1) (List.mem_range.mpr (Nat.sub_lt hpos one_pos))
    have hlast := congrArg (fun id : String => id.toList.getLast?) hids
    have hend : (p.removedSnakeCount - 1) * UUID_BYTES + 16 = p.removedSnakeCount * UUID_BYTES := by
      unfold UUID_BYTES
      omega
    have hextend : (p.extend (List.replicate (p.removedSnakeCount * UUID_BYTES) 1)).removedAt =
        p.removedAt := rfl
    simp only [getLast?_bytesToUuid, hextend] at hlast
    rw [List.getElem?_append_right (by omega), List.getElem?_replicate_of_lt (by omega),
      List.getElem?_eq_none (by omega)] at hlast
    exact absurd hlast (by decide)
  · intro hids rest
    have hle := p.ids_inside hids
    rw [(p.extend rest).decode, p.decode]
    refine congrArg Except.ok (congrArg (fun ids => { p.snapshot with removedSnakes := ids })
      (List.map_congr_left fun k hk => bytesToUuid_append ?_ rest))
    have hk := Nat.mul_le_mul_right UUID_BYTES (Nat.succ_le_of_lt (List.mem_range.mp hk))
    rw [Nat.succ_mul] at hk
    have hcount : (p.extend rest).removedSnakeCount = p.removedSnakeCount := rfl
    rw [hcount] at hk
    change p.removedAt + k * UUID_BYTES + UUID_BYTES ≤ _
    omega

end

/-- **Truncated snapshots**: every prefix is rejected where removed food follows the ids of removed
snakes, or there are none, and the counts hold; what is read of any bytes is inside them, unless
they end within such ids. -/
theorem truncated_iff {snapshot : Snapshot}
    (heach : ∀ snake ∈ snapshot.snakes, FitsSnake snake) (options : EncodeSnapshotOptions)
    (origin : Vec) (buffer : Bytes) :
    (∃ bytes, encodeSnapshot snapshot options = .ok bytes ∧
      ((∀ cut < bytes.length, ∃ e, decodeSnapshot (bytes.take cut) origin = .error e) ↔
        Fits snapshot ∧ (snapshot.removedSnakes = [] ∨ snapshot.removedFood ≠ []))) ∧
      ((∃ e, decodeSnapshot buffer origin = .error e) ∨ ReadsInside buffer origin ↔
        ∀ p : Parsed buffer origin, ¬p.IdsCut) := by
  refine ⟨⟨_, encodeSnapshot_eq _ _, fun hall => ?_, fun ⟨hfits, hlast⟩ cut hcut => ?_⟩, ?_⟩
  · by_contra hnot
    obtain ⟨cut, hcut, decoded, hok⟩ := @decoded_of_not_fits origin _ options heach hnot
    obtain ⟨e, he⟩ := hall cut hcut
    rw [hok] at he
    cases he
  · cases h : decodeSnapshot ((snapshotBytes snapshot options).take cut) origin with
    | error e => exact ⟨e, rfl⟩
    | ok decoded =>
        by_cases hshort : cut < HEADER_BYTES
        · rw [decodeSnapshot, if_pos (by rw [List.length_take]; omega)] at h
          cases h
        · exact absurd (length_le_of_ok hfits (not_lt.mp hshort) h hlast) hcut.not_ge
  · constructor
    · rintro (⟨e, he⟩ | hinside) p
      · rw [p.decode] at he
        cases he
      · exact (readsInside_iff p).mp hinside
    · intro hall
      cases h : decodeSnapshot buffer origin with
      | error e => exact .inl ⟨e, rfl⟩
      | ok decoded =>
          obtain ⟨p⟩ := Parsed.of_ok h
          exact .inr ((readsInside_iff p).mpr (hall p))

/-- A snapshot with a snake and a pellet, that removes one of each. -/
def eaten : Snapshot where
  tick := 4242
  serverTime := 123456
  ackSeq := 99
  snakes :=
    [{ id := "00000000-0000-0000-0000-0000000000aa"
       nickname := "Zoë"
       points := [some ⟨3, 4⟩, some ⟨1, 4⟩]
       angle := some 1
       mass := 10
       radius := 12
       boosting := true
       skinId := none
       isBot := false }]
  food := [⟨7, some ⟨5, 5⟩, 1, 120⟩]
  removedSnakes := ["00000000-0000-0000-0000-0000000000ff"]
  removedFood := [6]

theorem truncated_iff_eaten :
    ∃ bytes, encodeSnapshot eaten ⟨some ⟨0, 0⟩, false⟩ = .ok bytes ∧
      (∀ cut < bytes.length, ∃ e, decodeSnapshot (bytes.take cut) ⟨0, 0⟩ = .error e) ∧
        ReadsInside bytes ⟨0, 0⟩ := by
  have heach : ∀ snake ∈ eaten.snakes, FitsSnake snake := by
    intro snake hsnake
    obtain rfl := List.mem_singleton.mp hsnake
    exact ⟨by decide, by decide⟩
  have hfits : Fits eaten := ⟨by decide, by decide, by decide, by decide, heach⟩
  obtain ⟨⟨bytes, hbytes, hcut⟩, hreads⟩ := truncated_iff heach ⟨some ⟨0, 0⟩, false⟩ ⟨0, 0⟩
    (snapshotBytes eaten ⟨some ⟨0, 0⟩, false⟩)
  obtain rfl := Except.ok.inj ((encodeSnapshot_eq _ _).symm.trans hbytes)
  refine ⟨_, hbytes, hcut.mpr ⟨hfits, .inr (List.cons_ne_nil _ _)⟩, ?_⟩
  -- its header declares removed food
  have hcount : getUint 2 (snapshotBytes eaten ⟨some ⟨0, 0⟩, false⟩) 8 = .ok 1 := by decide
  refine (hreads.mpr fun p hids => ?_).resolve_left ?_
  · cases (hids.1 ▸ p.getRemovedFoodCount).symm.trans hcount
  · rintro ⟨e, he⟩
    have hok : (decodeSnapshot (snapshotBytes eaten ⟨some ⟨0, 0⟩, false⟩) ⟨0, 0⟩).toOption.isSome =
        true := by
      decide +kernel
    rw [he] at hok
    cases hok

/-- A snapshot that removes one snake, and no food. -/
def removal : Snapshot :=
  ⟨4242, 123456, 99, [], [], ["00000000-0000-0000-0000-0000000000ff"], []⟩

/-- Half of the id is missing. -/
theorem truncated_removal : ¬ ∀ (snapshot : Snapshot) (options : EncodeSnapshotOptions)
    (origin : Vec) bytes, encodeSnapshot snapshot options = .ok bytes → ∀ cut < bytes.length,
      ∃ e, decodeSnapshot (bytes.take cut) origin = .error e := by
  intro hclaim
  obtain ⟨e, he⟩ := hclaim removal ⟨some ⟨0, 0⟩, false⟩ ⟨0, 0⟩ _ (encodeSnapshot_eq _ _) 30
    (by decide)
  have hok : decodeSnapshot ((snapshotBytes removal ⟨some ⟨0, 0⟩, false⟩).take 30) ⟨0, 0⟩ =
      .ok ⟨4242, 123456, 99, [], [], ["00000000-0000-0000-0000-000000000000"], []⟩ := by
    decide
  rw [hok] at he
  cases he

end SnakeArena.Protocol
