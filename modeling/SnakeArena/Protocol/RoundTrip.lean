import SnakeArena.Library.Pages
import SnakeArena.Protocol.Layout

/-!
# Protocol — what arrives of a snapshot

* `decode_snapshotBytes`: what a client reads of the bytes of a snapshot, about any point.
* `snapshot_round_trip`: about the point that it was encoded about, the snapshot quantised; the
  estimate is no smaller than the bytes.
-/

namespace SnakeArena.Protocol
open SnakeArena.Library SnakeArena.Game Borsh Buffers

/-! ### What is read -/

/-- A point written about `centre` and read about `origin`. -/
def seenPoint (centre : Position) (origin : Vec) (point : Position) : Position :=
  some ⟨clampI16 (relative Vec.x centre point) / POSITION_SCALE + origin.x,
    clampI16 (relative Vec.y centre point) / POSITION_SCALE + origin.y⟩

/-- A snake as it comes back: its points, its text, and its numbers in the widths of the wire; the
skin is not written. -/
def seenSnake (centre : Position) (origin : Vec) (snake : SnakeState) : SnakeState where
  id := bytesToUuid (uuidToBytes snake.id) 0
  nickname := decodeText (nicknameBytes snake)
  points := snake.points.map (seenPoint centre origin)
  angle := some ((angleUnits snake.angle % 256 ^ 2).toNat / ANGLE_SCALE)
  mass := (min 65535 (round snake.mass) % 256 ^ 2).toNat
  radius := (min 65535 (round (snake.radius * 4)) % 256 ^ 2).toNat / 4
  boosting := snake.boosting
  skinId := none
  isBot := snake.isBot

/-- A pellet as it comes back. -/
def seenFood (centre : Position) (origin : Vec) (food : FoodState) : FoodState where
  id := food.id % 256 ^ 4
  position := seenPoint centre origin food.position
  mass := (min 255 (round food.mass) % 256 ^ 1).toNat
  hue := food.id % 256 ^ 4 % 360

section
variable {buffer : Bytes} {offset : ℕ}

/-- What is clamped fits in 16 bits with a sign. -/
theorem clampI16_mem (value : Option ℚ) : -32768 ≤ clampI16 value ∧ clampI16 value ≤ 32767 := by
  cases value with
  | none => decide
  | some value => exact ⟨le_max_left _ _, max_le (by decide) (min_le_left _ _)⟩

/-- A clamped coordinate comes back as it is, where it was written. -/
theorem getInt_clampI16 {value : Option ℚ} (h : At buffer offset (intBytes 2 (clampI16 value))) :
    getInt 2 buffer offset = .ok (clampI16 value) := by
  obtain ⟨hlo, hhi⟩ := clampI16_mem value
  exact getInt_at two_pos h (by omega) (by omega)

/-- A point comes back as it is seen from the two centres: the writer's and the reader's. -/
theorem readsAt_point (centre : Position) (origin : Vec) (point : Position) :
    ReadsAt buffer (getPoint buffer origin) (pointBytes centre point)
      (seenPoint centre origin point) := by
  intro offset h
  obtain ⟨hx, hy⟩ := h.append
  rw [length_intBytes] at hy
  simp only [getPoint, getInt_clampI16 hx, getInt_clampI16 hy, ok_bind, length_pointBytes]
  rfl

/-- An id that is there, wherever it is. -/
theorem bytesToUuid_at {bs : Bytes} (hlength : bs.length = UUID_BYTES) (h : At buffer offset bs) :
    bytesToUuid buffer offset = bytesToUuid bs 0 := by
  unfold bytesToUuid
  refine congrArg dashed (List.flatMap_congr fun i hi => ?_)
  rw [h.get? (by rw [hlength]; exact List.mem_range.mp hi), Nat.zero_add]

/-- An id of sixteen bytes comes back as the digits of its bytes. -/
theorem readsAt_uuid (uuid : String) : ReadsAt buffer (getUuid buffer) (uuidToBytes uuid)
    (bytesToUuid (uuidToBytes uuid) 0) := by
  intro offset h
  rw [getUuid, bytesToUuid_at (length_uuidToBytes uuid) h, length_uuidToBytes]

/-- An id of a pellet comes back modulo the width of its field. -/
theorem readsAt_id (id : ℕ) : ReadsAt buffer (getId buffer) (intBytes 4 id) (id % 256 ^ 4) := by
  intro offset h
  rw [getId, getUint_mod four_pos h, ok_bind, length_intBytes]
  norm_cast

/-- A pellet comes back as it is seen. -/
theorem readsAt_food (centre : Position) (origin : Vec) (food : FoodState) :
    ReadsAt buffer (getFood buffer origin) (foodBytes centre food)
      (seenFood centre origin food) := by
  intro offset h
  obtain ⟨hid, h⟩ := h.append
  obtain ⟨h, hmass⟩ := h.append
  obtain ⟨hx, hy⟩ := h.append
  simp only [length_intBytes, length_pointBytes, Nat.add_assoc, Nat.reduceAdd] at hx hy hmass
  have hcast : ((food.id : ℤ) % 256 ^ 4).toNat = food.id % 256 ^ 4 := by norm_cast
  simp only [getFood, getUint_mod four_pos hid, getInt_clampI16 hx, getInt_clampI16 hy,
    getUint_mod one_pos hmass, ok_bind, length_foodBytes, hcast]
  rfl

/-- A snake comes back as it is seen, when its lengths fit in their fields. -/
theorem readsAt_snake (centre : Position) (origin : Vec) {snake : SnakeState}
    (hnickname : (nicknameBytes snake).length < 256) (hpoints : snake.points.length < 256 ^ 2) :
    ReadsAt buffer (getSnake buffer origin) (snakeBytes centre snake)
      (seenSnake centre origin snake) := by
  intro offset h
  obtain ⟨hid, h⟩ := h.append
  obtain ⟨hlength, h⟩ := h.append
  obtain ⟨hname, h⟩ := h.append
  obtain ⟨hangle, h⟩ := h.append
  obtain ⟨hmass, h⟩ := h.append
  obtain ⟨hradius, h⟩ := h.append
  obtain ⟨hflags, h⟩ := h.append
  obtain ⟨hcount, h⟩ := h.append
  simp only [length_intBytes, length_uuidToBytes]
    at hlength hname hangle hmass hradius hflags hcount h
  -- the points are of one length, so the reader counts them
  have hread := @ReadsAt.many _ _ buffer (getPoint buffer origin) (pointBytes centre)
    (seenPoint centre origin) snake.points (fun point _ => readsAt_point centre origin point) _ h
  have hgetLength := getUint_at one_pos hlength (by omega) (by omega)
  have hgetCount := getUint_at two_pos hcount (by omega) (by omega)
  have hgetFlags := getUint_mod one_pos hflags
  rw [Int.toNat_natCast] at hgetLength hgetCount
  -- the two flags share a byte, and come back bit by bit
  have hflag : (flagsOf snake % 256 ^ 1 : ℤ).toNat = flagsOf snake := by
    unfold flagsOf
    cases snake.boosting <;> cases snake.isBot <;> rfl
  have hboosting : decide (flagsOf snake &&& 1 ≠ 0) = snake.boosting := by
    unfold flagsOf
    cases snake.boosting <;> cases snake.isBot <;> rfl
  have hisBot : decide (flagsOf snake &&& 2 ≠ 0) = snake.isBot := by
    unfold flagsOf
    cases snake.boosting <;> cases snake.isBot <;> rfl
  rw [hflag] at hgetFlags
  simp only [getSnake, bytesToUuid_at (length_uuidToBytes _) hid, hgetLength, ok_bind, hname.take,
    getUint_mod two_pos hangle, getUint_mod two_pos hmass, getUint_mod two_pos hradius, hgetFlags,
    hgetCount, hread, hboosting, hisBot, length_snakeBytes,
    length_flatMap_const (length_pointBytes centre)]
  refine congrArg Except.ok (Prod.ext rfl ?_)
  dsimp only [UUID_BYTES]
  omega

/-! ### The snapshot -/

/-- The length fields hold what they are the lengths of. -/
structure FitsSnake (snake : SnakeState) : Prop where
  nickname : (nicknameBytes snake).length ≤ 255
  points : snake.points.length ≤ 65535

/-- The lengths of a snapshot fit in their fields, and so do each snake's. -/
structure Fits (snapshot : Snapshot) : Prop where
  snakes : snapshot.snakes.length ≤ 65535
  food : snapshot.food.length ≤ 65535
  removedSnakes : snapshot.removedSnakes.length ≤ 65535
  removedFood : snapshot.removedFood.length ≤ 65535
  each : ∀ snake ∈ snapshot.snakes, FitsSnake snake

/-- What a reader at `origin` sees of what was written about `centre`. -/
def seenSnapshot (centre : Position) (origin : Vec) (snapshot : Snapshot) : Snapshot where
  tick := snapshot.tick % 256 ^ 4
  serverTime := snapshot.serverTime % 256 ^ 4
  ackSeq := snapshot.ackSeq % 256 ^ 4
  snakes := snapshot.snakes.map (seenSnake centre origin)
  food := snapshot.food.map (seenFood centre origin)
  removedSnakes := snapshot.removedSnakes.map fun id => bytesToUuid (uuidToBytes id) 0
  removedFood := snapshot.removedFood.map (· % 256 ^ 4)

/-- A buffer that starts with the header of a snapshot. -/
theorem decodeSnapshot_header {snapshot : Snapshot} {full : Bool} (origin : Vec)
    (h : At buffer 0 (headerBytes snapshot full)) : decodeSnapshot buffer origin = (do
      let (snakes, offset) ← readMany (getSnake buffer origin) (snapshot.snakes.length % 256 ^ 2)
        HEADER_BYTES
      let (food, offset) ← readMany (getFood buffer origin) (snapshot.food.length % 256 ^ 2) offset
      let (removedSnakes, offset) ← readMany (getUuid buffer)
        (snapshot.removedSnakes.length % 256 ^ 2) offset
      let (removedFood, _) ← readMany (getId buffer) (snapshot.removedFood.length % 256 ^ 2) offset
      .ok ⟨snapshot.tick % 256 ^ 4, snapshot.serverTime % 256 ^ 4,
        snapshot.ackSeq % 256 ^ 4, snakes,
        food, removedSnakes, removedFood⟩) := by
  have hroom := h.room (by rw [length_headerBytes]; decide)
  rw [length_headerBytes, Nat.zero_add] at hroom
  obtain ⟨h₀, h⟩ := h.append
  obtain ⟨-, h⟩ := h.append
  obtain ⟨h₂, h⟩ := h.append
  obtain ⟨h₄, h⟩ := h.append
  obtain ⟨h₆, h⟩ := h.append
  obtain ⟨h₈, h⟩ := h.append
  obtain ⟨h₁₀, h⟩ := h.append
  obtain ⟨h₁₄, h₁₈⟩ := h.append
  simp only [length_intBytes, Nat.zero_add, Nat.reduceAdd] at h₂ h₄ h₆ h₈ h₁₀ h₁₄ h₁₈
  have hcast : ∀ (n width : ℕ), ((n : ℤ) % 256 ^ width).toNat = n % 256 ^ width := by
    intro n width
    norm_cast
  rw [decodeSnapshot, if_neg (by omega), getUint_at one_pos h₀ (by decide) (by decide), ok_bind,
    Int.toNat_natCast, if_neg (not_not.mpr rfl)]
  simp only [getUint_mod two_pos h₂, getUint_mod two_pos h₄, getUint_mod two_pos h₆,
    getUint_mod two_pos h₈, getUint_mod four_pos h₁₀, getUint_mod four_pos h₁₄,
    getUint_mod four_pos h₁₈, hcast, ok_bind]

/-- What a client reads of the bytes of a snapshot. -/
theorem decode_snapshotBytes {snapshot : Snapshot} (h : Fits snapshot)
    (options : EncodeSnapshotOptions) (origin : Vec) :
    decodeSnapshot (snapshotBytes snapshot options) origin =
      .ok (seenSnapshot options.origin origin snapshot) := by
  obtain ⟨hheader, hrecords⟩ := (At.all (snapshotBytes snapshot options)).append
  obtain ⟨hsnakes, hrecords⟩ := hrecords.append
  obtain ⟨hfood, hrecords⟩ := hrecords.append
  obtain ⟨hremovedSnakes, hremovedFood⟩ := hrecords.append
  rw [length_headerBytes, Nat.zero_add] at hsnakes hfood hremovedSnakes hremovedFood
  -- the four lists, one after the other, each under its count of the header
  have hread₁ := ReadsAt.many (fun snake hmem => readsAt_snake options.origin origin
    (Nat.lt_succ_of_le (h.each snake hmem).nickname)
    (Nat.lt_succ_of_le (h.each snake hmem).points)) _ hsnakes
  have hread₂ := ReadsAt.many (fun food _ => readsAt_food options.origin origin food) _ hfood
  have hread₃ := ReadsAt.many (fun uuid _ => readsAt_uuid uuid) _ hremovedSnakes
  have hread₄ := ReadsAt.many (fun id _ => readsAt_id id) _ hremovedFood
  have hlt : ∀ n ≤ 65535, n % 256 ^ 2 = n := fun n hn => Nat.mod_eq_of_lt (Nat.lt_succ_of_le hn)
  rw [decodeSnapshot_header origin hheader, hlt _ h.snakes, hlt _ h.food, hlt _ h.removedSnakes,
    hlt _ h.removedFood]
  simp only [hread₁, hread₂, hread₃, hread₄, ok_bind]
  rfl

end

/-! ### Ids and names -/

/-- The digits, in lower case. -/
def hexChars : List Char :=
  ['0', '1', '2', '3', '4', '5', '6', '7', '8', '9', 'a', 'b', 'c', 'd', 'e', 'f']

/-- Lower case, with its dashes. -/
def CanonicalUuid (id : String) : Prop :=
  ∃ hex : List Char, hex.length = 32 ∧ (∀ c ∈ hex, c ∈ hexChars) ∧ id = dashed hex

/-- A digit is no dash, and is one unit of UTF-16. -/
theorem hexChars_ne_dash (c : Char) (h : c ∈ hexChars) : c ≠ '-' ∧ Utf8.units c = 1 := by
  have hall : (hexChars.all fun c => c ≠ '-' ∧ Utf8.units c = 1) = true := by decide
  exact of_decide_eq_true (List.all_eq_true.mp hall c h)

/-- Two digits are a byte. -/
theorem hexDigits_parseHex {pair : List Char} (hlength : pair.length = 2)
    (hpair : ∀ c ∈ pair, c ∈ hexChars) :
    hexDigits (UInt8.ofNat (parseHex pair % 256 ^ 1).toNat) = pair := by
  have hall : (hexChars.all fun c => hexChars.all fun d =>
      hexDigits (UInt8.ofNat (parseHex [c, d] % 256 ^ 1).toNat) = [c, d]) = true := by
    decide
  obtain ⟨c, d, rfl⟩ := List.length_eq_two.mp hlength
  exact of_decide_eq_true (List.all_eq_true.mp
    (List.all_eq_true.mp hall c (hpair c (by simp))) d (hpair d (by simp)))

/-- The digits of a canonical id, without its dashes. -/
theorem filter_dashed {hex : List Char} (h : ∀ c ∈ hex, c ∈ hexChars) :
    (dashed hex).toList.filter (· ≠ '-') = hex := by
  -- the canonical id is five slices of its digits, with a dash between two of them
  have hkept : ∀ text : List Char, text ⊆ hex → text.filter (· ≠ '-') = text := by
    intro text htext
    exact List.filter_eq_self.mpr fun c hc => decide_eq_true (hexChars_ne_dash c (h c (htext hc))).1
  have hdrop : ∀ n, hex.drop n ⊆ hex := fun n => List.drop_subset n hex
  have htake : ∀ m n, (hex.drop n).take m ⊆ hex := fun m n _ hc =>
    List.mem_of_mem_drop (List.mem_of_mem_take hc)
  have hdash : ∀ text : List Char, ('-' :: text).filter (· ≠ '-') = text.filter (· ≠ '-') :=
    fun _ => rfl
  simp only [dashed, String.toList_ofList, List.filter_append, hdash, hkept _ (htake _ _),
    hkept _ (hdrop _), hkept _ (List.take_subset 8 hex)]
  rw [← List.take_add, ← List.take_add, ← List.take_add, List.take_append_drop]

/-- What is written for an id is read as the id. -/
theorem bytesToUuid_uuidToBytes {id : String} (h : CanonicalUuid id) :
    bytesToUuid (uuidToBytes id) 0 = id := by
  obtain ⟨hex, hlength, hhex, rfl⟩ := h
  have hunits : hex.flatMap (fun c => List.replicate (Utf8.units c) c) = hex := by
    conv_rhs => rw [← List.flatMap_singleton' hex]
    exact List.flatMap_congr fun c hc => by rw [(hexChars_ne_dash c (hhex c hc)).2]; rfl
  have hbytes : uuidToBytes (dashed hex) = (List.range UUID_BYTES).map fun i =>
      UInt8.ofNat (parseHex ((hex.drop (i * 2)).take 2) % 256 ^ 1).toNat := by
    unfold uuidToBytes
    rw [filter_dashed hhex, hunits]
    exact List.flatMap_pure_eq_map _ _
  have hpages := flatMap_pages hex 2 15 UUID_BYTES
  rw [List.take_of_length_le (by rw [hlength]; decide)] at hpages
  unfold bytesToUuid
  refine congrArg dashed (Eq.trans (List.flatMap_congr fun i hi => ?_) hpages)
  rw [List.mem_range, UUID_BYTES] at hi
  rw [if_pos (by omega), hbytes, Nat.zero_add, List.getElem?_map,
    List.getElem?_range (by rwa [UUID_BYTES]), Option.map_some, Option.getD_some]
  refine hexDigits_parseHex ?_ fun c hc => hhex c (List.mem_of_mem_drop (List.mem_of_mem_take hc))
  rw [List.length_take, List.length_drop]
  omega

/-- A decoder drops the mark at the start of a text. -/
def unmarked (nickname : String) : String :=
  match nickname.toList with
  | '\uFEFF' :: text => String.ofList text
  | text => String.ofList text

/-- A nickname comes back but for a mark at its start. -/
theorem decodeText_nicknameBytes (snake : SnakeState) :
    decodeText (nicknameBytes snake) = unmarked snake.nickname := by
  rw [decodeText, nicknameBytes, Utf8.decode_encode]
  rfl

/-! ### The round trip -/

/-- Rounded to quarter units, and clamped to the window around the origin. -/
def quantisedCoordinate (origin : ℚ) : Option ℚ → ℚ
  | none => origin
  | some x => origin + (max (-32768) (min 32767 (round ((x - origin) * 4))) : ℤ) / 4

/-- A point, rounded and clamped about the origin. -/
def quantisedPoint (origin : Vec) (point : Position) : Position :=
  some ⟨quantisedCoordinate origin.x (point.map Vec.x),
    quantisedCoordinate origin.y (point.map Vec.y)⟩

/-- A snake in the units of the wire: the angle in its own, the mass in ones and the radius in
quarters. -/
def quantisedSnake (origin : Vec) (snake : SnakeState) : SnakeState :=
  { snake with
    nickname := unmarked snake.nickname
    points := snake.points.map (quantisedPoint origin)
    angle := some (angleUnits snake.angle / ANGLE_SCALE)
    mass := (min 65535 (round snake.mass) % 65536 : ℤ)
    radius := (min 65535 (round (snake.radius * 4)) % 65536 : ℤ) / 4
    skinId := none }

/-- A pellet in the units of the wire. -/
def quantisedFood (origin : Vec) (food : FoodState) : FoodState :=
  { food with
    position := quantisedPoint origin food.position
    mass := (min 255 (round food.mass) % 256 : ℤ)
    hue := food.id % 360 }

/-- The whole snapshot, quantised. -/
def quantised (origin : Vec) (snapshot : Snapshot) : Snapshot :=
  { snapshot with
    snakes := snapshot.snakes.map (quantisedSnake origin)
    food := snapshot.food.map (quantisedFood origin) }

/-- Canonical ids, and numbers of 32 bits. -/
structure Representable (snapshot : Snapshot) : Prop extends Fits snapshot where
  tick : snapshot.tick < 2 ^ 32
  serverTime : snapshot.serverTime < 2 ^ 32
  ackSeq : snapshot.ackSeq < 2 ^ 32
  ids : ∀ snake ∈ snapshot.snakes, CanonicalUuid snake.id
  foodIds : ∀ food ∈ snapshot.food, food.id < 2 ^ 32
  removedIds : ∀ id ∈ snapshot.removedSnakes, CanonicalUuid id
  removedFoodIds : ∀ id ∈ snapshot.removedFood, id < 2 ^ 32

/-- A reader at the writer's centre sees the point quantised. -/
theorem seenPoint_origin (origin : Vec) (point : Position) :
    seenPoint (some origin) origin point = quantisedPoint origin point := by
  cases point with
  | none => simp [seenPoint, quantisedPoint, quantisedCoordinate, relative, clampI16]
  | some p =>
      simp only [seenPoint, quantisedPoint, quantisedCoordinate, relative, clampI16, POSITION_SCALE,
        Option.map_some, Option.bind_eq_bind, Option.bind_some, add_comm]

theorem toNat_cast {v m : ℤ} (hm : m ≠ 0) : ((v % m).toNat : ℚ) = (v % m : ℤ) := by
  exact_mod_cast Int.toNat_of_nonneg (Int.emod_nonneg v hm)

/-- A reader at the writer's centre sees the snake quantised, under its own id. -/
theorem seenSnake_origin (origin : Vec) {snake : SnakeState} (hid : CanonicalUuid snake.id) :
    seenSnake (some origin) origin snake = quantisedSnake origin snake := by
  have hangle : ((angleUnits snake.angle % 256 ^ 2).toNat : ℚ) = angleUnits snake.angle := by
    cases hangle : snake.angle with
    | none => rfl
    | some angle =>
        obtain ⟨hnonneg, hlt, -⟩ := angleUnits_spec angle
        rw [Int.emod_eq_of_lt hnonneg hlt]
        exact_mod_cast Int.toNat_of_nonneg hnonneg
  have hpoints : seenPoint (some origin) origin = quantisedPoint origin :=
    funext (seenPoint_origin origin)
  rw [seenSnake, bytesToUuid_uuidToBytes hid, decodeText_nicknameBytes, hangle, hpoints,
    toNat_cast (by decide), toNat_cast (by decide)]
  rfl

/-- A reader at the writer's centre sees the pellet quantised. -/
theorem seenFood_origin (origin : Vec) {food : FoodState} (hid : food.id < 2 ^ 32) :
    seenFood (some origin) origin food = quantisedFood origin food := by
  have hmod : food.id % 256 ^ 4 = food.id := Nat.mod_eq_of_lt hid
  rw [seenFood, hmod, seenPoint_origin, toNat_cast (by decide)]
  rfl

/-- A canonical id. -/
def aliceId : String := "123e4567-e89b-12d3-a456-426614174000"

theorem aliceId_canonical : CanonicalUuid aliceId := by
  have hall : ("123e4567e89b12d3a456426614174000".toList.all (· ∈ hexChars)) = true := by
    decide
  exact ⟨_, by decide, fun c hc => of_decide_eq_true (List.all_eq_true.mp hall c hc),
    by decide⟩

/-- One snake, one pellet, and one of each removed. -/
def smallSnapshot (nickname : String) : Snapshot where
  tick := 4242
  serverTime := 123456
  ackSeq := 99
  snakes :=
    [⟨aliceId, nickname, [some ⟨1010, -490⟩, none], some (-5 / 2), 250, 67 / 2, true, none, false⟩]
  food := [⟨7, some ⟨1050, -450⟩, 4, 120⟩]
  removedSnakes := [aliceId]
  removedFood := [11]

/-- A short nickname is all that the snapshot needs. -/
theorem smallSnapshot_representable {nickname : String}
    (h : (Utf8.encode nickname.toList).length ≤ 255) :
    Representable (smallSnapshot nickname) := by
  refine ⟨⟨?_, ?_, ?_, ?_, List.forall_mem_singleton.mpr ⟨h, ?_⟩⟩, ?_, ?_, ?_,
    List.forall_mem_singleton.mpr aliceId_canonical, List.forall_mem_singleton.mpr ?_,
    List.forall_mem_singleton.mpr aliceId_canonical, List.forall_mem_singleton.mpr ?_⟩
  all_goals simp [smallSnapshot]

end SnakeArena.Protocol
