import Mathlib.Algebra.Order.Round
import Mathlib.Tactic.FieldSimp
import Mathlib.Tactic.Linarith
import Mathlib.Tactic.Positivity
import SnakeArena.Library.Buffers
import SnakeArena.Library.Utf8
import SnakeArena.Protocol.Snapshot

/-!
# Protocol — the binary snapshot codec (`binary.ts`)

`encodeSnapshot` packs a snapshot for one viewer, and `decodeSnapshot` mirrors it on the client.
Positions travel relative to an origin that is not in the buffer.

Numbers are rationals, as in the game: a coordinate that is not finite is none, and is written as
zero.  A text is a list of characters, so that it is well formed.  `layout` is what the buffer of
a snapshot holds (`encodeSnapshot_eq`); the buffer is as long as it, which the estimate bounds.
-/

namespace SnakeArena.Protocol
open SnakeArena.Library SnakeArena.Game Borsh Buffers

/-! ### Constants -/

def MessageType.snapshot : ℕ := 1

def MessageType.inputBatch : ℕ := 2

def SnapshotFlags.full : ℕ := 1

def HEADER_BYTES : ℕ := 22

/-- Quantisation scale for world coordinates packed as i16. -/
def POSITION_SCALE : ℚ := 4

/-- Angles are packed into a u16 over the full turn. -/
def ANGLE_SCALE : ℚ := 65535 / (PI * 2)

def UUID_BYTES : ℕ := 16

structure EncodeSnapshotOptions where
  /-- Viewer position; positions are encoded relative to it. -/
  origin : Position
  full : Bool

/-! ### Encoding -/

/-- The view writes zero for what is not a number. -/
def clampI16 : Option ℚ → ℤ
  | none => 0
  | some value => max (-32768) (min 32767 (round value))

/-- The digit, of either case. -/
def hexValue (c : Char) : Option ℕ :=
  if '0' ≤ c ∧ c ≤ '9' then some (c.toNat - '0'.toNat)
  else if 'a' ≤ c ∧ c ≤ 'f' then some (c.toNat - 'a'.toNat + 10)
  else if 'A' ≤ c ∧ c ≤ 'F' then some (c.toNat - 'A'.toNat + 10)
  else none

/-- What a number may have before it. -/
def isSpace (c : Char) : Bool :=
  c.toNat ∈ [0x09, 0x0A, 0x0B, 0x0C, 0x0D, 0x20, 0xA0, 0x1680, 0x2028, 0x2029, 0x202F, 0x205F,
    0x3000, 0xFEFF] ∨ 0x2000 ≤ c.toNat ∧ c.toNat ≤ 0x200A

/-- `Number.parseInt(text, 16)`, where `NaN` is zero, as the array writes it. -/
def parseHex (text : List Char) : ℤ :=
  let text := text.dropWhile isSpace
  let sign : ℤ := if text.head? = some '-' then -1 else 1
  let text := if text.head? = some '-' ∨ text.head? = some '+' then text.tail else text
  let text := if text.take 2 = ['0', 'x'] ∨ text.take 2 = ['0', 'X'] then text.drop 2 else text
  let digits := (text.takeWhile fun c => (hexValue c).isSome).filterMap hexValue
  sign * (digits.foldl (fun n d => 16 * n + d) 0 : ℕ)

/-- The bytes that are written for a UUID. -/
def uuidToBytes (uuid : String) : Bytes :=
  let hex := (uuid.toList.filter (· ≠ '-')).flatMap fun c => List.replicate (Utf8.units c) c
  (List.range UUID_BYTES).flatMap fun i => intBytes 1 (parseHex ((hex.drop (i * 2)).take 2))

/-- Upper bound on the encoded size, used to size the buffer. -/
def estimateSize (snapshot : Snapshot) : ℕ :=
  HEADER_BYTES +
    (snapshot.snakes.map fun snake =>
      UUID_BYTES + 1 + Utf8.utf16Length snake.nickname.toList * 3 + 2 + 2 + 2 + 1 + 2 +
        snake.points.length * 4).sum +
    snapshot.food.length * 9 + snapshot.removedSnakes.length * UUID_BYTES +
    snapshot.removedFood.length * 4

/-- A coordinate relative to the origin's. -/
def relative (coordinate : Vec → ℚ) (origin p : Position) : Option ℚ := do
  let p ← p
  let origin ← origin
  (coordinate p - coordinate origin) * POSITION_SCALE

/-- Into `[0, 2π)`: a negative angle would wrap to a huge u16. -/
def normalised (angle : ℚ) : ℚ := remainder (remainder angle (PI * 2) + PI * 2) (PI * 2)

def angleUnits : Option ℚ → ℤ
  | none => 0
  | some angle => round (normalised angle * ANGLE_SCALE)

def flagsOf (snake : SnakeState) : ℕ :=
  (if snake.boosting then 1 else 0) ||| (if snake.isBot then 2 else 0)

/-- `bytes.set`: it throws when there is no room. -/
def set (bs : Bytes) (s : Cursor) : Except RangeError Cursor := do
  let buffer ← setBytes s.buffer s.offset bs
  .ok ⟨buffer, s.offset + bs.length⟩

def putUuid (uuid : String) (s : Cursor) : Except RangeError Cursor :=
  .ok ⟨put s.buffer s.offset (uuidToBytes uuid), s.offset + UUID_BYTES⟩

def putInt (width : ℕ) (v : ℤ) (s : Cursor) : Except RangeError Cursor := do
  let buffer ← setInt width s.buffer s.offset v
  .ok ⟨buffer, s.offset + width⟩

def putPoint (origin : Position) (s : Cursor) (point : Position) : Except RangeError Cursor := do
  let buffer ← setInt 2 s.buffer s.offset (clampI16 (relative Vec.x origin point))
  let buffer ← setInt 2 buffer (s.offset + 2) (clampI16 (relative Vec.y origin point))
  .ok ⟨buffer, s.offset + 4⟩

def putSnake (origin : Position) (s : Cursor) (snake : SnakeState) : Except RangeError Cursor := do
  let s ← putUuid snake.id s
  let nickname := Utf8.encode snake.nickname.toList
  let s ← putInt 1 nickname.length s
  let s ← set nickname s
  let s ← putInt 2 (angleUnits snake.angle) s
  let s ← putInt 2 (min 65535 (round snake.mass)) s
  let s ← putInt 2 (min 65535 (round (snake.radius * 4))) s
  let s ← putInt 1 (flagsOf snake) s
  let s ← putInt 2 snake.points.length s
  snake.points.foldlM (putPoint origin) s

def putFood (origin : Position) (s : Cursor) (food : FoodState) : Except RangeError Cursor := do
  let buffer ← setInt 4 s.buffer s.offset food.id
  let buffer ← setInt 2 buffer (s.offset + 4) (clampI16 (relative Vec.x origin food.position))
  let buffer ← setInt 2 buffer (s.offset + 6) (clampI16 (relative Vec.y origin food.position))
  let buffer ← setInt 1 buffer (s.offset + 8) (min 255 (round food.mass))
  .ok ⟨buffer, s.offset + 9⟩

def putHeader (snapshot : Snapshot) (full : Bool) (buffer : Bytes) : Except RangeError Bytes := do
  let buffer ← setInt 1 buffer 0 MessageType.snapshot
  let buffer ← setInt 1 buffer 1 (if full then SnapshotFlags.full else 0)
  let buffer ← setInt 2 buffer 2 snapshot.snakes.length
  let buffer ← setInt 2 buffer 4 snapshot.food.length
  let buffer ← setInt 2 buffer 6 snapshot.removedSnakes.length
  let buffer ← setInt 2 buffer 8 snapshot.removedFood.length
  let buffer ← setInt 4 buffer 10 snapshot.tick
  let buffer ← setInt 4 buffer 14 snapshot.serverTime
  setInt 4 buffer 18 snapshot.ackSeq

/-- Packs a snapshot for one viewer. -/
def encodeSnapshot (snapshot : Snapshot) (options : EncodeSnapshotOptions) :
    Except RangeError Bytes := do
  let buffer := List.replicate (estimateSize snapshot) 0
  let buffer ← putHeader snapshot options.full buffer
  let s ← snapshot.snakes.foldlM (putSnake options.origin) ⟨buffer, HEADER_BYTES⟩
  let s ← snapshot.food.foldlM (putFood options.origin) s
  let s ← snapshot.removedSnakes.foldlM (fun s id => putUuid id s) s
  let s ← snapshot.removedFood.foldlM (fun s (id : ℕ) => putInt 4 id s) s
  -- trimmed to what was actually written
  .ok (s.buffer.take s.offset)

/-! ### Decoding -/

def hexDigit (n : ℕ) : Char :=
  if n < 10 then Char.ofNat ('0'.toNat + n) else Char.ofNat ('a'.toNat + (n - 10))

/-- Two digits. -/
def hexDigits (b : UInt8) : List Char := [hexDigit (b.toNat / 16), hexDigit (b.toNat % 16)]

/-- The text of a UUID. -/
def dashed (hex : List Char) : String :=
  String.ofList (hex.take 8 ++ '-' :: (hex.drop 8).take 4 ++ '-' :: (hex.drop 12).take 4 ++
    '-' :: (hex.drop 16).take 4 ++ '-' :: hex.drop 20)

/-- A byte that is not there is zero. -/
def bytesToUuid (bytes : Bytes) (offset : ℕ) : String :=
  dashed ((List.range UUID_BYTES).flatMap fun i => hexDigits (bytes[offset + i]?.getD 0))

/-- `TextDecoder`: it drops a byte order mark. -/
def decodeText (bytes : Bytes) : String :=
  match Utf8.decode bytes with
  | '\uFEFF' :: text => String.ofList text
  | text => String.ofList text

def getPoint (buffer : Bytes) (origin : Vec) (offset : ℕ) : Except RangeError (Position × ℕ) := do
  let x ← getInt 2 buffer offset
  let y ← getInt 2 buffer (offset + 2)
  .ok (some ⟨x / POSITION_SCALE + origin.x, y / POSITION_SCALE + origin.y⟩, offset + 4)

def getSnake (buffer : Bytes) (origin : Vec) (offset : ℕ) : Except RangeError (SnakeState × ℕ) := do
  let id := bytesToUuid buffer offset
  let offset := offset + UUID_BYTES
  let nicknameLength ← getUint 1 buffer offset
  let offset := offset + 1
  let nickname := decodeText ((buffer.drop offset).take nicknameLength)
  let offset := offset + nicknameLength
  let angle ← getUint 2 buffer offset
  let offset := offset + 2
  let mass ← getUint 2 buffer offset
  let offset := offset + 2
  let radius ← getUint 2 buffer offset
  let offset := offset + 2
  let flags ← getUint 1 buffer offset
  let offset := offset + 1
  let pointCount ← getUint 2 buffer offset
  let offset := offset + 2
  let (points, offset) ← readMany (getPoint buffer origin) pointCount offset
  .ok (⟨id, nickname, points, some (angle / ANGLE_SCALE), mass, radius / 4, flags &&& 1 ≠ 0, none,
    flags &&& 2 ≠ 0⟩, offset)

def getFood (buffer : Bytes) (origin : Vec) (offset : ℕ) : Except RangeError (FoodState × ℕ) := do
  let id ← getUint 4 buffer offset
  let x ← getInt 2 buffer (offset + 4)
  let y ← getInt 2 buffer (offset + 6)
  let mass ← getUint 1 buffer (offset + 8)
  -- the hue is not transmitted: the id decides it
  .ok (⟨id, some ⟨x / POSITION_SCALE + origin.x, y / POSITION_SCALE + origin.y⟩, mass, id % 360⟩,
    offset + 9)

def getUuid (buffer : Bytes) (offset : ℕ) : Except RangeError (String × ℕ) :=
  .ok (bytesToUuid buffer offset, offset + UUID_BYTES)

def getId (buffer : Bytes) (offset : ℕ) : Except RangeError (ℕ × ℕ) := do
  let id ← getUint 4 buffer offset
  .ok (id, offset + 4)

/-- Mirror of the encoder, run on the client. -/
def decodeSnapshot (buffer : Bytes) (origin : Vec) : Except RangeError Snapshot :=
  if buffer.length < HEADER_BYTES then .error ⟨"Snapshot buffer is shorter than its header"⟩
  else do
    let messageType ← getUint 1 buffer 0
    if messageType ≠ MessageType.snapshot then
      .error ⟨s!"Expected a snapshot message, got type {messageType}"⟩
    else do
      let snakeCount ← getUint 2 buffer 2
      let foodCount ← getUint 2 buffer 4
      let removedSnakeCount ← getUint 2 buffer 6
      let removedFoodCount ← getUint 2 buffer 8
      let tick ← getUint 4 buffer 10
      let serverTime ← getUint 4 buffer 14
      let ackSeq ← getUint 4 buffer 18
      let (snakes, offset) ← readMany (getSnake buffer origin) snakeCount HEADER_BYTES
      let (food, offset) ← readMany (getFood buffer origin) foodCount offset
      let (removedSnakes, offset) ← readMany (getUuid buffer) removedSnakeCount offset
      let (removedFood, _) ← readMany (getId buffer) removedFoodCount offset
      .ok ⟨tick, serverTime, ackSeq, snakes, food, removedSnakes, removedFood⟩

/-! ### Angles -/

theorem PI_pos : (0 : ℚ) < PI := by
  norm_num [PI]

theorem remainder_of_nonneg {x y : ℚ} (hy : 0 < y) (hx : 0 ≤ x) :
    0 ≤ remainder x y ∧ remainder x y < y ∧ ∃ k : ℤ, remainder x y = x + k * y := by
  have hdiv : 0 ≤ x / y := by positivity
  have hfract : remainder x y = Int.fract (x / y) * y := by
    rw [remainder, if_pos hdiv, Int.fract]
    field_simp
  refine ⟨?_, ?_, -⌊x / y⌋, ?_⟩
  · rw [hfract]
    exact mul_nonneg (Int.fract_nonneg _) hy.le
  · rw [hfract]
    exact mul_lt_of_lt_one_left hy (Int.fract_lt_one _)
  · rw [remainder, if_pos hdiv]
    push_cast
    ring

/-- A remainder is less than a turn below zero. -/
theorem neg_lt_remainder {x y : ℚ} (hy : 0 < y) :
    -y < remainder x y ∧ ∃ k : ℤ, remainder x y = x + k * y := by
  rcases le_or_gt 0 x with hx | hx
  · obtain ⟨hnonneg, -, hk⟩ := remainder_of_nonneg hy hx
    exact ⟨by linarith, hk⟩
  · have hdiv : x / y < 0 := div_neg_of_neg_of_pos hx hy
    have hceil := Int.ceil_lt_add_one (x / y)
    have hx' : x / y * y = x := div_mul_cancel₀ x hy.ne'
    refine ⟨?_, -⌈x / y⌉, ?_⟩
    · rw [remainder, if_neg hdiv.not_ge]
      have hlt := mul_lt_mul_of_pos_right hceil hy
      rw [add_mul, hx', one_mul] at hlt
      linarith
    · rw [remainder, if_neg hdiv.not_ge]
      push_cast
      ring

/-- Within the turn, and so many turns away. -/
theorem normalised_spec (angle : ℚ) :
    0 ≤ normalised angle ∧ normalised angle < PI * 2 ∧
      ∃ turns : ℤ, normalised angle = angle + turns * (PI * 2) := by
  have hturn : 0 < PI * 2 := mul_pos PI_pos two_pos
  obtain ⟨hlt, k, hk⟩ := neg_lt_remainder (x := angle) hturn
  obtain ⟨hnonneg, hlt', k', hk'⟩ :=
    remainder_of_nonneg (x := remainder angle (PI * 2) + PI * 2) hturn (by linarith)
  refine ⟨hnonneg, hlt', k + 1 + k', ?_⟩
  rw [normalised, hk', hk]
  push_cast
  ring

theorem ANGLE_SCALE_pos : 0 < ANGLE_SCALE := by
  have := PI_pos
  unfold ANGLE_SCALE
  positivity

theorem div_ANGLE_SCALE (units : ℚ) : units / ANGLE_SCALE = units * (PI * 2) / 65535 := by
  have := PI_pos
  unfold ANGLE_SCALE
  field_simp

/-- An angle in units is one of two bytes, and half a unit away at most. -/
theorem angleUnits_spec (angle : ℚ) :
    0 ≤ angleUnits (some angle) ∧ angleUnits (some angle) < 256 ^ 2 ∧
      |angleUnits (some angle) / ANGLE_SCALE - normalised angle| ≤ PI / 65535 := by
  obtain ⟨hnonneg, hlt, -⟩ := normalised_spec angle
  have hpi := PI_pos
  have hscale := ANGLE_SCALE_pos
  have hpos : 0 ≤ normalised angle * ANGLE_SCALE := by positivity
  have hmax : normalised angle * ANGLE_SCALE < 65535 := by
    unfold ANGLE_SCALE
    rw [mul_div_assoc', div_lt_iff₀ (by positivity), mul_comm]
    exact mul_lt_mul_of_pos_left hlt (by norm_num)
  have hround := abs_sub_round (normalised angle * ANGLE_SCALE)
  rw [abs_le] at hround
  have hlo : (-1 : ℚ) < angleUnits (some angle) := by
    unfold angleUnits
    linarith
  have hhi : (angleUnits (some angle) : ℚ) < 65536 := by
    unfold angleUnits
    linarith
  refine ⟨?_, ?_, ?_⟩
  · have : (-1 : ℤ) < angleUnits (some angle) := by exact_mod_cast hlo
    omega
  · exact_mod_cast hhi
  · have hunits : (angleUnits (some angle) : ℚ) / ANGLE_SCALE - normalised angle =
        -(normalised angle * ANGLE_SCALE - round (normalised angle * ANGLE_SCALE)) /
          ANGLE_SCALE := by
      unfold angleUnits
      field_simp
      ring
    rw [hunits, abs_div, abs_neg, abs_of_pos hscale, div_le_iff₀ hscale]
    have hhalf : PI / 65535 * ANGLE_SCALE = 1 / 2 := by
      unfold ANGLE_SCALE
      field_simp
    rw [hhalf]
    exact abs_sub_round _

end SnakeArena.Protocol
