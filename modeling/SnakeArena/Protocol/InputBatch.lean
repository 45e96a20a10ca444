import SnakeArena.Protocol.Binary

/-!
# Protocol — input batches (`binary.ts`)

`encodeInputBatch` packs the commands of a client, and `decodeInputBatch` unpacks them on the
server, where the bytes are whatever a client sent.

* `inputBatch_faithful`: the commands arrive in order, and what is left of an angle is a whole
  number of units.  A clock has 32 bits on the way, and a `dt` one byte.
-/

namespace SnakeArena.Protocol
open SnakeArena.Library SnakeArena.Game Borsh Buffers

structure InputBatch where
  commands : List InputCommand
  clientTime : Game.Num
deriving DecidableEq

/-! ### Encoding -/

/-- What a view writes for a number, whose fraction it drops. -/
def integerOf : Game.Num → ℤ
  | .finite q => if 0 ≤ q then ⌊q⌋ else ⌈q⌉
  | .infinity | .negInfinity | .nan => 0

/-- `Math.min(255, Math.round(dt))`, as a view writes it. -/
def dtByte : Game.Num → ℤ
  | .finite dt => min 255 (round dt)
  | .infinity => 255
  | .negInfinity | .nan => 0

def putCommand (s : Cursor) (command : InputCommand) : Except RangeError Cursor := do
  let buffer ← setInt 4 s.buffer s.offset (integerOf command.seq)
  let buffer ← setInt 2 buffer (s.offset + 4) (angleUnits command.angle.finite?)
  let buffer ← setInt 1 buffer (s.offset + 6) (if command.boost then 1 else 0)
  let buffer ← setInt 1 buffer (s.offset + 7) (dtByte command.dt)
  .ok ⟨buffer, s.offset + 8⟩

/-- Client-side input packing. -/
def encodeInputBatch (batch : InputBatch) : Except RangeError Bytes := do
  let buffer := List.replicate (6 + batch.commands.length * 8) 0
  let buffer ← setInt 1 buffer 0 MessageType.inputBatch
  let buffer ← setInt 1 buffer 1 batch.commands.length
  let buffer ← setInt 4 buffer 2 (integerOf batch.clientTime)
  let s ← batch.commands.foldlM putCommand ⟨buffer, 6⟩
  .ok s.buffer

/-! ### Decoding -/

/-- The wire format carries `[0, 2π)`. -/
def angleOfUnits (units : ℕ) : ℚ :=
  let angle := units / ANGLE_SCALE
  if PI < angle then angle - PI * 2 else angle

def getCommand (buffer : Bytes) (offset : ℕ) : Except RangeError (InputCommand × ℕ) := do
  let units ← getUint 2 buffer (offset + 4)
  let seq ← getUint 4 buffer offset
  let boost ← getUint 1 buffer (offset + 6)
  let dt ← getUint 1 buffer (offset + 7)
  .ok (⟨.finite seq, .finite (angleOfUnits units), boost = 1, .finite dt⟩, offset + 8)

/-- Server-side input unpacking. -/
def decodeInputBatch (buffer : Bytes) : Except RangeError InputBatch :=
  if buffer.length < 6 then .error ⟨"Input batch is too short"⟩
  else do
    let messageType ← getUint 1 buffer 0
    if messageType ≠ MessageType.inputBatch then .error ⟨"Not an input batch message"⟩
    else do
      let count ← getUint 1 buffer 1
      if count = 0 ∨ 10 < count then .error ⟨s!"Invalid input batch size: {count}"⟩
      else if buffer.length < 6 + count * 8 then
        .error ⟨"Input batch is shorter than its declared command count"⟩
      else do
        let (commands, _) ← readMany (getCommand buffer) count 6
        let clientTime ← getUint 4 buffer 2
        .ok ⟨commands, .finite clientTime⟩

/-! ### Angles -/

theorem angleOfUnits_mem {units : ℕ} (h : units < 256 ^ 2) :
    -PI < angleOfUnits units ∧ angleOfUnits units ≤ PI := by
  have hpi := PI_pos
  have hmax : (units : ℚ) ≤ 65535 := by
    have : units ≤ 65535 := by omega
    exact_mod_cast this
  have hturn : units / ANGLE_SCALE ≤ PI * 2 := by
    rw [div_ANGLE_SCALE, div_le_iff₀ (by norm_num), mul_comm]
    exact mul_le_mul_of_nonneg_left hmax (by positivity)
  have hnonneg : 0 ≤ units / ANGLE_SCALE := div_nonneg (Nat.cast_nonneg _) ANGLE_SCALE_pos.le
  unfold angleOfUnits
  dsimp only
  split_ifs with hhalf
  · exact ⟨by linarith, by linarith⟩
  · exact ⟨by linarith, not_lt.mp hhalf⟩

theorem angleOfUnits_turns (units : ℕ) :
    ∃ turns : ℤ, angleOfUnits units = units / ANGLE_SCALE + turns * (PI * 2) := by
  unfold angleOfUnits
  dsimp only
  split_ifs
  · exact ⟨-1, by push_cast; ring⟩
  · exact ⟨0, by push_cast; ring⟩

/-! ### Any bytes -/

/-- A command that can be in a decoded batch. -/
def Bounded (command : InputCommand) : Prop :=
  ∃ (angle : ℚ) (dt : ℕ), command.angle = .finite angle ∧ command.dt = .finite dt ∧
    -PI < angle ∧ angle ≤ PI ∧ dt < 256

theorem getCommand_inside {fixed : Bytes} (offset : ℕ) (h : offset + 8 ≤ fixed.length) :
    ∃ command, Bounded command ∧ ∀ rest,
      getCommand (fixed ++ rest) offset = .ok (command, offset + 8) := by
  obtain ⟨units, hunits, hget₂⟩ := @getUint_inside 2 (offset + 4) fixed (by omega)
  obtain ⟨seq, -, hget₄⟩ := @getUint_inside 4 offset fixed (by omega)
  obtain ⟨boost, -, hget₁⟩ := @getUint_inside 1 (offset + 6) fixed (by omega)
  obtain ⟨dt, hdt, hget₁'⟩ := @getUint_inside 1 (offset + 7) fixed (by omega)
  obtain ⟨hlo, hhi⟩ := angleOfUnits_mem hunits
  refine ⟨⟨.finite seq, .finite (angleOfUnits units), boost = 1, .finite dt⟩,
    ⟨_, dt, rfl, rfl, hlo, hhi, hdt⟩, fun rest => ?_⟩
  rw [getCommand, hget₂, hget₄, hget₁, hget₁']
  rfl

/-- A batch whose parts can all be read. -/
theorem decodeInputBatch_ok {buffer : Bytes} {count clientTime next : ℕ}
    {commands : List InputCommand} (hlength : 6 + count * 8 ≤ buffer.length) (hone : 1 ≤ count)
    (hten : count ≤ 10) (htype : getUint 1 buffer 0 = .ok MessageType.inputBatch)
    (hcount : getUint 1 buffer 1 = .ok count)
    (hcommands : readMany (getCommand buffer) count 6 = .ok (commands, next))
    (hclock : getUint 4 buffer 2 = .ok clientTime) :
    decodeInputBatch buffer = .ok ⟨commands, .finite clientTime⟩ := by
  rw [decodeInputBatch, if_neg (by omega), htype, ok_bind, if_neg (not_not.mpr rfl),
    hcount, ok_bind,
    if_neg (by omega), if_neg (by omega), hcommands, ok_bind]
  dsimp only
  rw [hclock, ok_bind]

/-- What decoding any bytes comes to: a message of its own, or a batch that only the bytes that
the count declares have a part in. -/
theorem decodeInputBatch_safe (buffer : Bytes) :
    (∃ e, decodeInputBatch buffer = .error e ∧ e ≠ outOfBounds) ∨
      ∃ batch, decodeInputBatch buffer = .ok batch ∧ 1 ≤ batch.commands.length ∧
        batch.commands.length ≤ 10 ∧ 6 + batch.commands.length * 8 ≤ buffer.length ∧
        (∀ command ∈ batch.commands, Bounded command) ∧
        ∀ rest, decodeInputBatch (buffer.take (6 + batch.commands.length * 8) ++ rest) =
          .ok batch := by
  by_cases hshort : buffer.length < 6
  · left
    exact ⟨_, if_pos hshort, by decide⟩
  have hsix : (buffer.take 6).length = 6 := by
    rw [List.length_take]
    omega
  obtain ⟨messageType, -, htype⟩ := @getUint_inside 1 0 (buffer.take 6) (by omega)
  obtain ⟨count, -, hcount⟩ := @getUint_inside 1 1 (buffer.take 6) (by omega)
  obtain ⟨clientTime, -, hclock⟩ := @getUint_inside 4 2 (buffer.take 6) (by omega)
  have hbuffer : buffer = buffer.take 6 ++ buffer.drop 6 := (List.take_append_drop 6 buffer).symm
  have htype' := htype (buffer.drop 6)
  have hcount' := hcount (buffer.drop 6)
  rw [← hbuffer] at htype' hcount'
  by_cases hmessage : messageType = MessageType.inputBatch
  swap
  · refine .inl ⟨⟨"Not an input batch message"⟩, ?_, by decide⟩
    rw [decodeInputBatch, if_neg hshort, htype', ok_bind, if_pos hmessage]
  subst hmessage
  by_cases hsize : count = 0 ∨ 10 < count
  · refine .inl ⟨⟨s!"Invalid input batch size: {count}"⟩, ?_, ?_⟩
    · rw [decodeInputBatch, if_neg hshort, htype', ok_bind, if_neg (not_not.mpr rfl), hcount',
        ok_bind, if_pos hsize]
    · intro h
      have hfirst := congrArg (fun e : RangeError => e.message.toList.head?) h
      have hI : (toString "Invalid input batch size: ").toList.head? = some 'I' := rfl
      simp only [String.toList_append, List.head?_append, hI, Option.some_or] at hfirst
      exact absurd hfirst (by decide)
  by_cases hlength : buffer.length < 6 + count * 8
  · refine .inl ⟨⟨"Input batch is shorter than its declared command count"⟩, ?_, by decide⟩
    rw [decodeInputBatch, if_neg hshort, htype', ok_bind, if_neg (not_not.mpr rfl), hcount',
      ok_bind, if_neg hsize, if_pos hlength]
  · right
    have hfixed : (buffer.take (6 + count * 8)).length = 6 + count * 8 := by
      rw [List.length_take]
      omega
    obtain ⟨commands, hn, hbounded, hcommands⟩ :=
      readMany_inside (fun offset h => getCommand_inside offset (hfixed ▸ h))
        (le_refl (6 + count * 8))
    have hall : ∀ rest, decodeInputBatch (buffer.take (6 + count * 8) ++ rest) =
        .ok ⟨commands, .finite clientTime⟩ := by
      intro rest
      have happend : buffer.take (6 + count * 8) ++ rest =
          buffer.take 6 ++ ((buffer.drop 6).take (count * 8) ++ rest) := by
        rw [List.take_add, List.append_assoc]
      refine decodeInputBatch_ok (by rw [List.length_append]; omega) (by omega) (by omega) ?_ ?_
        (hcommands rest) ?_
      · rw [happend, htype]
      · rw [happend, hcount]
      · rw [happend, hclock]
    refine ⟨⟨commands, .finite clientTime⟩, ?_, ?_, ?_, ?_, hbounded, ?_⟩
    · have := hall (buffer.drop (6 + count * 8))
      rwa [List.take_append_drop] at this
    · dsimp only
      omega
    · dsimp only
      omega
    · dsimp only
      omega
    · dsimp only
      rw [hn]
      exact hall

/-! ### What was encoded -/

/-- What is on the wire of a command. -/
def commandBytes (command : InputCommand) : Bytes :=
  intBytes 4 (integerOf command.seq) ++ intBytes 2 (angleUnits command.angle.finite?) ++
    intBytes 1 (if command.boost then 1 else 0) ++ intBytes 1 (dtByte command.dt)

@[simp] theorem length_commandBytes (command : InputCommand) :
    (commandBytes command).length = 8 := by
  simp only [commandBytes, List.length_append, length_intBytes]

theorem writes_command (command : InputCommand) :
    Writes (fun s => putCommand s command) (commandBytes command) := by
  intro size out buffer h hfits
  rw [length_commandBytes] at hfits ⊢
  obtain ⟨buffer₁, h₁, hw₁⟩ := @Written.setInt _ _ _ h 4 _ (integerOf command.seq) rfl (by omega)
  obtain ⟨buffer₂, h₂, hw₂⟩ := @Written.setInt _ _ _ hw₁ 2 (out.length + 4)
    (angleUnits command.angle.finite?) (by simp) (by omega)
  obtain ⟨buffer₃, h₃, hw₃⟩ := @Written.setInt _ _ _ hw₂ 1 (out.length + 6)
    (if command.boost then 1 else 0) (by simp) (by omega)
  obtain ⟨buffer₄, h₄, hw₄⟩ := @Written.setInt _ _ _ hw₃ 1 (out.length + 7)
    (dtByte command.dt) (by simp) (by omega)
  refine ⟨buffer₄, ?_, ?_⟩
  · simp only [putCommand, h₁, h₂, h₃, h₄, ok_bind]
  · simpa only [commandBytes, List.append_assoc] using hw₄

/-- The command that arrives. -/
def received (command : InputCommand) : InputCommand where
  seq := .finite (integerOf command.seq % 256 ^ 4).toNat
  angle := .finite (angleOfUnits (angleUnits command.angle.finite? % 256 ^ 2).toNat)
  boost := command.boost
  dt := .finite (dtByte command.dt % 256 ^ 1).toNat

theorem readsAt_command (buffer : Bytes) (command : InputCommand) :
    ReadsAt buffer (getCommand buffer) (commandBytes command) (received command) := by
  intro offset h
  obtain ⟨h, h₇⟩ := h.append
  obtain ⟨h, h₆⟩ := h.append
  obtain ⟨h₀, h₄⟩ := h.append
  simp only [List.length_append, length_intBytes, ← Nat.add_assoc] at h₄ h₆ h₇
  have hboost : (((if command.boost then 1 else 0 : ℤ) % 256 ^ 1).toNat = 1) = command.boost := by
    cases command.boost <;> simp
  simp only [getCommand, getUint_mod two_pos h₄, getUint_mod four_pos h₀, getUint_mod one_pos h₆,
    getUint_mod one_pos h₇, ok_bind, length_commandBytes, received, hboost, Bool.decide_eq_true]

/-- What is on the wire of a batch. -/
def batchBytes (batch : InputBatch) : Bytes :=
  intBytes 1 MessageType.inputBatch ++ intBytes 1 batch.commands.length ++
    intBytes 4 (integerOf batch.clientTime) ++ batch.commands.flatMap commandBytes

theorem length_flatMap_commandBytes (commands : List InputCommand) :
    (commands.flatMap commandBytes).length = commands.length * 8 := by
  induction commands with
  | nil => rfl
  | cons command commands ih =>
      rw [List.flatMap_cons, List.length_append, length_commandBytes, ih, List.length_cons]
      ring

theorem encodeInputBatch_eq (batch : InputBatch) :
    encodeInputBatch batch = .ok (batchBytes batch) := by
  have hcommands := length_flatMap_commandBytes batch.commands
  obtain ⟨size, hsize⟩ : ∃ size, size = 6 + batch.commands.length * 8 := ⟨_, rfl⟩
  obtain ⟨buffer₁, h₁, hw₁⟩ := @Written.setInt size _ _ (Written.zero size) 1 0
    MessageType.inputBatch rfl (by omega)
  obtain ⟨buffer₂, h₂, hw₂⟩ := @Written.setInt size _ _ hw₁ 1 1 batch.commands.length rfl (by omega)
  obtain ⟨buffer₃, h₃, hw₃⟩ := @Written.setInt size _ _ hw₂ 4 2 (integerOf batch.clientTime) rfl
    (by omega)
  have hsix : (([] ++ intBytes 1 MessageType.inputBatch ++ intBytes 1 batch.commands.length ++
      intBytes 4 (integerOf batch.clientTime) : Bytes)).length = 6 := by
    simp
  obtain ⟨buffer₄, h₄, hw₄⟩ := Writes.foldlM writes_command size _ _ hw₃
    (by rw [hsix, hcommands, hsize])
  rw [hsix] at h₄
  have hfull := hw₄.full (by rw [List.length_append, hsix, hcommands, hsize])
  simp only [encodeInputBatch, ← hsize, h₁, h₂, h₃, ok_bind, h₄]
  exact congrArg Except.ok hfull

/-- What a command keeps on the way. -/
structure Faithful (sent received : InputCommand) : Prop where
  seq : received.seq = sent.seq
  boost : received.boost = sent.boost
  angle : ∃ a b : ℚ, sent.angle = .finite a ∧ received.angle = .finite b ∧
    ∃ turns : ℤ, |b - (a + turns * (PI * 2))| ≤ PI * 2 / 65535 / 2
  dt : received.dt = .finite (dtByte sent.dt % 256 : ℤ)
  rounded : ∀ dt : ℚ, 0 ≤ dt → sent.dt = .finite dt →
    received.dt = .finite (min 255 (round dt) : ℤ)

/-- What a client can number and point at. -/
structure Sendable (command : InputCommand) : Prop where
  seq : ∃ n : ℕ, command.seq = .finite n ∧ n < 2 ^ 32
  angle : ∃ a : ℚ, command.angle = .finite a

theorem integerOf_natCast (n : ℕ) : integerOf (.finite n) = n := by
  exact (if_pos (Nat.cast_nonneg n)).trans (Int.floor_natCast n)

/-- A `dt` that is not below zero is rounded and capped. -/
theorem dtByte_emod {dt : ℚ} (h : 0 ≤ dt) : dtByte (.finite dt) % 256 = min 255 (round dt) := by
  have hround : 0 ≤ round dt := by
    rw [round_eq]
    exact Int.floor_nonneg.mpr (by linarith)
  have heq : dtByte (.finite dt) = min 255 (round dt) := rfl
  omega

theorem faithful_received {command : InputCommand} (h : Sendable command) :
    Faithful command (received command) := by
  obtain ⟨n, hn, hlt⟩ := h.seq
  obtain ⟨a, ha⟩ := h.angle
  obtain ⟨hnonneg, hmax, hclose⟩ := angleUnits_spec a
  obtain ⟨-, -, k, hk⟩ := normalised_spec a
  obtain ⟨k', hk'⟩ := angleOfUnits_turns (angleUnits (some a)).toNat
  have hdt : (received command).dt = .finite (dtByte command.dt % 256 : ℤ) := by
    have hcast : ((dtByte command.dt % 256).toNat : ℚ) = (dtByte command.dt % 256 : ℤ) := by
      exact_mod_cast Int.toNat_of_nonneg (Int.emod_nonneg _ (by decide))
    rw [received, pow_one, hcast]
  refine ⟨?_, rfl, ⟨a, angleOfUnits (angleUnits (some a)).toNat, ha, ?_, k + k', ?_⟩, hdt, ?_⟩
  · rw [received, hn, integerOf_natCast, Int.emod_eq_of_lt (Int.natCast_nonneg n) (by omega)]
    rfl
  · rw [received, ha]
    dsimp only [Game.Num.finite?]
    rw [Int.emod_eq_of_lt hnonneg hmax]
  · have hcast : ((angleUnits (some a)).toNat : ℚ) = angleUnits (some a) := by
      exact_mod_cast Int.toNat_of_nonneg hnonneg
    have heq : angleOfUnits (angleUnits (some a)).toNat - (a + (k + k' : ℤ) * (PI * 2)) =
        angleUnits (some a) / ANGLE_SCALE - normalised a := by
      rw [hk', hk, hcast]
      push_cast
      ring
    have hhalf : PI * 2 / 65535 / 2 = PI / 65535 := by ring
    rw [heq, hhalf]
    exact hclose
  · intro dt hnonneg hfinite
    rw [hdt, hfinite, dtByte_emod hnonneg]

/-- What arrives of an encoded batch. -/
theorem decodeInputBatch_batchBytes {batch : InputBatch} (hone : 1 ≤ batch.commands.length)
    (hten : batch.commands.length ≤ 10) : decodeInputBatch (batchBytes batch) =
      .ok ⟨batch.commands.map received,
        .finite (integerOf batch.clientTime % 256 ^ 4).toNat⟩ := by
  obtain ⟨h, h₆⟩ := (At.all (batchBytes batch)).append
  obtain ⟨h, h₂⟩ := h.append
  obtain ⟨h₀, h₁⟩ := h.append
  simp only [List.length_append, length_intBytes, Nat.zero_add, Nat.reduceAdd] at h₁ h₂ h₆
  have hcommands := ReadsAt.many (fun command _ => readsAt_command _ command) 6 h₆
  refine decodeInputBatch_ok ?_ hone hten ?_ ?_ hcommands (getUint_mod four_pos h₂)
  · simp only [batchBytes, List.length_append, length_intBytes, length_flatMap_commandBytes]
    omega
  · exact getUint_at one_pos h₀ (by decide) (by decide)
  · exact getUint_at one_pos h₁ (by omega) (by omega)

/-- **Input batches decode safely, and faithfully.** -/
theorem inputBatch_faithful (buffer : Bytes) {batch : InputBatch}
    (hone : 1 ≤ batch.commands.length) (hten : batch.commands.length ≤ 10)
    (hsend : ∀ command ∈ batch.commands, Sendable command) :
    ((∃ e, decodeInputBatch buffer = .error e ∧ e ≠ outOfBounds) ∨
      ∃ decoded, decodeInputBatch buffer = .ok decoded ∧ 1 ≤ decoded.commands.length ∧
        decoded.commands.length ≤ 10 ∧ 6 + decoded.commands.length * 8 ≤ buffer.length ∧
        (∀ command ∈ decoded.commands, Bounded command) ∧
        ∀ rest, decodeInputBatch (buffer.take (6 + decoded.commands.length * 8) ++ rest) =
          .ok decoded) ∧
      ∃ bytes decoded, encodeInputBatch batch = .ok bytes ∧ decodeInputBatch bytes = .ok decoded ∧
        List.Forall₂ Faithful batch.commands decoded.commands ∧
        decoded.clientTime = .finite (integerOf batch.clientTime % 2 ^ 32 : ℤ) := by
  refine ⟨decodeInputBatch_safe buffer, _, _, encodeInputBatch_eq batch,
    decodeInputBatch_batchBytes hone hten, ?_, ?_⟩
  · rw [List.forall₂_map_right_iff, List.forall₂_same]
    exact fun command hmem => faithful_received (hsend command hmem)
  · have hcast : ((integerOf batch.clientTime % 256 ^ 4).toNat : ℚ) =
        (integerOf batch.clientTime % 2 ^ 32 : ℤ) := by
      exact_mod_cast Int.toNat_of_nonneg (Int.emod_nonneg _ (by decide))
    exact congrArg Game.Num.finite hcast

/-- The commands `1` and `2` of a client, at both ends of the turn. -/
def twoCommands (clientTime : ℚ) : InputBatch where
  commands := [⟨.finite 1, .finite (-1 / 1000000), false, .finite 33⟩,
    ⟨.finite 2, .finite PI, true, .finite 300⟩]
  clientTime := .finite clientTime

theorem twoCommands_sendable (clientTime : ℚ) :
    ∀ command ∈ (twoCommands clientTime).commands, Sendable command := by
  intro command h
  simp only [twoCommands, List.mem_cons, List.not_mem_nil, or_false] at h
  rcases h with rfl | rfl
  · exact ⟨⟨1, rfl, by decide⟩, _, rfl⟩
  · exact ⟨⟨2, rfl, by decide⟩, _, rfl⟩

/-- Two commands arrive, and an empty buffer is refused. -/
theorem inputBatch_faithful_two : (∃ e, decodeInputBatch [] = .error e ∧ e ≠ outOfBounds) ∧
    ∃ bytes decoded, encodeInputBatch (twoCommands 5) = .ok bytes ∧
      decodeInputBatch bytes = .ok decoded ∧
      List.Forall₂ Faithful (twoCommands 5).commands decoded.commands := by
  obtain ⟨hsafe, bytes, decoded, hencode, hdecode, hall, -⟩ :=
    @inputBatch_faithful [] (twoCommands 5) (by decide) (by decide) (twoCommands_sendable 5)
  refine ⟨?_, bytes, decoded, hencode, hdecode, hall⟩
  rcases hsafe with hsafe | ⟨_, hok, -⟩
  · exact hsafe
  · cases hok

/-- The clock of a client that counts from the epoch does not fit. -/
theorem inputBatch_epoch : ¬ ∀ (batch : InputBatch) bytes decoded,
    1 ≤ batch.commands.length → batch.commands.length ≤ 10 →
    (∀ command ∈ batch.commands, Sendable command) → encodeInputBatch batch = .ok bytes →
      decodeInputBatch bytes = .ok decoded → decoded.clientTime = batch.clientTime := by
  intro hclaim
  have hclock := hclaim (twoCommands 1700000000000) _ _ (by decide) (by decide)
    (twoCommands_sendable _) (encodeInputBatch_eq _)
    (decodeInputBatch_batchBytes (by decide) (by decide))
  exact absurd hclock (by decide)

end SnakeArena.Protocol
