import SnakeArena.Game.Simulation

/-!
# Realtime — the validation of inputs

`anticheat/validators.ts`, and the schema of a batch in `protocol/src/schemas.ts`.  The guard of a
socket has the last sequence number it accepted; numbers must advance, but not arbitrarily far,
and a rejection counts towards a shadowban.

* `validateOne_accepts`: a proper command within budget is accepted exactly when its number is in
  the window after the last one.
-/

namespace SnakeArena.Realtime
open SnakeArena.Game

inductive RejectionReason where
  | staleSequence | sequenceJump | rateLimited | badAngle | badDt
deriving DecidableEq

structure InputGuardState where
  lastSeq : ℤ
  /-- Token bucket for input rate. -/
  budget : ℚ
  lastRefillMs : ℕ
  suspicion : ℕ
  /-- Rejections since the last reset. -/
  rejections : RejectionReason → ℕ

def createGuardState (now : ℕ) (burst : ℚ) : InputGuardState := ⟨0, burst, now, 0, fun _ => 0⟩

/-- Clamps client-reported delta time. -/
def clampDeltaTime (dt : Game.Num) (maxDt : ℚ) : ℚ :=
  match dt.finite? with
  | none => 0
  | some dt => if dt < 0 then 0 else min dt maxDt

/-- `Number.isInteger`, and the integer. -/
def integer? (n : Game.Num) : Option ℤ :=
  n.finite?.bind fun q => if q.den = 1 then some q.num else none

/-- Sequence numbers must advance, but not arbitrarily far: what is wrong with this one. -/
def isSequenceValid (lastSeq : ℤ) (incomingSeq : Game.Num) (maxJump : ℤ) : Option RejectionReason :=
  match integer? incomingSeq with
  | none => some .staleSequence
  | some seq =>
      if seq ≤ lastSeq then some .staleSequence
      else if maxJump < seq - lastSeq then some .sequenceJump
      else none

/-- The default of `maxJump`. -/
def MAX_JUMP : ℤ := 600

/-- Token-bucket rate limit. -/
def consumeInputBudget (state : InputGuardState) (now : ℕ) (ratePerSecond burst : ℚ) :
    Bool × InputGuardState :=
  let elapsed := now - state.lastRefillMs
  let budget := min burst (state.budget + elapsed / 1000 * ratePerSecond)
  if budget < 1 then (false, { state with lastRefillMs := now, budget })
  else (true, { state with lastRefillMs := now, budget := budget - 1 })

/-- How much each signal contributes to a suspicion score. -/
def SUSPICION_WEIGHTS : RejectionReason → ℕ
  | .rateLimited => 1
  | .staleSequence => 1
  | .sequenceJump => 4
  | .badAngle => 8
  | .badDt => 8

/-- Crossing this shadowbans rather than kicks. -/
def SUSPICION_THRESHOLD : ℕ := 200

structure ValidationOutcome where
  accepted : List InputCommand
  rejected : List (InputCommand × RejectionReason)

structure ValidationOptions where
  now : ℕ
  maxDtMs : ℚ
  ratePerSecond : ℚ
  burst : ℚ

def record (state : InputGuardState) (outcome : ValidationOutcome) (command : InputCommand)
    (reason : RejectionReason) : InputGuardState × ValidationOutcome :=
  ({ state with
      rejections := Function.update state.rejections reason (state.rejections reason + 1)
      suspicion := state.suspicion + SUSPICION_WEIGHTS reason },
    { outcome with rejected := outcome.rejected ++ [(command, reason)] })

/-- A finite heading, within a turn. -/
def angleValid (angle : Game.Num) : Bool := angle.finite?.any fun q => |q| ≤ PI + 1 / 1000000

def dtValid (dt : Game.Num) : Bool := dt.finite?.any fun q => 0 ≤ q ∧ q ≤ 250

/-- One command of a batch. -/
def validateOne (options : ValidationOptions) (s : InputGuardState × ValidationOutcome)
    (command : InputCommand) : InputGuardState × ValidationOutcome :=
  let (within, state) := consumeInputBudget s.1 options.now options.ratePerSecond options.burst
  if !within then record state s.2 command .rateLimited
  else
    match isSequenceValid state.lastSeq command.seq MAX_JUMP with
    | some reason => record state s.2 command reason
    | none =>
        if !angleValid command.angle then record state s.2 command .badAngle
        else if !dtValid command.dt then record state s.2 command .badDt
        else
          ({ state with lastSeq := (integer? command.seq).getD 0 },
            { s.2 with
              accepted := s.2.accepted ++
                [{ command with dt := .finite (clampDeltaTime command.dt options.maxDtMs) }] })

/-- Validates a batch of inputs against one socket's guard state. -/
def validateInputBatch (state : InputGuardState) (commands : List InputCommand)
    (options : ValidationOptions) : InputGuardState × ValidationOutcome :=
  commands.foldl (validateOne options) (state, ⟨[], []⟩)

def decaySuspicion (state : InputGuardState) (amount : ℕ) : InputGuardState :=
  { state with suspicion := state.suspicion - amount }

/-- A player over the threshold is shadowbanned. -/
def shouldShadowban (state : InputGuardState) : Bool := SUSPICION_THRESHOLD ≤ state.suspicion

/-! ### The schema -/

/-- `Number.MAX_SAFE_INTEGER`. -/
def MAX_SAFE_INTEGER : ℤ := 9007199254740991

def inputCommandSchema (command : InputCommand) : Bool :=
  (integer? command.seq).any (fun seq => 0 ≤ seq ∧ seq ≤ MAX_SAFE_INTEGER) &&
    command.angle.finite?.any (fun q => -PI ≤ q ∧ q ≤ PI) &&
    command.dt.finite?.any (fun q => 0 ≤ q ∧ q ≤ 250)

/-- The commands of a batch. -/
def inputBatchSchema (commands : List InputCommand) : Bool :=
  decide (1 ≤ commands.length) && decide (commands.length ≤ 10) && commands.all inputCommandSchema

/-! ### What is accepted -/

/-- As a client samples it: a count, a heading, a time. -/
structure Proper (command : InputCommand) (seq : ℕ) : Prop where
  number : command.seq = .finite seq
  pos : 1 ≤ seq
  safe : seq ≤ MAX_SAFE_INTEGER
  angle : ∃ q, command.angle = .finite q ∧ -PI ≤ q ∧ q ≤ PI
  dt : ∃ q, command.dt = .finite q ∧ 0 ≤ q ∧ q ≤ 250

section Proper
variable {command : InputCommand} {seq : ℕ} {state : InputGuardState} {options : ValidationOptions}
  {outcome : ValidationOutcome}

theorem integer?_natCast (n : ℕ) : integer? (.finite n) = some (n : ℤ) := by
  unfold integer? Game.Num.finite?
  rw [Option.bind_some, if_pos (Rat.den_natCast n), Rat.num_natCast]

theorem Proper.schema (h : Proper command seq) : inputBatchSchema [command] = true := by
  obtain ⟨hseq, -, hsafe, ⟨a, ha, hle, hge⟩, ⟨d, hd, h0, h250⟩⟩ := h
  have hcommand : inputCommandSchema command = true := by
    unfold inputCommandSchema
    rw [hseq, ha, hd, integer?_natCast]
    simp [Game.Num.finite?, hle, hge, h0, h250, hsafe]
  simp [inputBatchSchema, hcommand]

theorem Proper.angleValid (h : Proper command seq) : angleValid command.angle = true := by
  obtain ⟨a, ha, hle, hge⟩ := h.angle
  unfold Realtime.angleValid
  rw [ha]
  have hpi : |a| ≤ PI + 1 / 1000000 := (abs_le.mpr ⟨hle, hge⟩).trans (by norm_num)
  exact decide_eq_true hpi

theorem Proper.dtValid (h : Proper command seq) : dtValid command.dt = true := by
  obtain ⟨d, hd, h0, h250⟩ := h.dt
  unfold Realtime.dtValid
  rw [hd]
  exact decide_eq_true ⟨h0, h250⟩

/-- Consuming leaves the number and the suspicion of the guard. -/
theorem consumeInputBudget_frame (state : InputGuardState) (now : ℕ) (rate burst : ℚ) :
    (consumeInputBudget state now rate burst).2.lastSeq = state.lastSeq ∧
      (consumeInputBudget state now rate burst).2.suspicion = state.suspicion := by
  unfold consumeInputBudget
  dsimp only
  split_ifs <;> exact ⟨rfl, rfl⟩

theorem Proper.sequenceValid (h : Proper command seq) (lastSeq : ℤ) :
    isSequenceValid lastSeq command.seq MAX_JUMP = none ↔
      lastSeq < seq ∧ seq ≤ lastSeq + MAX_JUMP := by
  unfold isSequenceValid
  rw [h.number, integer?_natCast]
  dsimp only
  split_ifs with hstale hjump
  · exact iff_of_false nofun fun h => by omega
  · exact iff_of_false nofun fun h => by omega
  · exact iff_of_true rfl ⟨by omega, by omega⟩

/-- **What is accepted.**  A proper command within budget, when its number is in the window. -/
theorem validateOne_accepts (h : Proper command seq)
    (hwithin : (consumeInputBudget state options.now options.ratePerSecond options.burst).1 = true)
    (hwindow : state.lastSeq < seq ∧ seq ≤ state.lastSeq + MAX_JUMP) :
    ∃ state', validateOne options (state, outcome) command =
      (state', { outcome with
        accepted := outcome.accepted ++
          [{ command with dt := .finite (clampDeltaTime command.dt options.maxDtMs) }] }) ∧
      state'.lastSeq = seq ∧ state'.suspicion = state.suspicion := by
  have hframe := consumeInputBudget_frame state options.now options.ratePerSecond options.burst
  have hsequence : isSequenceValid state.lastSeq command.seq MAX_JUMP = none :=
    (h.sequenceValid state.lastSeq).mpr hwindow
  unfold validateOne
  generalize consumeInputBudget state options.now options.ratePerSecond options.burst = consumed
    at hwithin hframe ⊢
  obtain ⟨within, state'⟩ := consumed
  obtain ⟨hlast, hsuspicion⟩ := hframe
  dsimp only at hwithin hlast hsuspicion ⊢
  rw [hwithin, hlast, hsequence, h.angleValid, h.dtValid]
  refine ⟨_, rfl, ?_, hsuspicion⟩
  dsimp only
  rw [h.number, integer?_natCast]
  rfl

end Proper

end SnakeArena.Realtime
