import Mathlib.Algebra.Order.BigOperators.Group.List
import Mathlib.Tactic.Linarith
import SnakeArena.Game.Types
import SnakeArena.Library.Rounding

/-!
# Web — prediction and reconciliation

`game/net/prediction.ts`, and what `game/engine.ts` does with it: an input moves the client's own
snake at once, by the time that the input took, and a snapshot replays the inputs that the server
has not applied.  The replay takes a thirtieth of a second for each.  Numbers are doubles, rounded
at each operation.

* `undisturbed_of_settled`: a snapshot with the client's own prediction leaves it as it is where
  nothing is pending, or what is pending has led back to where it began.  Where what is pending
  has gone forward, the prediction is disturbed: no input that the client samples takes a thirtieth
  of a second.
-/

namespace SnakeArena.Web
open SnakeArena.Game (Maths Vec PI remainder BASE_SPEED BOOST_SPEED_MULTIPLIER
  MAX_TURN_RATE_RAD_PER_SEC MIN_BOOST_MASS)
open SnakeArena.Library.Double

/-! ### Inputs -/

def INPUT_SEND_RATE_HZ : ℚ := 20

def SEND_INTERVAL_MS : ℚ := 1000 / INPUT_SEND_RATE_HZ

/-- One sampled input. -/
structure InputCommand where
  seq : ℕ
  angle : ℚ
  boost : Bool
  /-- In milliseconds. -/
  dt : ℚ
deriving DecidableEq

structure InputController where
  sequence : ℕ
  lastSentAt : ℚ
deriving DecidableEq

def createInputController : InputController := ⟨0, 0⟩

/-- The state of the pointer, sampled; none before the send interval has elapsed. -/
def InputController.poll (input : InputController) (angle : ℚ) (boost : Bool) (nowMs : ℚ) :
    Option (InputCommand × InputController) :=
  let elapsed := nearest (nowMs - input.lastSentAt)
  if elapsed < SEND_INTERVAL_MS then none
  else some (⟨input.sequence + 1, angle, boost, min 250 elapsed⟩, ⟨input.sequence + 1, nowMs⟩)

/-- What is sampled is numbered, and took at least the send interval. -/
theorem InputController.poll_spec {input input' : InputController} {angle nowMs : ℚ} {boost : Bool}
    {command : InputCommand} (h : input.poll angle boost nowMs = some (command, input')) :
    command.seq = input.sequence + 1 ∧ input'.sequence = input.sequence + 1 ∧
      50 ≤ command.dt ∧ command.dt ≤ 250 := by
  unfold poll SEND_INTERVAL_MS INPUT_SEND_RATE_HZ at h
  dsimp only at h
  split_ifs at h with hearly
  cases h
  exact ⟨rfl, rfl, le_min (by norm_num) (by linarith), min_le_left _ _⟩

/-! ### Prediction -/

structure PredictedState where
  x : ℚ
  y : ℚ
  angle : ℚ
  mass : ℚ
deriving DecidableEq

structure PredictionBuffer where
  /-- Inputs not yet acknowledged by the server, oldest first. -/
  pending : List InputCommand
  lastAckSeq : ℕ
  state : PredictedState
  maxPending : ℕ

def createPredictionBuffer (initial : PredictedState) : PredictionBuffer := ⟨[], 0, initial, 240⟩

/-- The shortest way round the circle, as in the core. -/
def angleDelta (start goal : ℚ) : ℚ :=
  -- the remainder of two doubles is exact
  let delta := remainder (nearest (goal - start)) (PI * 2)
  let delta := if PI < delta then nearest (delta - PI * 2) else delta
  if delta < -PI then nearest (delta + PI * 2) else delta

/-- How far the snake goes in a second. -/
def speed (mass : ℚ) (boost : Bool) : ℚ :=
  let boosting := boost && decide (MIN_BOOST_MASS < mass)
  nearest (BASE_SPEED * (if boosting then nearest BOOST_SPEED_MULTIPLIER else 1))

/-- Advances one predicted step. -/
def stepPrediction (maths : Maths) (state : PredictedState) (command : InputCommand)
    (dtSeconds : ℚ) : PredictedState :=
  let maxTurn := nearest (nearest MAX_TURN_RATE_RAD_PER_SEC * dtSeconds)
  let delta := angleDelta state.angle command.angle
  let angle := nearest (state.angle + max (-maxTurn) (min maxTurn delta))
  let distance := nearest (speed state.mass command.boost * dtSeconds)
  ⟨nearest (state.x + nearest (maths.cos angle * distance)),
    nearest (state.y + nearest (maths.sin angle * distance)), angle, state.mass⟩

/-- Records an input, in a queue with a bound, and advances the local state. -/
def pushPrediction (maths : Maths) (buffer : PredictionBuffer) (command : InputCommand)
    (dtSeconds : ℚ) : PredictionBuffer :=
  let pending := buffer.pending ++ [command]
  { buffer with
    pending := if buffer.maxPending < pending.length then pending.tail else pending
    state := stepPrediction maths buffer.state command dtSeconds }

structure ReconcileResult where
  /-- Distance between the prediction and the authoritative position. -/
  error : ℚ
  /-- How many inputs were replayed after the correction. -/
  replayed : ℕ
  corrected : Bool

/-- Snaps to the authoritative state and replays unacknowledged inputs, unless the error is small.
Mass is always authoritative. -/
def reconcile (maths : Maths) (buffer : PredictionBuffer) (authoritative : PredictedState)
    (ackSeq : ℕ) (dtSeconds errorThreshold : ℚ) : PredictionBuffer × ReconcileResult :=
  let pending := buffer.pending.filter (ackSeq < ·.seq)
  let error := maths.hypot (nearest (buffer.state.x - authoritative.x))
    (nearest (buffer.state.y - authoritative.y))
  let buffer := { buffer with
    lastAckSeq := max buffer.lastAckSeq ackSeq
    pending
    state := { buffer.state with mass := authoritative.mass } }
  if error ≤ errorThreshold then (buffer, ⟨error, 0, false⟩)
  else
    ({ buffer with
        state := pending.foldl (fun state command => stepPrediction maths state command dtSeconds)
          authoritative },
      ⟨error, pending.length, true⟩)

/-! ### The engine -/

/-- The client's own snake, from when it joined. -/
structure Session where
  initial : PredictedState
  input : InputController
  prediction : PredictionBuffer
  /-- Every input so far. -/
  inputs : List InputCommand

/-- The client joins, and where it predicts its snake to be. -/
def Session.joined (initial : PredictedState) : Session :=
  ⟨initial, createInputController, createPredictionBuffer initial, []⟩

/-- What the client predicts live: each input by the time it took. -/
def predicted (maths : Maths) (initial : PredictedState) (inputs : List InputCommand) :
    PredictedState :=
  inputs.foldl
    (fun state command => stepPrediction maths state command (nearest (command.dt / 1000))) initial

/-- What happens to the engine. -/
inductive Event where
  /-- A frame, with the heading and the boost of the pointer, and the time. -/
  | frame (angle : ℚ) (boost : Bool) (nowMs : ℚ)
  /-- A snapshot acknowledges the first inputs, with the state that was predicted there. -/
  | snapshot (acknowledged : ℕ)

namespace Session

/-- The last input that the server has applied, of those that were sent. -/
def ackSeq (s : Session) (acknowledged : ℕ) : ℕ := min acknowledged s.inputs.length

/-- The authoritative state of a snapshot is the client's own. -/
def authoritative (maths : Maths) (s : Session) (acknowledged : ℕ) : PredictedState :=
  predicted maths s.initial (s.inputs.take (s.ackSeq acknowledged))

/-- The inputs that the server has not applied. -/
def unacknowledged (s : Session) (acknowledged : ℕ) : List InputCommand :=
  s.inputs.drop (s.ackSeq acknowledged)

def after (maths : Maths) (s : Session) : Event → Session
  | .frame angle boost nowMs =>
      match s.input.poll angle boost nowMs with
      | none => s
      | some (command, input) =>
          { s with
            input
            prediction := pushPrediction maths s.prediction command (nearest (command.dt / 1000))
            inputs := s.inputs ++ [command] }
  | .snapshot acknowledged =>
      -- `reconcileSelf`: every replayed input takes a thirtieth of a second.
      { s with
        prediction := (reconcile maths s.prediction (s.authoritative maths acknowledged)
          (s.ackSeq acknowledged) (nearest (1 / 30)) 2).1 }

/-- The session after some events. -/
def run (maths : Maths) (s : Session) (events : List Event) : Session :=
  events.foldl (after maths) s

/-- The snapshots of a run, each with the session before it. -/
def snapshots (maths : Maths) (s : Session) : List Event → List (Session × ℕ)
  | [] => []
  | .frame angle boost nowMs :: events =>
      (s.after maths (.frame angle boost nowMs)).snapshots maths events
  | .snapshot acknowledged :: events =>
      (s, acknowledged) :: (s.after maths (.snapshot acknowledged)).snapshots maths events

/-- The predicted position is as it was up to the error threshold, and the heading is as it was. -/
def Undisturbed (maths : Maths) (s : Session) (acknowledged : ℕ) : Prop :=
  let before := s.prediction.state
  let after := (s.after maths (.snapshot acknowledged)).prediction.state
  (after.x - before.x) ^ 2 + (after.y - before.y) ^ 2 ≤ 2 ^ 2 ∧ after.angle = before.angle

end Session

/-! ### Where inputs lead -/

/-- Each of some inputs, predicted live from a state, heads within 25 degrees of a direction when it
has turned. -/
def Forward (maths : Maths) (e : Vec) : PredictedState → List InputCommand → Prop
  | _, [] => True
  | state, command :: inputs =>
      let next := stepPrediction maths state command (nearest (command.dt / 1000))
      9 / 10 ≤ maths.cos next.angle * e.x + maths.sin next.angle * e.y ∧ Forward maths e next inputs

/-- Nothing is pending, or what is pending has led back to where it began. -/
def Session.Settled (maths : Maths) (s : Session) (acknowledged : ℕ) : Prop :=
  s.unacknowledged acknowledged = [] ∨
    let start := s.authoritative maths acknowledged
    let reached := predicted maths start (s.unacknowledged acknowledged)
    maths.hypot (nearest (reached.x - start.x)) (nearest (reached.y - start.y)) ≤ 2

namespace Session

/-! ### What is pending -/

/-- The inputs are numbered from 1, and the pending ones are the last of them: those that are not
acknowledged, as far as the queue holds. -/
structure Numbered (s : Session) : Prop where
  sequence : s.input.sequence = s.inputs.length
  sampled : ∀ command ∈ s.inputs, 50 ≤ command.dt ∧ command.dt ≤ 250
  seq : ∀ i command, s.inputs[i]? = some command → command.seq = i + 1
  acked : s.prediction.lastAckSeq ≤ s.inputs.length
  room : 0 < s.prediction.maxPending
  pending : s.prediction.pending =
    s.inputs.drop (max s.prediction.lastAckSeq (s.inputs.length - s.prediction.maxPending))

theorem Numbered.joined (initial : PredictedState) : (joined initial).Numbered where
  sequence := rfl
  sampled _ h := by simp [Session.joined] at h
  seq _ _ h := by simp [Session.joined] at h
  acked := le_refl 0
  room := by simp [Session.joined, createPredictionBuffer]
  pending := by simp [Session.joined, createPredictionBuffer]

/-- What is not acknowledged of the last inputs. -/
theorem filter_drop {inputs : List InputCommand}
    (h : ∀ i command, inputs[i]? = some command → command.seq = i + 1) (first acknowledged : ℕ) :
    (inputs.drop first).filter (acknowledged < ·.seq) = inputs.drop (max first acknowledged) := by
  have hkept : ∀ first, acknowledged ≤ first →
      (inputs.drop first).filter (acknowledged < ·.seq) = inputs.drop first := by
    intro first hle
    refine List.filter_eq_self.mpr fun command hcommand => ?_
    obtain ⟨i, hi⟩ := List.mem_iff_getElem?.mp hcommand
    rw [List.getElem?_drop] at hi
    have hseq := h _ _ hi
    exact decide_eq_true (by omega)
  rcases le_total acknowledged first with hle | hle
  · rw [hkept first hle, max_eq_left hle]
  · -- Those up to the acknowledged one go.
    have hgone : ((inputs.drop first).take (acknowledged - first)).filter
        (acknowledged < ·.seq) = [] := by
      refine List.filter_eq_nil_iff.mpr fun command hcommand => ?_
      obtain ⟨i, hi⟩ := List.mem_iff_getElem?.mp hcommand
      rw [List.getElem?_take] at hi
      split_ifs at hi with hlt
      rw [List.getElem?_drop] at hi
      have hseq := h _ _ hi
      exact fun hdecide => absurd (of_decide_eq_true hdecide) (by omega)
    rw [← List.take_append_drop (acknowledged - first) (inputs.drop first), List.filter_append,
      hgone, List.drop_drop, List.nil_append, Nat.add_sub_cancel' hle, hkept _ (le_refl _),
      max_eq_right hle]

/-- A queue of the last inputs takes one more. -/
theorem push_drop {inputs : List InputCommand} {acked max_ : ℕ} (hacked : acked ≤ inputs.length)
    (hmax : 0 < max_) (command : InputCommand) :
    let pending := inputs.drop (max acked (inputs.length - max_)) ++ [command]
    (if max_ < pending.length then pending.tail else pending) =
      (inputs ++ [command]).drop (max acked (inputs.length + 1 - max_)) := by
  have hpending : inputs.drop (max acked (inputs.length - max_)) ++ [command] =
      (inputs ++ [command]).drop (max acked (inputs.length - max_)) := by
    rw [List.drop_append_of_le_length (by omega)]
  dsimp only
  rw [hpending, List.tail_drop, List.length_drop, List.length_append, List.length_singleton]
  split_ifs with hfull
  · congr 1
    omega
  · congr 1
    omega

/-- What a snapshot leaves of the prediction. -/
theorem snapshot_fields (maths : Maths) (s : Session) (acknowledged : ℕ) :
    (s.after maths (.snapshot acknowledged)).prediction.pending =
        s.prediction.pending.filter (s.ackSeq acknowledged < ·.seq) ∧
      (s.after maths (.snapshot acknowledged)).prediction.lastAckSeq =
        max s.prediction.lastAckSeq (s.ackSeq acknowledged) ∧
      (s.after maths (.snapshot acknowledged)).prediction.maxPending =
        s.prediction.maxPending := by
  unfold Session.after reconcile
  dsimp only
  split_ifs
  · exact ⟨rfl, rfl, rfl⟩
  · exact ⟨rfl, rfl, rfl⟩

/-- An input is numbered and queued. -/
theorem Numbered.push {s : Session} (h : s.Numbered) {maths : Maths} {command : InputCommand}
    {input : InputController} (hseq : command.seq = s.input.sequence + 1)
    (hinput : input.sequence = s.input.sequence + 1) (hdt : 50 ≤ command.dt ∧ command.dt ≤ 250) :
    Numbered { s with
      input
      prediction := pushPrediction maths s.prediction command (nearest (command.dt / 1000))
      inputs := s.inputs ++ [command] } := by
  have hlength : (s.inputs ++ [command]).length = s.inputs.length + 1 := by simp
  have hsequence := h.sequence
  refine ⟨?_, ?_, fun i c hi => ?_, ?_, h.room, ?_⟩
  · exact (hinput.trans (congrArg (· + 1) hsequence)).trans hlength.symm
  · exact List.forall_mem_append.mpr ⟨h.sampled, List.forall_mem_singleton.mpr hdt⟩
  · have hi : (s.inputs ++ [command])[i]? = some c := hi
    rcases lt_or_ge i s.inputs.length with hlt | hge
    · rw [List.getElem?_append_left hlt] at hi
      exact h.seq i c hi
    · rw [List.getElem?_append_right hge, List.getElem?_singleton] at hi
      split_ifs at hi with hlast
      obtain rfl := Option.some.inj hi
      omega
  · exact h.acked.trans ((Nat.le_succ _).trans_eq hlength.symm)
  · have hpush := push_drop h.acked h.room command
    rw [← h.pending, ← hlength] at hpush
    exact hpush

/-- The inputs are numbered in order, whatever comes between. -/
theorem Numbered.after {s : Session} (h : s.Numbered) (maths : Maths) (e : Event) :
    (s.after maths e).Numbered := by
  cases e with
  | frame angle boost nowMs =>
      unfold Session.after
      dsimp only
      cases hpoll : s.input.poll angle boost nowMs with
      | none => exact h
      | some sampled =>
          obtain ⟨command, input⟩ := sampled
          obtain ⟨hseq, hinput, hdt⟩ := InputController.poll_spec hpoll
          exact h.push hseq hinput hdt
  | snapshot acknowledged =>
      obtain ⟨hpending, hack, hmax⟩ := snapshot_fields maths s acknowledged
      have hinputs : (s.after maths (.snapshot acknowledged)).inputs = s.inputs := rfl
      refine ⟨h.sequence, h.sampled, h.seq, ?_, ?_, ?_⟩
      · rw [hack, hinputs]
        exact max_le h.acked (min_le_right _ _)
      · rw [hmax]
        exact h.room
      · rw [hpending, hack, hmax, hinputs, h.pending, filter_drop h.seq]
        congr 1
        omega

/-! ### What a snapshot leaves -/

/-- A prediction changes no mass. -/
theorem predicted_mass (maths : Maths) (initial : PredictedState) (inputs : List InputCommand) :
    (predicted maths initial inputs).mass = initial.mass := by
  have hfold : ∀ (inputs : List InputCommand) (state : PredictedState),
      (predicted maths state inputs).mass = state.mass := by
    intro inputs
    induction inputs with
    | nil => exact fun _ => rfl
    | cons command inputs ih => exact fun state => ih _
  exact hfold inputs initial

/-- The prediction is what the inputs so far lead to. -/
def Predicts (maths : Maths) (s : Session) : Prop :=
  s.prediction.state = predicted maths s.initial s.inputs

/-- A frame predicts one input more. -/
theorem Predicts.frame {maths : Maths} {s : Session} (h : s.Predicts maths) (angle : ℚ)
    (boost : Bool) (nowMs : ℚ) : (s.after maths (.frame angle boost nowMs)).Predicts maths := by
  unfold Session.after
  dsimp only
  cases s.input.poll angle boost nowMs with
  | none => exact h
  | some sampled =>
      unfold Predicts predicted pushPrediction
      dsimp only
      rw [List.foldl_append, h]
      rfl

section Snapshot
variable {maths : Maths} {s : Session} {acknowledged : ℕ}

/-- The prediction is the authoritative state, and what is pending from there. -/
theorem Predicts.from_ack (h : s.Predicts maths) (acknowledged : ℕ) : s.prediction.state =
    predicted maths (s.authoritative maths acknowledged) (s.unacknowledged acknowledged) := by
  rw [h, authoritative, unacknowledged, predicted, predicted, predicted, ← List.foldl_append,
    List.take_append_drop]

/-- Nor does a reconciliation. -/
theorem Predicts.ack_mass (h : s.Predicts maths) (acknowledged : ℕ) :
    (s.authoritative maths acknowledged).mass = s.prediction.state.mass := by
  rw [h, authoritative, predicted_mass, predicted_mass]

/-- What is pending are the last of the unacknowledged. -/
theorem Numbered.pending_eq (h : s.Numbered) (acknowledged : ℕ) :
    s.prediction.pending.filter (s.ackSeq acknowledged < ·.seq) =
      (s.unacknowledged acknowledged).drop
        (max s.prediction.lastAckSeq (s.inputs.length - s.prediction.maxPending) -
          s.ackSeq acknowledged) := by
  rw [h.pending, filter_drop h.seq, unacknowledged, List.drop_drop]
  congr 1
  omega

/-- What a snapshot leaves: the prediction where the error is small, otherwise the replay. -/
theorem snapshot_state (hnumbered : s.Numbered) (h : s.Predicts maths) (acknowledged : ℕ) :
    let start := s.authoritative maths acknowledged
    let reached := predicted maths start (s.unacknowledged acknowledged)
    (s.after maths (.snapshot acknowledged)).prediction.state =
      if maths.hypot (nearest (reached.x - start.x)) (nearest (reached.y - start.y)) ≤ 2 then
        s.prediction.state
      else ((s.unacknowledged acknowledged).drop
          (max s.prediction.lastAckSeq (s.inputs.length - s.prediction.maxPending) -
            s.ackSeq acknowledged)).foldl
        (fun state command => stepPrediction maths state command (nearest (1 / 30))) start := by
  dsimp only
  rw [← h.from_ack]
  unfold Session.after reconcile
  dsimp only
  split_ifs
  · dsimp only
    rw [h.ack_mass]
  · dsimp only
    rw [hnumbered.pending_eq]

/-- A settled snapshot leaves the prediction exactly as it is. -/
theorem settled_state (hnumbered : s.Numbered) (h : s.Predicts maths)
    (hsettled : s.Settled maths acknowledged) :
    (s.after maths (.snapshot acknowledged)).prediction.state = s.prediction.state := by
  rw [snapshot_state hnumbered h]
  split_ifs with herror
  · rfl
  · have hnone := hsettled.resolve_right herror
    rw [hnone, List.drop_nil, List.foldl_nil, h.from_ack acknowledged, hnone]
    rfl

/-- A snapshot that leaves the predicted state disturbs nothing. -/
theorem undisturbed_of_state
    (h : (s.after maths (.snapshot acknowledged)).prediction.state = s.prediction.state) :
    s.Undisturbed maths acknowledged := by
  unfold Undisturbed
  dsimp only
  rw [h, sub_self, sub_self]
  exact ⟨by norm_num, rfl⟩

end Snapshot

/-! ### Runs -/

/-- Settled snapshots leave a session that predicts what its inputs lead to. -/
theorem run_predicts (maths : Maths) (events : List Event) : ∀ s : Session, s.Numbered →
    s.Predicts maths → (∀ shot ∈ s.snapshots maths events, shot.1.Settled maths shot.2) →
    (s.run maths events).Numbered ∧ (s.run maths events).Predicts maths ∧
      ∀ shot ∈ s.snapshots maths events, shot.1.Undisturbed maths shot.2 := by
  induction events with
  | nil => exact fun s hnumbered hpredicts _ => ⟨hnumbered, hpredicts, fun _ h => by cases h⟩
  | cons e events ih =>
      intro s hnumbered hpredicts hsettled
      cases e with
      | frame angle boost nowMs =>
          exact ih _ (hnumbered.after maths _) (hpredicts.frame angle boost nowMs) hsettled
      | snapshot acknowledged =>
          obtain ⟨hfirst, hlater⟩ := List.forall_mem_cons.mp hsettled
          have hstate := settled_state hnumbered hpredicts hfirst
          obtain ⟨hnumbered', hpredicts', hrest⟩ :=
            ih _ (hnumbered.after maths _) (hstate.trans hpredicts) hlater
          exact ⟨hnumbered', hpredicts',
            List.forall_mem_cons.mpr ⟨undisturbed_of_state hstate, hrest⟩⟩

end Session

/-! ### Where what is pending goes forward -/

/-- A cosine and a sine are of a point of the circle, and a small hypotenuse is of small sides, up
to what a platform may round. -/
structure Platform (maths : Maths) : Prop where
  circle : ∀ angle, maths.cos angle ^ 2 + maths.sin angle ^ 2 ≤ 101 / 100
  hypot : ∀ x y, maths.hypot x y ≤ 2 → x ^ 2 + y ^ 2 ≤ 5

/-- Some steps from a position stay within a billion units. -/
def Inside (state : PredictedState) (steps : ℕ) : Prop :=
  |state.x| + 130 * steps ≤ 2 ^ 30 ∧ |state.y| + 130 * steps ≤ 2 ^ 30

/-- How far some inputs lead at most, of a second each. -/
def reach (mass : ℚ) (inputs : List InputCommand) : ℚ :=
  (inputs.map fun command => speed mass command.boost).sum

section Reach
variable (mass : ℚ)

/-- A snake goes between its slowest and its fastest. -/
theorem speed_bounds (boost : Bool) : 220 ≤ speed mass boost ∧ speed mass boost ≤ 420 := by
  unfold speed
  cases boost && decide (MIN_BOOST_MASS < mass) <;> decide +kernel

/-- What a list of inputs may move is not negative. -/
theorem reach_nonneg (inputs : List InputCommand) : 0 ≤ reach mass inputs := by
  refine List.sum_nonneg fun v hv => ?_
  obtain ⟨command, -, rfl⟩ := List.mem_map.mp hv
  linarith [speed_bounds mass command.boost]

theorem reach_cons (command : InputCommand) (inputs : List InputCommand) :
    reach mass (command :: inputs) = speed mass command.boost + reach mass inputs := by
  unfold reach
  rw [List.map_cons, List.sum_cons]

/-- A part of them moves less. -/
theorem reach_drop (inputs : List InputCommand) (n : ℕ) :
    reach mass (inputs.drop n) ≤ reach mass inputs := by
  have hsplit : reach mass inputs = reach mass (inputs.take n) + reach mass (inputs.drop n) := by
    unfold reach
    rw [← List.sum_append, ← List.map_append, List.take_append_drop]
  linarith [reach_nonneg mass (inputs.take n)]

theorem reach_ge {inputs : List InputCommand} (h : inputs ≠ []) : 220 ≤ reach mass inputs := by
  obtain ⟨command, rest, rfl⟩ := List.exists_cons_of_ne_nil h
  rw [reach_cons]
  linarith [reach_nonneg mass rest, speed_bounds mass command.boost]

end Reach

/-- Below two billion, a rounding moves a number by less than a millionth. -/
theorem nearest_small {q : ℚ} (h : |q| ≤ 2 ^ 31) : |nearest q - q| ≤ 1 / 10 ^ 6 := by
  have hleast : (2 : ℚ) ^ (-1075 : ℤ) ≤ 2 ^ (-30 : ℤ) :=
    zpow_le_zpow_right₀ one_le_two (by norm_num)
  have herror := nearest_error q
  norm_num at hleast herror ⊢
  linarith

/-- What is rounded to a small number was as small. -/
theorem nearest_of_small {q : ℚ} (h : |nearest q| ≤ 3) : |nearest q - q| ≤ 1 / 10 ^ 6 := by
  have hleast : (2 : ℚ) ^ (-1075 : ℤ) ≤ 1 := zpow_le_one_of_nonpos₀ one_le_two (by norm_num)
  have herror := nearest_error q
  have htriangle := abs_sub_abs_le_abs_sub q (nearest q)
  rw [abs_sub_comm] at htriangle
  refine nearest_small ?_
  norm_num at hleast herror ⊢
  linarith

/-- A coordinate moves by the way along it, up to what is rounded. -/
theorem coordinate_near {x c d : ℚ} (hx : |x| ≤ 2 ^ 30) (hc : |c| ≤ 2) (hd : 0 ≤ d)
    (hd' : d ≤ 420) : |nearest (x + nearest (c * nearest d)) - x - c * d| ≤ 1 / 10 ^ 5 := by
  have hdistance := nearest_small (q := d) (by rw [abs_of_nonneg hd]; linarith)
  have hscaled : |c * nearest d - c * d| ≤ 2 * (1 / 10 ^ 6) := by
    rw [← mul_sub, abs_mul]
    exact mul_le_mul hc hdistance (abs_nonneg _) (by norm_num)
  have hcd : |c * d| ≤ 2 * 420 := by
    rw [abs_mul, abs_of_nonneg hd]
    exact mul_le_mul hc hd' hd (by norm_num)
  rw [abs_le] at hx hscaled hcd
  have hmoved := nearest_small (q := c * nearest d) (by rw [abs_le]; constructor <;> linarith)
  rw [abs_le] at hmoved
  have hsum := nearest_small (q := x + nearest (c * nearest d))
    (by rw [abs_le]; constructor <;> linarith)
  rw [abs_le] at hsum ⊢
  constructor <;> linarith

section Step
variable {maths : Maths} {state : PredictedState} {t : ℚ} {e : Vec}

/-- Sines and cosines are of the unit circle, up to their error. -/
theorem Platform.unit (hmaths : Platform maths) (angle : ℚ) :
    |maths.cos angle| ≤ 101 / 100 ∧ |maths.sin angle| ≤ 101 / 100 := by
  have hcircle := hmaths.circle angle
  constructor
  · exact abs_le_of_sq_le_sq (by linarith [sq_nonneg (maths.sin angle)]) (by norm_num)
  · exact abs_le_of_sq_le_sq (by linarith [sq_nonneg (maths.cos angle)]) (by norm_num)

/-- A step goes by the way along each axis, up to what is rounded. -/
theorem step_near (hmaths : Platform maths) (ht : 0 ≤ t) (ht' : t ≤ 3 / 10) (steps : ℕ)
    (hinside : Inside state steps) (command : InputCommand) :
    let next := stepPrediction maths state command t
    let distance := speed state.mass command.boost * t
    |next.x - state.x - maths.cos next.angle * distance| ≤ 1 / 10 ^ 5 ∧
      |next.y - state.y - maths.sin next.angle * distance| ≤ 1 / 10 ^ 5 := by
  dsimp only
  set next := stepPrediction maths state command t with hnext
  obtain ⟨hslow, hfast⟩ := speed_bounds state.mass command.boost
  obtain ⟨hcos, hsin⟩ := hmaths.unit next.angle
  have hsteps : (0 : ℚ) ≤ steps := steps.cast_nonneg
  have hd : 0 ≤ speed state.mass command.boost * t := by positivity
  have hd' : speed state.mass command.boost * t ≤ 420 := by nlinarith
  obtain ⟨hx, hy⟩ := hinside
  have hmovedx :=
    @coordinate_near state.x (maths.cos next.angle) _ (by linarith) (by linarith) hd hd'
  have hmovedy :=
    @coordinate_near state.y (maths.sin next.angle) _ (by linarith) (by linarith) hd hd'
  exact ⟨hmovedx, hmovedy⟩

/-- A step stays inside. -/
theorem step_inside (hmaths : Platform maths) (ht : 0 ≤ t) (ht' : t ≤ 3 / 10) {steps : ℕ}
    (hinside : Inside state (steps + 1)) (command : InputCommand) :
    Inside (stepPrediction maths state command t) steps := by
  obtain ⟨hx, hy⟩ := step_near hmaths ht ht' (steps + 1) hinside command
  set next := stepPrediction maths state command t
  obtain ⟨hslow, hfast⟩ := speed_bounds state.mass command.boost
  have hd : 0 ≤ speed state.mass command.boost * t := by positivity
  have hd' : speed state.mass command.boost * t ≤ 126 := by nlinarith
  -- a coordinate changes by the way at most
  have hbound : ∀ c : ℚ, |c| ≤ 101 / 100 →
      |c * (speed state.mass command.boost * t)| ≤ 101 / 100 * 126 := by
    intro c hc
    rw [abs_mul, abs_of_nonneg hd]
    exact mul_le_mul hc hd' hd (by norm_num)
  have hway := hmaths.unit next.angle
  have hcos := abs_le.mp (hbound _ hway.1)
  have hsin := abs_le.mp (hbound _ hway.2)
  rw [abs_le] at hx hy
  unfold Inside at hinside ⊢
  push_cast at hinside
  have hstatex := abs_le.mp (le_refl |state.x|)
  have hstatey := abs_le.mp (le_refl |state.y|)
  have hnextx : |next.x| ≤ |state.x| + 130 := by rw [abs_le]; constructor <;> linarith
  have hnexty : |next.y| ≤ |state.y| + 130 := by rw [abs_le]; constructor <;> linarith
  constructor <;> linarith

theorem unit_le (he : e.x ^ 2 + e.y ^ 2 ≤ 1) : |e.x| ≤ 1 ∧ |e.y| ≤ 1 :=
  ⟨abs_le_of_sq_le_sq (by linarith [sq_nonneg e.y]) zero_le_one,
    abs_le_of_sq_le_sq (by linarith [sq_nonneg e.x]) zero_le_one⟩

/-- A step in a direction, up to what is rounded. -/
theorem step_along (hmaths : Platform maths) (ht : 0 ≤ t) (ht' : t ≤ 3 / 10) {steps : ℕ}
    (hinside : Inside state steps) (he : e.x ^ 2 + e.y ^ 2 ≤ 1) (command : InputCommand) :
    let next := stepPrediction maths state command t
    let way := speed state.mass command.boost * t *
      (maths.cos next.angle * e.x + maths.sin next.angle * e.y)
    |(next.x - state.x) * e.x + (next.y - state.y) * e.y - way| ≤ 2 / 10 ^ 5 := by
  obtain ⟨hx, hy⟩ := step_near hmaths ht ht' steps hinside command
  dsimp only at hx hy ⊢
  set next := stepPrediction maths state command t
  obtain ⟨hex, hey⟩ := unit_le he
  have hroundx := mul_le_mul hx hex (abs_nonneg _) (by norm_num)
  have hroundy := mul_le_mul hy hey (abs_nonneg _) (by norm_num)
  rw [← abs_mul] at hroundx hroundy
  rw [abs_le] at hroundx hroundy ⊢
  constructor <;> linarith

end Step

section Pending
variable {maths : Maths} {e : Vec}

/-- A state that is that far inside is less far inside. -/
theorem Inside.mono {state : PredictedState} {m n : ℕ} (h : Inside state n) (hle : m ≤ n) :
    Inside state m := by
  have hcast : (m : ℚ) ≤ n := by exact_mod_cast hle
  exact ⟨by linarith [h.1], by linarith [h.2]⟩

/-- What has gone more than two units in a direction is more than two units away. -/
theorem lt_of_along (he : e.x ^ 2 + e.y ^ 2 ≤ 1) {x y c : ℚ} (hc : 0 ≤ c)
    (h : c < x * e.x + y * e.y) : c ^ 2 < x ^ 2 + y ^ 2 := by
  have hsquare : c ^ 2 < (x * e.x + y * e.y) ^ 2 := by gcongr
  have hcauchy : (x * e.x + y * e.y) ^ 2 ≤ (x ^ 2 + y ^ 2) * (e.x ^ 2 + e.y ^ 2) := by
    linarith [sq_nonneg (x * e.y - y * e.x)]
  have hunit := mul_le_mul_of_nonneg_left he (add_nonneg (sq_nonneg x) (sq_nonneg y))
  linarith

/-- What has gone far in a direction has a long hypotenuse. -/
theorem Platform.hypot_far (hmaths : Platform maths) (he : e.x ^ 2 + e.y ^ 2 ≤ 1) {x y : ℚ}
    (h : 4 ≤ x * e.x + y * e.y) : ¬maths.hypot (nearest x) (nearest y) ≤ 2 := by
  intro hsmall
  have hsides := hmaths.hypot _ _ hsmall
  have hnear : ∀ {q r : ℚ}, nearest q ^ 2 + r ^ 2 ≤ 5 → |nearest q - q| ≤ 1 / 10 ^ 6 := by
    intro q r hle
    exact nearest_of_small (abs_le_of_sq_le_sq (by linarith [sq_nonneg r]) (by norm_num))
  have hx := hnear hsides
  have hy := hnear ((add_comm _ _).trans_le hsides)
  obtain ⟨hex, hey⟩ := unit_le he
  have hroundx := mul_le_mul hx hex (abs_nonneg _) (by norm_num)
  have hroundy := mul_le_mul hy hey (abs_nonneg _) (by norm_num)
  rw [← abs_mul, abs_le] at hroundx hroundy
  have halong : 3 < nearest x * e.x + nearest y * e.y := by linarith
  have hapart := lt_of_along he (by norm_num) halong
  linarith

/-- Forward inputs lead at least this far in their direction. -/
theorem predicted_forward (hmaths : Platform maths) (he : e.x ^ 2 + e.y ^ 2 ≤ 1)
    (inputs : List InputCommand) : ∀ state : PredictedState, Inside state inputs.length →
      Forward maths e state inputs → (∀ command ∈ inputs, 50 ≤ command.dt ∧ command.dt ≤ 250) →
      reach state.mass inputs * (449 / 10000) ≤
        ((predicted maths state inputs).x - state.x) * e.x +
          ((predicted maths state inputs).y - state.y) * e.y := by
  induction inputs with
  | nil => exact fun _ _ _ _ => by simp [reach, predicted]
  | cons command inputs ih =>
      rintro state hinside ⟨hturn, hforward⟩ hdt
      obtain ⟨⟨hlow, hhigh⟩, hdt⟩ := List.forall_mem_cons.mp hdt
      have htime := nearest_small (q := command.dt / 1000)
        (by rw [abs_le]; constructor <;> linarith)
      rw [abs_le] at htime
      have htime₀ : 0 ≤ nearest (command.dt / 1000) := by linarith
      have htime₁ : nearest (command.dt / 1000) ≤ 3 / 10 := by linarith
      have hrest := ih _ (step_inside hmaths htime₀ htime₁ hinside command) hforward hdt
      have hstep := step_along hmaths htime₀ htime₁ hinside he command
      have hpredicted : predicted maths state (command :: inputs) = predicted maths
          (stepPrediction maths state command (nearest (command.dt / 1000))) inputs := rfl
      have hmass : (stepPrediction maths state command (nearest (command.dt / 1000))).mass =
        state.mass := rfl
      rw [hmass] at hrest
      rw [hpredicted, reach_cons]
      dsimp only at hturn hstep
      set next := stepPrediction maths state command (nearest (command.dt / 1000))
      obtain ⟨hslow, hfast⟩ := speed_bounds state.mass command.boost
      -- at least a twentieth of a second, within 25 degrees
      have hway : speed state.mass command.boost * ((1 / 20 - 1 / 10 ^ 6) * (9 / 10)) ≤
          speed state.mass command.boost * nearest (command.dt / 1000) *
            (maths.cos next.angle * e.x + maths.sin next.angle * e.y) := by
        rw [mul_assoc]
        gcongr
        linarith
      rw [abs_le] at hstep
      linarith

/-- A replay leads at most this far in any direction. -/
theorem replayed_le (hmaths : Platform maths) (he : e.x ^ 2 + e.y ^ 2 ≤ 1)
    (inputs : List InputCommand) : ∀ state : PredictedState, Inside state inputs.length →
      let replayed := inputs.foldl
        (fun state command => stepPrediction maths state command (nearest (1 / 30))) state
      (replayed.x - state.x) * e.x + (replayed.y - state.y) * e.y ≤
        reach state.mass inputs * (338 / 10000) := by
  have htime := nearest_small (q := 1 / 30) (by rw [abs_le]; constructor <;> norm_num)
  rw [abs_le] at htime
  have htime₀ : 0 ≤ nearest (1 / 30) := by linarith
  have htime₁ : nearest (1 / 30) ≤ 3 / 10 := by linarith
  induction inputs with
  | nil => exact fun _ _ => by simp [reach]
  | cons command inputs ih =>
      intro state hinside
      have hrest := ih _ (step_inside hmaths htime₀ htime₁ hinside command)
      have hstep := step_along hmaths htime₀ htime₁ hinside he command
      have hmass : (stepPrediction maths state command (nearest (1 / 30))).mass = state.mass := rfl
      rw [hmass] at hrest
      dsimp only at hrest hstep ⊢
      rw [List.foldl_cons, reach_cons]
      set next := stepPrediction maths state command (nearest (1 / 30))
      obtain ⟨hslow, hfast⟩ := speed_bounds state.mass command.boost
      -- the inner product of two vectors of about a unit
      have hinner : maths.cos next.angle * e.x + maths.sin next.angle * e.y ≤ 101 / 100 := by
        nlinarith [sq_nonneg (maths.cos next.angle - e.x), sq_nonneg (maths.sin next.angle - e.y),
          hmaths.circle next.angle]
      have hway : speed state.mass command.boost * nearest (1 / 30) *
          (maths.cos next.angle * e.x + maths.sin next.angle * e.y) ≤
            speed state.mass command.boost * (1 / 30 + 1 / 10 ^ 6) * (101 / 100) := by
        calc speed state.mass command.boost * nearest (1 / 30) *
              (maths.cos next.angle * e.x + maths.sin next.angle * e.y)
            ≤ speed state.mass command.boost * nearest (1 / 30) * (101 / 100) := by gcongr
          _ ≤ speed state.mass command.boost * (1 / 30 + 1 / 10 ^ 6) * (101 / 100) := by
              gcongr
              linarith
      rw [abs_le] at hstep
      linarith

/-- What is pending and goes forward has led away, farther than its replay leads. -/
theorem Session.disturbed_of_forward {s : Session} {acknowledged : ℕ} (hmaths : Platform maths)
    (he : e.x ^ 2 + e.y ^ 2 ≤ 1) (hnumbered : s.Numbered) (hpredicts : s.Predicts maths)
    (hinside : Inside (s.authoritative maths acknowledged) (s.unacknowledged acknowledged).length)
    (hforward : Forward maths e (s.authoritative maths acknowledged)
      (s.unacknowledged acknowledged))
    (hpending : s.unacknowledged acknowledged ≠ []) : ¬s.Undisturbed maths acknowledged := by
  have hstate := snapshot_state hnumbered hpredicts acknowledged
  have hahead := hpredicts.from_ack acknowledged
  have hsampled : ∀ command ∈ s.unacknowledged acknowledged,
      50 ≤ command.dt ∧ command.dt ≤ 250 :=
    fun command hcommand => hnumbered.sampled command (List.mem_of_mem_drop hcommand)
  dsimp only at hstate
  set start := s.authoritative maths acknowledged
  set inputs := s.unacknowledged acknowledged
  have hlive := predicted_forward hmaths he inputs start hinside hforward hsampled
  have hfar := reach_ge start.mass hpending
  set reached := predicted maths start inputs
  -- the error is over the threshold, so the snapshot replays
  have herror : ¬maths.hypot (nearest (reached.x - start.x)) (nearest (reached.y - start.y)) ≤ 2 :=
    hmaths.hypot_far he (by linarith)
  rw [if_neg herror] at hstate
  set kept := inputs.drop (max s.prediction.lastAckSeq
    (s.inputs.length - s.prediction.maxPending) - s.ackSeq acknowledged)
  have hkept : kept.length ≤ inputs.length := by
    rw [List.length_drop]
    omega
  have hreplayed := replayed_le hmaths he kept start (hinside.mono hkept)
  have hless : reach start.mass kept ≤ reach start.mass inputs := reach_drop _ _ _
  dsimp only at hreplayed
  rw [← hstate] at hreplayed
  unfold Undisturbed
  dsimp only
  rintro ⟨hposition, -⟩
  rw [hahead] at hposition
  set after := (s.after maths (.snapshot acknowledged)).prediction.state
  have hback : 2 < (reached.x - after.x) * e.x + (reached.y - after.y) * e.y := by linarith
  have hapart := lt_of_along he zero_le_two hback
  linarith

end Pending

/-- **Reconciliation does not disturb a correct prediction** in a run whose snapshots, each with the
client's own state, find nothing pending, or what is pending back where it began.  After such a run,
a snapshot that finds inputs pending that go forward always disturbs it. -/
theorem undisturbed_of_settled (maths : Maths) (initial : PredictedState) (events : List Event)
    (h : ∀ shot ∈ (Session.joined initial).snapshots maths events,
      shot.1.Settled maths shot.2) :
    (∀ shot ∈ (Session.joined initial).snapshots maths events, shot.1.Undisturbed maths shot.2) ∧
    ∀ (acknowledged : ℕ) (e : Vec), Platform maths → e.x ^ 2 + e.y ^ 2 ≤ 1 →
      let s := (Session.joined initial).run maths events
      let start := s.authoritative maths acknowledged
      let inputs := s.unacknowledged acknowledged
      Inside start inputs.length → Forward maths e start inputs →
        (s.Undisturbed maths acknowledged ↔ inputs = []) := by
  obtain ⟨hnumbered, hpredicts, hundisturbed⟩ :=
    Session.run_predicts maths events _ (.joined initial) rfl h
  refine ⟨hundisturbed, fun acknowledged e hmaths he hinside hforward => ⟨fun hkept => ?_, ?_⟩⟩
  · by_contra hpending
    exact Session.disturbed_of_forward hmaths he hnumbered hpredicts hinside hforward hpending hkept
  · intro hnone
    exact Session.undisturbed_of_state (Session.settled_state hnumbered hpredicts (.inl hnone))

/-! ### A snake that turns round -/

/-- The tangent of a heading's half, as a quotient of polynomials. -/
def halfTangent (angle : ℚ) : ℚ :=
  let x := angle / 2
  x * (10395 - 1260 * x ^ 2 + 21 * x ^ 4) / (10395 - 4725 * x ^ 2 + 210 * x ^ 4 - x ^ 6)

/-- The platform, to two places for a heading in the first turn. -/
def turning : Maths where
  sqrt q := Nat.sqrt ⌊q * 10 ^ 12⌋₊ / 10 ^ 6
  cos angle := (1 - halfTangent angle ^ 2) / (1 + halfTangent angle ^ 2)
  sin angle := 2 * halfTangent angle / (1 + halfTangent angle ^ 2)
  hypot x y := Nat.sqrt ⌊(x ^ 2 + y ^ 2) * 10 ^ 12⌋₊ / 10 ^ 6

theorem turning_hypot_le {x y : ℚ} (h : x ^ 2 + y ^ 2 ≤ 4) : turning.hypot x y ≤ 2 := by
  have hfloor : ⌊(x ^ 2 + y ^ 2) * 10 ^ 12⌋₊ ≤ (2 * 10 ^ 6) ^ 2 := by
    refine Nat.floor_le_of_le ?_
    push_cast
    linarith
  have hroot := (Nat.sqrt_le_sqrt hfloor).trans_eq (Nat.sqrt_eq' _)
  have hcast : (Nat.sqrt ⌊(x ^ 2 + y ^ 2) * 10 ^ 12⌋₊ : ℚ) ≤ 2 * 10 ^ 6 := by exact_mod_cast hroot
  exact (div_le_iff₀ (by norm_num)).mpr hcast

theorem turning_platform : Platform turning where
  circle angle := by
    unfold turning
    dsimp only
    have hpos : 0 < 1 + halfTangent angle ^ 2 := by positivity
    rw [div_pow, div_pow, ← add_div, div_le_iff₀ (by positivity)]
    nlinarith [sq_nonneg (1 + halfTangent angle ^ 2)]
  hypot x y h := by
    have hroot : Nat.sqrt ⌊(x ^ 2 + y ^ 2) * 10 ^ 12⌋₊ ≤ 2 * 10 ^ 6 := by
      have hcast : (Nat.sqrt ⌊(x ^ 2 + y ^ 2) * 10 ^ 12⌋₊ : ℚ) ≤ 2 * 10 ^ 6 :=
        (div_le_iff₀ (by norm_num)).mp h
      exact_mod_cast hcast
    have hfloor := Nat.lt_of_floor_lt (Nat.sqrt_lt'.mp (Nat.lt_succ_of_le hroot))
    push_cast at hfloor
    linarith

def atOrigin : PredictedState := ⟨0, 0, 0, 10⟩

/-- One input ahead that is acknowledged, six that turn the snake round, and a seventh. -/
def turnedRound : List Event :=
  [.frame 0 false 1000, .frame 0 false 1030, .snapshot 1, .frame (3 / 2) false 1250,
    .frame (5 / 2) false 1500, .frame (-5 / 2) false 1750, .frame (-3 / 2) false 2000,
    .frame (-1 / 2) false 2250, .frame (1 / 2) false 2500, .snapshot 1, .frame 0 false 2750]

theorem undisturbed_of_settled_turnedRound :
    (∀ shot ∈ (Session.joined atOrigin).snapshots turning turnedRound,
      shot.1.Undisturbed turning shot.2) ∧
    ¬((Session.joined atOrigin).run turning turnedRound).Undisturbed turning 7 := by
  have hrun := undisturbed_of_settled turning atOrigin turnedRound fun shot hshot => by
    rcases List.mem_cons.mp hshot with rfl | hshot
    · exact .inl (by decide +kernel)
    · rcases List.mem_singleton.mp hshot with rfl
      exact .inr (turning_hypot_le (by decide +kernel))
  refine ⟨hrun.1, fun hkept => ?_⟩
  have hpending : ((Session.joined atOrigin).run turning turnedRound).unacknowledged 7 =
      [⟨8, 0, false, 250⟩] := by decide +kernel
  have hexact := hrun.2 7 ⟨1, 0⟩ turning_platform (by norm_num)
  dsimp only at hexact
  rw [hpending] at hexact
  have hiff := hexact ⟨by decide +kernel, by decide +kernel⟩ ⟨by decide +kernel, trivial⟩
  exact List.cons_ne_nil _ _ (hiff.mp hkept)

/-- The first input that a client samples, a second after the page has loaded; it is predicted 55
units ahead and replayed 7. -/
theorem disturbed_by_sampled :
    ∃ shot ∈ (Session.joined atOrigin).snapshots turning [.frame 0 false 1000, .snapshot 0],
      (shot.1.unacknowledged shot.2).map InputCommand.dt = [250] ∧
        ¬shot.1.Undisturbed turning shot.2 := by
  refine ⟨_, List.mem_singleton_self _, by decide +kernel, ?_⟩
  rintro ⟨hposition, -⟩
  revert hposition
  decide +kernel

end SnakeArena.Web
