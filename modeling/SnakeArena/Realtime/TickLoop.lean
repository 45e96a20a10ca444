import Mathlib.Data.Rat.Floor
import SnakeArena.Library.Rounding
import SnakeArena.Realtime.Manager

/-!
# Realtime — the deadlines of the tick loop

`startLoop` and `runTick` of `rooms/room-manager.ts`: the deadline of the next tick, and how many
steps a late tick simulates.  The clock is read in whole milliseconds.  The interval, the deadlines
and the lag are doubles: at most rates a deadline of a present clock is a fraction of a millisecond
that has been rounded to the spacing of its size, at every step.

* `runTick_manager`: what a tick does to the rooms is `RoomManager.runTick`.
* `due_eq`, `due_of_overloaded`: the rounded quotient counts the intervals that have passed.
* `punctual_unless_overloaded`: a tick leaves the first deadline after the clock exactly when it
  was less than five intervals late and no deadline was rounded across the clock.  A later one
  leaves the sixth.
-/

namespace SnakeArena.Realtime
open SnakeArena.Library
open SnakeArena.Library.Double (nearest IsDouble)

/-- The environment of the loop, as its schema takes it. -/
structure LoopConfig extends NodeConfig where
  tickRateHz : ℕ
  rate_min : 10 ≤ tickRateHz
  rate_max : tickRateHz ≤ 120

namespace LoopConfig

/-- A second over the rate, in milliseconds. -/
def interval (config : LoopConfig) : ℚ := 1000 / config.tickRateHz

def tickIntervalMs (config : LoopConfig) : ℚ := nearest config.interval

/-- The interval, as it is added to a clock of the years from 2004 to 2039: to a 4096th part of a
millisecond. -/
def presentInterval (config : LoopConfig) : ℚ :=
  Double.roundHalfEven (config.tickIntervalMs * 2 ^ 12) / 2 ^ 12

/-- `nextTickAt += TICK_INTERVAL_MS`. -/
def advance (config : LoopConfig) (nextTickAt : ℚ) : ℚ :=
  nearest (nextTickAt + config.tickIntervalMs)

end LoopConfig

structure TickLoop where
  manager : RoomManager
  nextTickAt : ℚ

namespace TickLoop

def startLoop (manager : RoomManager) (now : ℕ) : TickLoop := ⟨manager, now⟩

/-- One step: every room ticks, each with its own motion. -/
def step (config : LoopConfig) (now : ℕ) (loop : TickLoop) (motions : ℕ → Motion) : TickLoop :=
  ⟨loop.manager.tickRooms config.toNodeConfig now motions, config.advance loop.nextTickAt⟩

/-- How late a tick is. -/
def lag (loop : TickLoop) (now : ℕ) : ℚ := nearest (now - loop.nextTickAt)

/-- The ticks that are due, before the cap. -/
def due (config : LoopConfig) (loop : TickLoop) (now : ℕ) : ℤ :=
  1 + ⌊nearest (loop.lag now / config.tickIntervalMs)⌋

/-- How many steps a tick simulates. -/
def steps (config : LoopConfig) (loop : TickLoop) (now : ℕ) : ℕ :=
  if 5 < loop.due config now then 5 else (loop.due config now).toNat

/-- The motions are those of each step, by room. -/
def runTick (config : LoopConfig) (loop : TickLoop) (now : ℕ) (motions : ℕ → ℕ → Motion) :
    TickLoop :=
  -- Time that is dropped: the deadline is reset, and each step still advances it.
  let reset := if 5 < loop.due config now then { loop with nextTickAt := now } else loop
  let stepped := ((List.range (loop.steps config now)).map motions).foldl (step config now) reset
  { stepped with
    manager := (stepped.manager.reportFinishedMatches config.toNodeConfig now).reapEmptyRooms }

/-! ### What a tick leaves -/

/-- The steps of a call, and the deadlines that they add. -/
theorem foldl_step (config : LoopConfig) (now : ℕ) (motions : List (ℕ → Motion)) :
    ∀ loop : TickLoop, motions.foldl (step config now) loop =
      ⟨loop.manager.ticked config.toNodeConfig now motions,
        config.advance^[motions.length] loop.nextTickAt⟩ := by
  induction motions with
  | nil => intro loop; simp [RoomManager.ticked]
  | cons motion motions ih =>
      intro loop
      rw [List.foldl_cons, ih]
      simp only [step, RoomManager.ticked, List.foldl_cons, List.length_cons,
        Function.iterate_succ_apply]

theorem runTick_manager (config : LoopConfig) (loop : TickLoop) (now : ℕ)
    (motions : ℕ → ℕ → Motion) :
    (loop.runTick config now motions).manager =
      loop.manager.runTick config.toNodeConfig now
        ((List.range (loop.steps config now)).map motions) := by
  unfold runTick RoomManager.runTick
  dsimp only
  rw [foldl_step]
  split_ifs <;> rfl

/-- The deadline after a call: as many intervals on as steps, or dropped. -/
theorem runTick_nextTickAt (config : LoopConfig) (loop : TickLoop) (now : ℕ)
    (motions : ℕ → ℕ → Motion) :
    (loop.runTick config now motions).nextTickAt =
      config.advance^[loop.steps config now]
        (if 5 < loop.due config now then (now : ℚ) else loop.nextTickAt) := by
  unfold runTick
  dsimp only
  rw [foldl_step, List.length_map, List.length_range]
  split_ifs <;> rfl

/-- A call simulates five steps at most. -/
theorem steps_le (config : LoopConfig) (loop : TickLoop) (now : ℕ) :
    loop.steps config now ≤ 5 := by
  unfold steps
  split_ifs <;> omega

end TickLoop

/-! ### The rounded interval -/

namespace LoopConfig
variable (config : LoopConfig)

/-- The interval of every configuration that is accepted. -/
theorem interval_bounds : 25 / 3 ≤ config.interval ∧ config.interval ≤ 100 := by
  have hmin : (10 : ℚ) ≤ config.tickRateHz := by exact_mod_cast config.rate_min
  have hmax : (config.tickRateHz : ℚ) ≤ 120 := by exact_mod_cast config.rate_max
  have hpos : (0 : ℚ) < config.tickRateHz := by linarith
  unfold interval
  constructor
  · rw [le_div_iff₀ hpos]
    linarith
  · rw [div_le_iff₀ hpos]
    linarith

/-- The same of its double. -/
theorem tickIntervalMs_bounds : 8 ≤ config.tickIntervalMs ∧ config.tickIntervalMs ≤ 100 := by
  obtain ⟨hmin, hmax⟩ := config.interval_bounds
  have height := Double.isDouble_natCast (n := 8) (by norm_num)
  have hhundred := Double.isDouble_natCast (n := 100) (by norm_num)
  exact ⟨height.le_nearest (by push_cast; linarith), hhundred.nearest_le (by push_cast; exact hmax)⟩

/-- The interval is rounded by less than a 2 ^ 46th part of a millisecond. -/
theorem tickIntervalMs_close : |config.tickIntervalMs - config.interval| ≤ 1 / 2 ^ 47 := by
  obtain ⟨hmin, hmax⟩ := config.interval_bounds
  have hspacing : Double.quantum config.interval ≤ 2 ^ (-46 : ℤ) := by
    refine Double.quantum_le (by omega) (by linarith) ?_
    rw [abs_of_pos (by linarith)]
    norm_num
    linarith
  calc |config.tickIntervalMs - config.interval| ≤ Double.quantum config.interval / 2 :=
        Double.nearest_close _
    _ ≤ 2 ^ (-46 : ℤ) / 2 := div_le_div_of_nonneg_right hspacing zero_le_two
    _ = 1 / 2 ^ 47 := by norm_num

/-- At every rate, where a few intervals end on the grid of the clock, their quotient is not
rounded below their number. -/
theorem quotient_exact : ∀ rate : ℕ, rate ≤ 120 → 10 ≤ rate → ∀ k : ℕ, k ≤ 5 →
    k * 1000 * 2 ^ 32 % rate = 0 →
      (k : ℚ) ≤ nearest (k * (1000 / rate) / nearest (1000 / rate)) := by
  decide +kernel

/-- At no rate is the interval half way between two deadlines of the clock of today. -/
theorem interval_no_tie : ∀ rate : ℕ, rate ≤ 120 → 10 ≤ rate →
    |nearest (1000 / rate) * 2 ^ 12 - Double.roundHalfEven (nearest (1000 / rate) * 2 ^ 12)| <
      1 / 2 := by
  decide +kernel

/-- A later deadline stays later. -/
theorem advance_mono : Monotone config.advance := fun _ _ h => Double.nearest_mono (by linarith)

/-- A step later. -/
theorem advance_close {d : ℚ} (h₀ : 0 ≤ d) (h : d ≤ 9 * 10 ^ 15) :
    |config.advance d - (d + config.tickIntervalMs)| ≤ 1 / 2 := by
  obtain ⟨hmin, hmax⟩ := config.tickIntervalMs_bounds
  have hspacing : Double.quantum (d + config.tickIntervalMs) ≤ 2 ^ (0 : ℤ) := by
    refine Double.quantum_le (by omega) (by linarith) ?_
    rw [abs_of_pos (by linarith)]
    norm_num
    linarith
  rw [zpow_zero] at hspacing
  exact (Double.nearest_close _).trans (by linarith)

end LoopConfig

/-! ### What is due -/

namespace TickLoop

/-- A deadline of a clock that is past the first minutes of 1970. -/
structure Clocked (loop : TickLoop) : Prop where
  isDouble : IsDouble loop.nextTickAt
  late : (2 : ℚ) ^ 20 ≤ loop.nextTickAt

section Due
variable {config : LoopConfig} {loop : TickLoop} {now : ℕ}

/-- The time past the deadline has few bits. -/
theorem Clocked.grid (h : loop.Clocked) (now : ℕ) :
    ∃ a : ℤ, (now : ℚ) - loop.nextTickAt = a / 2 ^ 32 := by
  have hlate := h.late
  obtain ⟨n, hn⟩ := @Double.nearest_grid loop.nextTickAt 20
    (by rw [abs_of_nonneg (by linarith)]; exact_mod_cast hlate)
  rw [h.isDouble] at hn
  refine ⟨now * 2 ^ 32 - n, ?_⟩
  rw [hn]
  push_cast
  norm_num
  ring

/-- The lag is exact while the loop is not far behind. -/
theorem Clocked.lag_eq (h : loop.Clocked) (hle : loop.nextTickAt ≤ now)
    (hlt : now - loop.nextTickAt ≤ 512) : loop.lag now = now - loop.nextTickAt := by
  obtain ⟨a, ha⟩ := h.grid now
  have hbounds : 0 ≤ a ∧ a ≤ 512 * 2 ^ 32 := by
    have h₀ : (0 : ℚ) ≤ a / 2 ^ 32 := by linarith
    have h₁ : (a : ℚ) / 2 ^ 32 ≤ 512 := by linarith
    rw [le_div_iff₀ (by positivity), zero_mul] at h₀
    rw [div_le_iff₀ (by positivity)] at h₁
    exact ⟨by exact_mod_cast h₀, by exact_mod_cast h₁⟩
  have hgrid := Double.nearest_of_grid (n := a) (e := -32) (by omega)
    (by rw [abs_of_nonneg hbounds.1]; omega)
  unfold lag
  rw [ha, show (a : ℚ) / 2 ^ 32 = a * 2 ^ (-32 : ℤ) by norm_num; ring]
  exact hgrid

/-- A time on the grid of the clock that is not a number of intervals is well away from it. -/
theorem apart_below {a : ℤ} {k : ℕ} (h : (a : ℚ) / 2 ^ 32 < k * config.interval) :
    (a : ℚ) / 2 ^ 32 + 1 / 2 ^ 39 ≤ k * config.interval := by
  have hmin : (10 : ℚ) ≤ config.tickRateHz := by exact_mod_cast config.rate_min
  have hmax : (config.tickRateHz : ℚ) ≤ 120 := by exact_mod_cast config.rate_max
  have hpos : (0 : ℚ) < config.tickRateHz := by linarith
  unfold LoopConfig.interval at h ⊢
  rw [← mul_div_assoc, lt_div_iff₀ hpos, div_mul_eq_mul_div, div_lt_iff₀ (by positivity)] at h
  have hint : a * config.tickRateHz + 1 ≤ k * 1000 * 2 ^ 32 := by exact_mod_cast h
  have hcast : (a : ℚ) * config.tickRateHz + 1 ≤ k * 1000 * 2 ^ 32 := by exact_mod_cast hint
  rw [← mul_div_assoc, le_div_iff₀ hpos]
  linarith

/-- A deadline on the clock's grid is not within rounding of a reading above it. -/
theorem apart_above {a : ℤ} {k : ℕ} (h : k * config.interval < (a : ℚ) / 2 ^ 32) :
    k * config.interval + 1 / 2 ^ 39 ≤ (a : ℚ) / 2 ^ 32 := by
  have hmin : (10 : ℚ) ≤ config.tickRateHz := by exact_mod_cast config.rate_min
  have hmax : (config.tickRateHz : ℚ) ≤ 120 := by exact_mod_cast config.rate_max
  have hpos : (0 : ℚ) < config.tickRateHz := by linarith
  unfold LoopConfig.interval at h ⊢
  rw [← mul_div_assoc, div_lt_iff₀ hpos, div_mul_eq_mul_div, lt_div_iff₀ (by positivity)] at h
  have hint : k * 1000 * 2 ^ 32 + 1 ≤ a * config.tickRateHz := by exact_mod_cast h
  have hcast : (k : ℚ) * 1000 * 2 ^ 32 + 1 ≤ a * config.tickRateHz := by exact_mod_cast hint
  rw [← mul_div_assoc, ← le_sub_iff_add_le, div_le_iff₀ hpos]
  linarith

/-- **The rounded quotient counts the intervals that have passed.**  Both the lag and the end of
an interval are coarser than the quotient's rounding. -/
theorem Clocked.passed_iff (h : loop.Clocked) (hafter : loop.nextTickAt ≤ now) {k : ℕ}
    (hk : k ≤ 5) : (k : ℤ) ≤ ⌊nearest (loop.lag now / config.tickIntervalMs)⌋ ↔
      k * config.interval ≤ now - loop.nextTickAt := by
  obtain ⟨hmin, hmax⟩ := config.interval_bounds
  obtain ⟨hmin', hmax'⟩ := config.tickIntervalMs_bounds
  obtain ⟨hbelow, habove⟩ := abs_le.mp config.tickIntervalMs_close
  have hpos : 0 < config.tickIntervalMs := by linarith
  have hfive : (k : ℚ) ≤ 5 := by exact_mod_cast hk
  have hk₀ : (0 : ℚ) ≤ k := Nat.cast_nonneg k
  have hdouble : IsDouble k := Double.isDouble_natCast (by omega)
  obtain ⟨a, ha⟩ := h.grid now
  rw [Int.le_floor, Int.cast_natCast]
  constructor
  · intro hle
    by_contra hlt
    rw [not_le, ha] at hlt
    have hapart := apart_below hlt
    rw [← ha] at hapart
    have hcap : (k : ℚ) * config.interval ≤ 5 * 100 := by gcongr
    rw [h.lag_eq hafter (by linarith)] at hle
    -- the double before k is not below the quotient
    have hbefore : IsDouble (k - 1 / 2 ^ 49) := by
      have hgrid := Double.nearest_of_grid (n := k * 2 ^ 49 - 1) (e := -49) (by omega)
        (abs_le.mpr ⟨by omega, by omega⟩)
      rwa [show ((k * 2 ^ 49 - 1 : ℤ) : ℚ) * 2 ^ (-49 : ℤ) = k - 1 / 2 ^ 49 by
        push_cast; norm_num; ring] at hgrid
    have hquotient : (now - loop.nextTickAt) / config.tickIntervalMs ≤ k - 1 / 2 ^ 49 := by
      rw [div_le_iff₀ hpos]
      have hmul := mul_le_mul_of_nonneg_left hbelow hk₀
      linarith
    linarith [hbefore.nearest_le hquotient]
  · intro hle
    rcases le_or_gt ((now : ℚ) - loop.nextTickAt) 512 with hnear | hfar
    · rw [h.lag_eq hafter hnear]
      rcases lt_or_eq_of_le hle with hlt | heq
      · rw [ha] at hlt
        have hapart := apart_above hlt
        rw [← ha] at hapart
        refine hdouble.le_nearest ((le_div_iff₀ hpos).mpr ?_)
        have hmul := mul_le_mul_of_nonneg_left habove hk₀
        linarith
      · have hends : k * 1000 * 2 ^ 32 % config.tickRateHz = 0 := by
          have hrate : (config.tickRateHz : ℚ) ≠ 0 := by
            exact_mod_cast (show config.tickRateHz ≠ 0 by have := config.rate_min; omega)
          have hcast : (k : ℚ) * 1000 * 2 ^ 32 = a * config.tickRateHz := by
            rw [ha, LoopConfig.interval] at heq
            field_simp at heq
            linarith
          have hint : ((k * 1000 * 2 ^ 32 : ℕ) : ℤ) = a * config.tickRateHz := by
            exact_mod_cast hcast
          have hdvd : (config.tickRateHz : ℤ) ∣ ((k * 1000 * 2 ^ 32 : ℕ) : ℤ) :=
            ⟨a, by rw [hint]; ring⟩
          exact Nat.mod_eq_zero_of_dvd (by exact_mod_cast hdvd)
        rw [← heq]
        exact LoopConfig.quotient_exact _ config.rate_max config.rate_min k hk hends
    · have hlag : (512 : ℚ) ≤ loop.lag now := by
        have hdouble := Double.isDouble_natCast (n := 512) (by norm_num)
        exact_mod_cast hdouble.le_nearest (by push_cast; exact hfar.le)
      refine hdouble.le_nearest ((le_div_iff₀ hpos).mpr ?_)
      have hcap : (k : ℚ) * config.tickIntervalMs ≤ 5 * 100 := by gcongr
      linarith

/-- The cap is off exactly where the tick is less than five intervals late. -/
theorem Clocked.due_le_iff (h : loop.Clocked) (hafter : loop.nextTickAt ≤ now) :
    loop.due config now ≤ 5 ↔ now - loop.nextTickAt < 5 * config.interval := by
  have hpassed := @Clocked.passed_iff config loop now h hafter 5 le_rfl
  push_cast at hpassed
  rw [← not_le, ← hpassed]
  unfold due
  omega

/-- The deadlines that have passed are the first ones. -/
theorem Clocked.lt_due_iff (h : loop.Clocked) (hafter : loop.nextTickAt ≤ now) {k : ℕ}
    (hk : k ≤ 5) : (k : ℤ) < loop.due config now ↔
      k * config.interval ≤ now - loop.nextTickAt := by
  rw [← h.passed_iff hafter hk]
  unfold due
  omega

end Due

/-! ### One call -/

/-- A call of `runTick`, by what it found and what it read. -/
structure Call where
  loop : TickLoop
  now : ℕ
  motions : ℕ → ℕ → Motion

/-- The calls of a loop, one for each reading of the clock. -/
def calls (config : LoopConfig) (loop : TickLoop) : List (ℕ × (ℕ → ℕ → Motion)) → List Call
  | [] => []
  | (now, motions) :: later =>
      ⟨loop, now, motions⟩ :: (loop.runTick config now motions).calls config later

/-- The last millisecond that a clock reads. -/
def maxTime : ℕ := 8640000000000000

namespace Call

/-- The deadline that the call leaves. -/
def nextTickAt (config : LoopConfig) (call : Call) : ℚ :=
  (call.loop.runTick config call.now call.motions).nextTickAt

/-- The deadlines from the one that the call found. -/
def deadline (config : LoopConfig) (call : Call) (k : ℕ) : ℚ :=
  config.advance^[k] call.loop.nextTickAt

/-- The timer does not fire before the deadline. -/
def AfterDeadline (call : Call) : Prop := call.loop.nextTickAt ≤ call.now

def Overloaded (config : LoopConfig) (call : Call) : Prop :=
  5 * config.interval ≤ call.now - call.loop.nextTickAt

/-- The next deadline is the first one after the clock, and a step was simulated for each one that
had passed, up to five. -/
structure Punctual (config : LoopConfig) (call : Call) : Prop where
  later : call.now < call.nextTickAt config
  soon : call.nextTickAt config ≤ config.advance call.now
  capped : call.loop.steps config call.now ≤ 5
  steps : ¬call.Overloaded config → ∀ k : ℕ, k < call.loop.steps config call.now ↔
    call.deadline config k ≤ call.now

/-- The tick is less than five intervals late, and each of the next deadlines is on the side of
the clock where it would be if no step were rounded. -/
structure Timely (config : LoopConfig) (call : Call) : Prop where
  early : ¬call.Overloaded config
  unmoved : ∀ k ≤ 5, call.deadline config k ≤ call.now ↔
    call.loop.nextTickAt + k * config.interval ≤ call.now

end Call

section Call
variable {config : LoopConfig} {call : Call}

/-- Deadlines are doubles. -/
theorem isDouble_iterate (n : ℕ) {d : ℚ} (h : IsDouble d) : IsDouble (config.advance^[n] d) := by
  cases n with
  | zero => exact h
  | succ n =>
      rw [Function.iterate_succ_apply']
      exact Double.isDouble_nearest _

/-- They grow. -/
theorem iterate_mono {d : ℚ} (h : IsDouble d) : Monotone fun n => config.advance^[n] d := by
  refine monotone_nat_of_le_succ fun n => ?_
  rw [Function.iterate_succ_apply']
  have hmin := config.tickIntervalMs_bounds.1
  exact (isDouble_iterate n h).le_nearest (by linarith)

/-- A few steps later. -/
theorem iterate_close {d : ℚ} (h₀ : 0 ≤ d) (h : d ≤ maxTime) : ∀ n ≤ 5,
    |config.advance^[n] d - (d + n * config.tickIntervalMs)| ≤ n / 2 := by
  obtain ⟨hmin, hmax⟩ := config.tickIntervalMs_bounds
  have htime : d ≤ 8640000000000000 := by exact_mod_cast h
  intro n hn
  induction n with
  | zero => simp
  | succ n ih =>
      have hcast : (n : ℚ) ≤ 4 := by exact_mod_cast Nat.le_of_succ_le_succ hn
      have hn₀ : (0 : ℚ) ≤ n := Nat.cast_nonneg n
      have hspan : 0 ≤ (n : ℚ) * config.tickIntervalMs ∧ n * config.tickIntervalMs ≤ 4 * 100 :=
        ⟨by positivity, by gcongr⟩
      have hspan' : (n : ℚ) * 8 ≤ n * config.tickIntervalMs := by gcongr
      obtain ⟨hbelow, habove⟩ := abs_le.mp (ih (by omega))
      obtain ⟨hbelow', habove'⟩ := abs_le.mp (config.advance_close
        (d := config.advance^[n] d) (by linarith) (by linarith))
      rw [Function.iterate_succ_apply']
      push_cast
      exact abs_le.mpr ⟨by linarith, by linarith⟩

namespace Call

/-- How many steps a call simulates, by its deadlines. -/
theorem steps_lt_iff (h : call.loop.Clocked) (hafter : call.AfterDeadline)
    (hearly : ¬call.Overloaded config) {k : ℕ} (hk : k ≤ 5) :
    k < call.loop.steps config call.now ↔
      call.loop.nextTickAt + k * config.interval ≤ call.now := by
  have hdue := (h.due_le_iff hafter).mpr (not_le.mp hearly)
  have hpassed := @Clocked.lt_due_iff config call.loop call.now h hafter k hk
  rw [steps, if_neg (not_lt.mpr hdue), Int.lt_toNat, hpassed]
  constructor
  · intro hle; linarith
  · intro hle; linarith

/-- A call that is not overloaded drops nothing. -/
theorem nextTickAt_of_early (h : call.loop.Clocked) (hafter : call.AfterDeadline)
    (hearly : ¬call.Overloaded config) :
    call.nextTickAt config = call.deadline config (call.loop.steps config call.now) := by
  have hdue := (h.due_le_iff hafter).mpr (not_le.mp hearly)
  rw [nextTickAt, runTick_nextTickAt, if_neg (not_lt.mpr hdue), deadline]

/-- A timely call is punctual. -/
theorem Timely.punctual (h : call.loop.Clocked) (hafter : call.AfterDeadline)
    (ht : call.Timely config) : call.Punctual config := by
  have hcap := call.loop.steps_le config call.now
  have hnext := nextTickAt_of_early h hafter ht.early
  have hsteps : ∀ k ≤ 5, k < call.loop.steps config call.now ↔
      call.deadline config k ≤ call.now := fun k hk =>
    (steps_lt_iff h hafter ht.early hk).trans (ht.unmoved k hk).symm
  -- the first deadline has passed, so the last one that has is before the one that is left
  obtain ⟨last, hlast⟩ : ∃ last, call.loop.steps config call.now = last + 1 := by
    have hfirst := (hsteps 0 (by omega)).mpr hafter
    exact ⟨call.loop.steps config call.now - 1, by omega⟩
  have hlater : call.now < call.nextTickAt config := by
    rw [hnext]
    exact not_le.mp fun hle => lt_irrefl _ ((hsteps _ hcap).mpr hle)
  refine ⟨hlater, ?_, hcap, fun _ k => ?_⟩
  · rw [hnext, hlast, deadline, Function.iterate_succ_apply']
    exact config.advance_mono ((hsteps last (by omega)).mp (by omega))
  · rcases le_or_gt k 5 with hk | hk
    · exact hsteps k hk
    · refine iff_of_false (by omega) (not_le.mpr (hlater.trans_le ?_))
      rw [hnext]
      exact iterate_mono h.isDouble (by omega)

/-- Time is dropped, and then the five steps are added to the clock. -/
theorem nextTickAt_of_overloaded (h : call.loop.Clocked) (hafter : call.AfterDeadline)
    (hover : call.Overloaded config) :
    call.nextTickAt config = config.advance^[5] call.now := by
  have hdue : 5 < call.loop.due config call.now :=
    not_le.mp fun hle => not_lt.mpr hover ((h.due_le_iff hafter).mp hle)
  rw [nextTickAt, runTick_nextTickAt, if_pos hdue, steps, if_pos hdue]

/-- The loop pauses for more than four intervals. -/
theorem pauses (hnow : call.now ≤ maxTime) :
    call.now + 4 * config.tickIntervalMs < config.advance^[5] call.now := by
  have hmin := config.tickIntervalMs_bounds.1
  have hclose := abs_le.mp (@iterate_close config call.now (Nat.cast_nonneg _)
    (by exact_mod_cast hnow) 5 le_rfl)
  push_cast at hclose
  linarith [hclose.1]

/-- **A call is punctual if and only if it is timely.**. -/
theorem punctual_iff (h : call.loop.Clocked) (hafter : call.AfterDeadline)
    (hnow : call.now ≤ maxTime) : call.Punctual config ↔ call.Timely config := by
  refine ⟨fun hp => ?_, fun ht => ht.punctual h hafter⟩
  have hearly : ¬call.Overloaded config := by
    intro hover
    have hsoon := hp.soon
    have hpauses := @pauses config call hnow
    have hmin := config.tickIntervalMs_bounds.1
    have htime : (call.now : ℚ) ≤ 8640000000000000 := by exact_mod_cast hnow
    have hone := abs_le.mp (config.advance_close (d := call.now) (Nat.cast_nonneg _)
      (by linarith))
    rw [nextTickAt_of_overloaded h hafter hover] at hsoon
    linarith [hone.2]
  exact ⟨hearly, fun k hk => (hp.steps hearly k).symm.trans (steps_lt_iff h hafter hearly hk)⟩

end Call

end Call

/-! ### The clock of today -/

section Present
variable {config : LoopConfig}

/-- The interval in units of the present's quantum. -/
theorem presentInterval_bounds (config : LoopConfig) :
    7 ≤ config.presentInterval ∧ config.presentInterval ≤ 101 := by
  obtain ⟨hmin, hmax⟩ := config.tickIntervalMs_bounds
  obtain ⟨hbelow, habove⟩ := abs_le.mp (Double.roundHalfEven_close (config.tickIntervalMs * 2 ^ 12))
  unfold LoopConfig.presentInterval
  generalize Double.roundHalfEven (config.tickIntervalMs * 2 ^ 12) = n at hbelow habove ⊢
  constructor
  · rw [le_div_iff₀ (by positivity)]
    linarith
  · rw [div_le_iff₀ (by positivity)]
    linarith

/-- Every step of a present clock is the same. -/
theorem advance_present {d : ℚ} (hd : IsDouble d) (hfrom : (2 : ℚ) ^ 40 ≤ d)
    (hto : d + 100 < 2 ^ 41) : config.advance d = d + config.presentInterval := by
  obtain ⟨hmin, hmax⟩ := config.tickIntervalMs_bounds
  obtain ⟨n, hn⟩ := @Double.nearest_grid d 40
    (by rw [abs_of_nonneg (by linarith)]; exact_mod_cast hfrom)
  rw [hd, show (40 - 52 : ℤ) = -12 by norm_num] at hn
  have hpos : (0 : ℚ) < d + config.tickIntervalMs := by linarith
  have hspacing : Double.quantum (d + config.tickIntervalMs) = 2 ^ (-12 : ℤ) := by
    refine Double.quantum_eq (e := 40) (by omega) ?_ ?_
    · rw [abs_of_pos hpos]
      exact_mod_cast hfrom.trans (by linarith)
    · rw [abs_of_pos hpos]
      norm_num at hto ⊢
      linarith
  have hscaled : (d + config.tickIntervalMs) / 2 ^ (-12 : ℤ) =
      n + config.tickIntervalMs * 2 ^ 12 := by
    rw [hn]
    norm_num
    ring
  have htie : |config.tickIntervalMs * 2 ^ 12 -
      Double.roundHalfEven (config.tickIntervalMs * 2 ^ 12)| < 1 / 2 :=
    LoopConfig.interval_no_tie _ config.rate_max config.rate_min
  unfold LoopConfig.advance LoopConfig.presentInterval Double.nearest
  rw [hspacing, hscaled, Double.roundHalfEven_intCast_add htie]
  conv_rhs => rw [hn]
  push_cast
  norm_num
  ring

namespace Call
variable {call : Call}

/-- **Deadlines of the present advance by whole units.**. -/
theorem deadline_present (h : call.loop.Clocked) (hafter : call.AfterDeadline)
    (hfrom : (2 : ℚ) ^ 40 ≤ call.loop.nextTickAt) (hto : (call.now : ℚ) + 1000 ≤ 2 ^ 41) :
    ∀ k ≤ 5, call.deadline config k = call.loop.nextTickAt + k * config.presentInterval := by
  obtain ⟨hmin, hmax⟩ := presentInterval_bounds config
  have hstart : call.loop.nextTickAt ≤ call.now := hafter
  intro k hk
  unfold deadline
  induction k with
  | zero => simp
  | succ k ih =>
      have hcast : (k : ℚ) ≤ 4 := by exact_mod_cast Nat.le_of_succ_le_succ hk
      have hspan : (k : ℚ) * config.presentInterval ≤ 4 * 101 := by gcongr
      have hspan₀ : 0 ≤ (k : ℚ) * config.presentInterval := by positivity
      rw [Function.iterate_succ_apply', ih (by omega), advance_present]
      · push_cast
        ring
      · rw [← ih (by omega)]
        exact isDouble_iterate k h.isDouble
      · linarith
      · linarith

/-- **Of a present clock**, no deadline is moved across the reading exactly when the time past the
deadline is as many whole intervals whether or not they are rounded. -/
theorem timely_iff_present (h : call.loop.Clocked) (hafter : call.AfterDeadline)
    (hfrom : (2 : ℚ) ^ 40 ≤ call.loop.nextTickAt) (hto : (call.now : ℚ) + 1000 ≤ 2 ^ 41) :
    call.Timely config ↔ ¬call.Overloaded config ∧
      ⌊(call.now - call.loop.nextTickAt) / config.presentInterval⌋ =
        ⌊(call.now - call.loop.nextTickAt) / config.interval⌋ := by
  have hpos : 0 < config.interval := by linarith [config.interval_bounds.1]
  have hpos' : 0 < config.presentInterval := by linarith [(presentInterval_bounds config).1]
  have hunmoved : (∀ k ≤ 5, call.deadline config k ≤ call.now ↔
      call.loop.nextTickAt + k * config.interval ≤ call.now) ↔
      ∀ k : ℕ, k ≤ 5 →
        ((k : ℤ) ≤ ⌊(call.now - call.loop.nextTickAt) / config.presentInterval⌋ ↔
          (k : ℤ) ≤ ⌊(call.now - call.loop.nextTickAt) / config.interval⌋) := by
    refine forall₂_congr fun k hk => ?_
    rw [deadline_present h hafter hfrom hto k hk, Int.le_floor, Int.le_floor, le_div_iff₀ hpos,
      le_div_iff₀ hpos', Int.cast_natCast, le_sub_iff_add_le', le_sub_iff_add_le']
  have hstart : (0 : ℚ) ≤ call.now - call.loop.nextTickAt := sub_nonneg.mpr hafter
  have hfloor₀ := Int.floor_nonneg.mpr (div_nonneg hstart hpos.le)
  have hfloor₀' := Int.floor_nonneg.mpr (div_nonneg hstart hpos'.le)
  have hearly : ¬call.Overloaded config →
      ⌊(call.now - call.loop.nextTickAt) / config.interval⌋ < 5 := fun h => by
    rw [Int.floor_lt, div_lt_iff₀ hpos]
    exact_mod_cast not_le.mp h
  refine ⟨fun ht => ⟨ht.early, ?_⟩, fun ht => ⟨ht.1, hunmoved.mpr fun k _ => by rw [ht.2]⟩⟩
  have hsame := hunmoved.mp ht.unmoved
  have hlt := hearly ht.early
  generalize ⌊(call.now - call.loop.nextTickAt) / config.presentInterval⌋ = a at *
  generalize ⌊(call.now - call.loop.nextTickAt) / config.interval⌋ = b at *
  obtain ⟨b, rfl⟩ := Int.eq_ofNat_of_zero_le hfloor₀
  have habove := (hsame b (by omega)).mpr le_rfl
  have hbelow := hsame (b + 1) (by omega)
  push_cast at hbelow
  omega

end Call

end Present

/-! ### Runs of the loop -/

/-- A loop that starts at a reading of the clock. -/
theorem Clocked.startLoop {manager : RoomManager} {start : ℕ} (hstart : 2 ^ 20 ≤ start)
    (hmax : start ≤ maxTime) : (startLoop manager start).Clocked := by
  have hcast : ((2 ^ 20 : ℕ) : ℚ) ≤ start := by exact_mod_cast hstart
  push_cast at hcast
  exact ⟨Double.isDouble_natCast (hmax.trans (by norm_num [maxTime])), hcast⟩

/-- A call keeps the deadline on the clock's grid. -/
theorem Clocked.runTick {config : LoopConfig} {loop : TickLoop} (h : loop.Clocked) {now : ℕ}
    (hafter : loop.nextTickAt ≤ now) (hnow : now ≤ maxTime) (motions : ℕ → ℕ → Motion) :
    (loop.runTick config now motions).Clocked := by
  have hreset : IsDouble (if 5 < loop.due config now then (now : ℚ) else loop.nextTickAt) ∧
      (2 : ℚ) ^ 20 ≤ if 5 < loop.due config now then (now : ℚ) else loop.nextTickAt := by
    split_ifs
    · exact ⟨Double.isDouble_natCast (hnow.trans (by norm_num [maxTime])), h.late.trans hafter⟩
    · exact ⟨h.isDouble, h.late⟩
  refine ⟨?_, ?_⟩
  · rw [runTick_nextTickAt]
    exact isDouble_iterate _ hreset.1
  · rw [runTick_nextTickAt]
    exact hreset.2.trans (iterate_mono hreset.1 (Nat.zero_le _))

/-- Every call finds a deadline of the clock. -/
theorem Clocked.calls {config : LoopConfig} {readings : List (ℕ × (ℕ → ℕ → Motion))} :
    ∀ {loop : TickLoop}, loop.Clocked →
      (∀ call ∈ loop.calls config readings, call.AfterDeadline ∧ call.now ≤ maxTime) →
      ∀ call ∈ loop.calls config readings, call.loop.Clocked := by
  induction readings with
  | nil => rintro loop - - call ⟨⟩
  | cons reading readings ih =>
      obtain ⟨now, motions⟩ := reading
      intro loop h hreadings call hcall
      rw [TickLoop.calls, List.forall_mem_cons] at hreadings
      rcases List.mem_cons.mp hcall with rfl | hcall
      · exact h
      · exact ih (h.runTick hreadings.1.1 hreadings.1.2 motions) hreadings.2 call hcall

/-- **The tick loop never runs ahead of the clock** while it is less than five intervals late and
no deadline was rounded across the clock: a call leaves the first deadline after the clock exactly
then.  A later one drops the time and still adds its five steps to the clock, so that the loop
pauses.  Of a clock of today the roundings come to one comparison of whole intervals. -/
theorem punctual_unless_overloaded (config : LoopConfig) (manager : RoomManager) {start : ℕ}
    (hstart : 2 ^ 20 ≤ start ∧ start ≤ maxTime) (readings : List (ℕ × (ℕ → ℕ → Motion)))
    (h : ∀ call ∈ (startLoop manager start).calls config readings,
      call.AfterDeadline ∧ call.now ≤ maxTime) :
    ((∀ call ∈ (startLoop manager start).calls config readings, call.Punctual config) ↔
      ∀ call ∈ (startLoop manager start).calls config readings, call.Timely config) ∧
    ∀ call ∈ (startLoop manager start).calls config readings,
      (call.Overloaded config → call.nextTickAt config = config.advance^[5] call.now ∧
        call.now + 4 * config.tickIntervalMs < call.nextTickAt config) ∧
      ((2 : ℚ) ^ 40 ≤ call.loop.nextTickAt → (call.now : ℚ) + 1000 ≤ 2 ^ 41 →
        (call.Timely config ↔ ¬call.Overloaded config ∧
          ⌊(call.now - call.loop.nextTickAt) / config.presentInterval⌋ =
            ⌊(call.now - call.loop.nextTickAt) / config.interval⌋)) := by
  have hstarted : (startLoop manager start).Clocked := .startLoop hstart.1 hstart.2
  have hclocked := hstarted.calls h
  refine ⟨forall₂_congr fun call hcall =>
    Call.punctual_iff (hclocked call hcall) (h call hcall).1 (h call hcall).2,
    fun call hcall => ⟨fun hover => ?_,
      Call.timely_iff_present (hclocked call hcall) (h call hcall).1⟩⟩
  have hnext := Call.nextTickAt_of_overloaded (hclocked call hcall) (h call hcall).1 hover
  exact ⟨hnext, hnext ▸ Call.pauses (h call hcall).2⟩

/-! ### A loop that falls behind -/

/-- The defaults of the schema. -/
def thirtyHz : LoopConfig := ⟨⟨"node", 50, 32, 30000⟩, 30, by omega, by omega⟩

def tenHz : LoopConfig :=
  { thirtyHz with tickRateHz := 10, rate_min := le_refl 10, rate_max := by omega }

/-- Nothing moves. -/
def still : ℕ → ℕ → Motion := fun _ _ => ⟨fun _ => 0, fun _ => false, fun _ => [], 0⟩

/-- Two ticks in time, and one that is four intervals late. -/
def lateReadings : List (ℕ × (ℕ → ℕ → Motion)) :=
  [(1700000000000, still), (1700000000034, still), (1700000000200, still)]

theorem punctual_unless_overloaded_late :
    ((startLoop .new 1700000000000).calls thirtyHz lateReadings).Forall
      fun call => call.Punctual thirtyHz := by
  refine List.forall_iff_forall_mem.mpr
    ((punctual_unless_overloaded thirtyHz .new (by decide) lateReadings ?_).1.mpr ?_)
  · unfold lateReadings calls calls calls calls
    simp only [List.forall_mem_cons, Call.AfterDeadline, List.not_mem_nil, false_imp_iff,
      implies_true, and_true]
    decide +kernel
  · unfold lateReadings calls calls calls calls
    simp only [List.forall_mem_cons, List.not_mem_nil, false_imp_iff, implies_true, and_true]
    refine ⟨⟨?_, ?_⟩, ⟨?_, ?_⟩, ⟨?_, ?_⟩⟩ <;>
      simp only [Call.Overloaded, Call.deadline] <;> decide +kernel

/-- The node stalls for 600 ms; the next tick is 500 ms away, and not within 100 ms. -/
theorem pauses_after_overload :
    ∃ call ∈ (startLoop .new 1700000000000).calls tenHz [(1700000000600, still)],
      call.AfterDeadline ∧ call.nextTickAt tenHz = call.now + 500 ∧
        tenHz.tickIntervalMs = 100 ∧ ¬call.Punctual tenHz := by
  refine ⟨_, List.mem_singleton_self _, by unfold Call.AfterDeadline; decide +kernel, ?_,
    by decide +kernel, fun h => ?_⟩
  · unfold Call.nextTickAt
    rw [runTick_nextTickAt]
    decide +kernel
  · have hsoon := h.soon
    unfold Call.nextTickAt at hsoon
    rw [runTick_nextTickAt] at hsoon
    revert hsoon
    decide +kernel

end TickLoop

end SnakeArena.Realtime
