import SnakeArena.Library.OrderedMap
import SnakeArena.Library.TokenBucket
import Mathlib.Data.Rat.Cast.Order
import Mathlib.Tactic.Positivity

/-!
# Realtime — the connection guard

`io/middleware/connection-guard.ts`: a token bucket for each address that connects, and a sweep
that drops idle entries.  Token counts are exact.

A bucket that is dropped is one that the next attempt would find full, and an attempt that finds
no bucket makes a full one: the guard that sweeps and the guard that does not give the same
answers (`Forgets`), and those of one address are the answers of one bucket.
-/

namespace SnakeArena.Realtime
open SnakeArena.Library

structure ConnectionAttempt where
  /-- Token-bucket credit. -/
  tokens : ℚ
  lastRefillMs : ℚ
deriving DecidableEq

structure ConnectionGuardOptions where
  /-- Sustained connections per second allowed from one address. -/
  ratePerSecond : ℚ
  /-- How many may arrive at once. -/
  burst : ℚ
  /-- Entries idle this long are dropped. -/
  idleTtlMs : ℚ

def DEFAULT_CONNECTION_GUARD : ConnectionGuardOptions := ⟨2, 10, 60000⟩

structure ConnectionGuard where
  buckets : OrderedMap String ConnectionAttempt

namespace ConnectionGuard
variable (options : ConnectionGuardOptions)

def new : ConnectionGuard := ⟨.empty⟩

/-- True when the attempt is allowed; consumes a token if so. -/
def tryConsume (guard : ConnectionGuard) (address : String) (now : ℚ) : Bool × ConnectionGuard :=
  let bucket := (guard.buckets.get address).getD ⟨options.burst, now⟩
  let elapsed := max 0 (now - bucket.lastRefillMs)
  let tokens := min options.burst (bucket.tokens + elapsed / 1000 * options.ratePerSecond)
  if tokens < 1 then (false, ⟨guard.buckets.set address ⟨tokens, now⟩⟩)
  else (true, ⟨guard.buckets.set address ⟨tokens - 1, now⟩⟩)

/-- An idle bucket that would be full by now. -/
def evicts (now : ℚ) (bucket : ConnectionAttempt) : Bool :=
  let idle := now - bucket.lastRefillMs
  let refilled := bucket.tokens + idle / 1000 * options.ratePerSecond
  options.idleTtlMs < idle ∧ options.burst ≤ refilled

/-- Drops idle entries, and counts them. -/
def sweep (guard : ConnectionGuard) (now : ℚ) : ℕ × ConnectionGuard :=
  let buckets := guard.buckets.filter fun _ bucket => !evicts options now bucket
  (guard.buckets.size - buckets.size, ⟨buckets⟩)

end ConnectionGuard

/-- What is asked of a guard. -/
inductive GuardCall where
  | tryConsume (address : String) (now : ℚ)
  | sweep (now : ℚ)

namespace GuardCall

def now : GuardCall → ℚ
  | .tryConsume _ now | .sweep now => now

def isAttempt : GuardCall → Bool
  | .tryConsume _ _ => true
  | .sweep _ => false

/-- Of an attempt. -/
def address : GuardCall → Option String
  | .tryConsume address _ => some address
  | .sweep _ => none

end GuardCall

/-- An attempt, and what it was answered. -/
structure Answered where
  address : String
  now : ℚ
  allowed : Bool
deriving DecidableEq

namespace ConnectionGuard
variable (options : ConnectionGuardOptions)

/-- The answers of a run. -/
def answers : ConnectionGuard → List GuardCall → List Answered
  | _, [] => []
  | guard, .tryConsume address now :: calls =>
      ⟨address, now, (guard.tryConsume options address now).1⟩ ::
        answers (guard.tryConsume options address now).2 calls
  | guard, .sweep now :: calls => answers (guard.sweep options now).2 calls

/-! ### One address -/

/-- The bucket of every address, with times in milliseconds. -/
def bucket : TokenBucket ℚ := ⟨options.ratePerSecond / 1000, options.burst⟩

/-- What an address has.  One that the guard does not know has a full bucket. -/
def level (guard : ConnectionGuard) (address : String) : TokenBucket.Level ℚ :=
  match guard.buckets.get address with
  | some bucket => ⟨bucket.tokens, bucket.lastRefillMs⟩
  | none => ⟨options.burst, 0⟩

variable {options} {guard guard' : ConnectionGuard} {address other : String} {now : ℚ}

/-- An attempt that finds no bucket makes a full one. -/
theorem refilled_level (hrate : 0 < options.ratePerSecond) :
    (bucket options).refilled (guard.level options address) now =
      min options.burst (((guard.buckets.get address).getD ⟨options.burst, now⟩).tokens +
        max 0 (now - ((guard.buckets.get address).getD ⟨options.burst, now⟩).lastRefillMs) / 1000 *
          options.ratePerSecond) := by
  unfold TokenBucket.refilled level bucket
  rcases guard.buckets.get address with _ | found
  · have hfull : 0 ≤ max 0 (now - 0) * (options.ratePerSecond / 1000) := by positivity
    simp only [Option.getD_none, sub_self, max_self, zero_div, zero_mul, add_zero, min_self]
    exact min_eq_left (le_add_of_nonneg_right hfull)
  · simp only [Option.getD_some]
    ring_nf

/-- An attempt takes a token of its address, and leaves the others. -/
theorem tryConsume_take (hrate : 0 < options.ratePerSecond) :
    (guard.tryConsume options address now).1 =
        ((bucket options).take (guard.level options address) now).1 ∧
      ∀ other, (guard.tryConsume options address now).2.level options other =
        if other = address then ((bucket options).take (guard.level options address) now).2
        else guard.level options other := by
  unfold tryConsume TokenBucket.take
  rw [refilled_level hrate]
  dsimp only
  split_ifs with hempty
  · refine ⟨rfl, fun other => ?_⟩
    unfold level
    rw [OrderedMap.get_set]
    split_ifs <;> rfl
  · refine ⟨rfl, fun other => ?_⟩
    unfold level
    rw [OrderedMap.get_set]
    split_ifs <;> rfl

/-! ### Two guards -/

/-- From now on, the buckets of an address are refilled to the same. -/
def Alike (options : ConnectionGuardOptions) (now : ℚ) (guard guard' : ConnectionGuard) : Prop :=
  ∀ address t, now ≤ t → (bucket options).refilled (guard.level options address) t =
    (bucket options).refilled (guard'.level options address) t

theorem Alike.later {later : ℚ} (h : Alike options now guard guard') (hle : now ≤ later) :
    Alike options later guard guard' := fun address t ht => h address t (hle.trans ht)

/-- A bucket that is dropped is full, from now on. -/
theorem alike_sweep (hrate : 0 < options.ratePerSecond) (h : Alike options now guard guard') :
    Alike options now (guard.sweep options now).2 guard' := by
  intro address t ht
  rw [← h address t ht]
  unfold sweep level
  dsimp only
  rw [OrderedMap.get_filter]
  rcases guard.buckets.get address with _ | found
  · rfl
  cases hevicts : evicts options now found with
  | false => rw [Option.filter_some_pos (by rw [hevicts]; rfl)]
  | true =>
      rw [Option.filter_some_neg (by rw [hevicts]; decide)]
      obtain ⟨-, hrefilled⟩ := of_decide_eq_true hevicts
      have hidle : (now - found.lastRefillMs) / 1000 * options.ratePerSecond ≤
          max 0 (t - found.lastRefillMs) * (options.ratePerSecond / 1000) := by
        have hle : now - found.lastRefillMs ≤ max 0 (t - found.lastRefillMs) :=
          le_max_of_le_right (sub_le_sub_right ht _)
        calc (now - found.lastRefillMs) / 1000 * options.ratePerSecond
            = (now - found.lastRefillMs) * (options.ratePerSecond / 1000) := by ring
          _ ≤ _ := mul_le_mul_of_nonneg_right hle (by positivity)
      have hfull : 0 ≤ max 0 (t - 0) * (options.ratePerSecond / 1000) := by positivity
      exact (min_eq_left (le_add_of_nonneg_right hfull)).trans
        (min_eq_left (hrefilled.trans (add_le_add_right hidle _))).symm

/-- Alike guards give the same answer, and are alike after it. -/
theorem alike_tryConsume (hrate : 0 < options.ratePerSecond) (h : Alike options now guard guard') :
    (guard.tryConsume options address now).1 = (guard'.tryConsume options address now).1 ∧
      Alike options now (guard.tryConsume options address now).2
        (guard'.tryConsume options address now).2 := by
  obtain ⟨hanswer, hlevel⟩ := @tryConsume_take options guard address now hrate
  obtain ⟨hanswer', hlevel'⟩ := @tryConsume_take options guard' address now hrate
  have htake := TokenBucket.take_congr (h address now le_rfl)
  refine ⟨by rw [hanswer, hanswer', htake], fun other t ht => ?_⟩
  rw [hlevel, hlevel', htake]
  split_ifs
  · rfl
  · exact h other t ht

/-- **Sweeps are invisible.** -/
theorem answers_filter (hrate : 0 < options.ratePerSecond) {calls : List GuardCall} :
    ∀ {now : ℚ} {guard guard' : ConnectionGuard}, Alike options now guard guard' →
      (now :: calls.map GuardCall.now).Pairwise (· ≤ ·) →
        answers options guard calls = answers options guard'
          (calls.filter GuardCall.isAttempt) := by
  induction calls with
  | nil => exact fun _ _ => rfl
  | cons call calls ih =>
      intro now guard guard' h hsorted
      have hle : now ≤ call.now := List.rel_of_pairwise_cons hsorted List.mem_cons_self
      cases call with
      | tryConsume address t =>
          have hlater : Alike options t guard guard' := h.later hle
          obtain ⟨hanswer, halike⟩ := @alike_tryConsume options guard guard' address t hrate hlater
          rw [List.filter_cons_of_pos rfl, answers, answers, hanswer,
            ih halike (List.Pairwise.of_cons hsorted)]
      | sweep t =>
          have hlater : Alike options t guard guard' := h.later hle
          rw [List.filter_cons_of_neg Bool.false_ne_true, answers,
            ih (alike_sweep hrate hlater) (List.Pairwise.of_cons hsorted)]

/-! ### The answers of one address -/

/-- When an address is allowed is when its bucket gives a token. -/
theorem allowed_takes (hrate : 0 < options.ratePerSecond) {calls : List GuardCall} :
    ∀ {guard : ConnectionGuard}, (∀ call ∈ calls, call.isAttempt = true) →
      ((answers options guard calls).filter fun a => a.address = address ∧ a.allowed).map
          Answered.now =
        (bucket options).takes (guard.level options address)
          ((calls.filter fun call => call.address = some address).map GuardCall.now) := by
  induction calls with
  | nil => exact fun _ => rfl
  | cons call calls ih =>
      intro guard hattempts
      have hrest := fun guard' => @ih guard' fun call h => hattempts call (List.mem_cons_of_mem _ h)
      cases call with
      | sweep t => exact absurd (hattempts _ List.mem_cons_self) Bool.false_ne_true
      | tryConsume other t =>
          obtain ⟨hanswer, hlevel⟩ := @tryConsume_take options guard other t hrate
          rw [answers]
          by_cases haddress : other = address
          · subst haddress
            have hcalls : (GuardCall.tryConsume other t :: calls).filter
                (fun call => call.address = some other) =
                .tryConsume other t :: calls.filter fun call => call.address = some other :=
              List.filter_cons_of_pos (decide_eq_true rfl)
            have hnext := hrest (guard.tryConsume options other t).2
            rw [hlevel, if_pos rfl] at hnext
            rw [hcalls, List.map_cons, GuardCall.now, TokenBucket.takes, ← hanswer]
            split_ifs with hallowed
            · rw [List.filter_cons_of_pos (by simpa using hallowed), List.map_cons, hnext]
            · rw [List.filter_cons_of_neg (by simpa using hallowed), hnext]
          · rw [List.filter_cons_of_neg (by simp [haddress]),
              List.filter_cons_of_neg (by simp [GuardCall.address, haddress]), hrest, hlevel,
              if_neg (Ne.symm haddress)]

/-- **Sweeping is invisible**, and no address is allowed more than the burst and what the rate
gives. -/
theorem sweep_invisible (options : ConnectionGuardOptions) (hrate : 0 < options.ratePerSecond)
    (hburst : 1 ≤ options.burst) (calls : List GuardCall)
    (hsorted : (calls.map GuardCall.now).Pairwise (· ≤ ·)) :
    answers options new calls = answers options new (calls.filter GuardCall.isAttempt) ∧
      ∀ address start stop, start ≤ stop →
        ((answers options new calls).countP fun a =>
          a.address = address ∧ a.allowed ∧ start ≤ a.now ∧ a.now ≤ stop : ℚ) ≤
          options.burst + options.ratePerSecond * ((stop - start) / 1000) := by
  have hanswers : answers options new calls =
      answers options new (calls.filter GuardCall.isAttempt) := by
    rcases calls with _ | ⟨call, calls⟩
    · rfl
    · have hsorted' : (call.now :: (call :: calls).map GuardCall.now).Pairwise (· ≤ ·) := by
        refine List.pairwise_cons.mpr ⟨fun t ht => ?_, hsorted⟩
        rcases List.mem_cons.mp ht with rfl | ht
        · exact le_rfl
        · exact List.rel_of_pairwise_cons hsorted ht
      exact answers_filter hrate (fun _ _ _ => rfl) hsorted'
  refine ⟨hanswers, fun address start stop hspan => ?_⟩
  have htakes := @allowed_takes options address hrate (calls.filter GuardCall.isAttempt) new
    fun call h => (List.mem_filter.mp h).2
  have htimes : (((calls.filter GuardCall.isAttempt).filter fun call =>
      call.address = some address).map GuardCall.now).Pairwise (· ≤ ·) :=
    hsorted.sublist ((List.filter_sublist.trans List.filter_sublist).map _)
  have hcount := TokenBucket.count_takes_le (b := bucket options) (s := new.level options address)
    (div_nonneg hrate.le (by norm_num)) (zero_le_one.trans hburst) hspan
    (zero_le_one.trans hburst) htimes
  rw [← htakes, List.countP_map, List.countP_filter] at hcount
  calc _ = _ := ?_
    _ ≤ _ := hcount
    _ = _ := by rw [bucket]; ring
  rw [hanswers]
  congr 2
  funext a
  rw [Function.comp, ← Bool.decide_and, decide_eq_decide]
  tauto

theorem sweep_invisible_reconnect :
    answers DEFAULT_CONNECTION_GUARD new
        [.tryConsume "a" 0, .sweep 70000, .tryConsume "a" 70001] =
      answers DEFAULT_CONNECTION_GUARD new [.tryConsume "a" 0, .tryConsume "a" 70001] :=
  (sweep_invisible DEFAULT_CONNECTION_GUARD (by decide) (by decide)
    [.tryConsume "a" 0, .sweep 70000, .tryConsume "a" 70001] (by decide)).1

end ConnectionGuard

end SnakeArena.Realtime
