import Mathlib.Data.Rat.Cast.Order
import SnakeArena.Library.Processes

/-!
# Sdk — the circuit breaker

`tx/circuit-breaker.ts`: any number of concurrent `execute` calls share one breaker.  A call reads
the clock once, when it starts, and its failure is dated by that reading.

Beside the breaker an observer writes down what the calls came to (`Seen`), which nothing reads.

* `one_probe_loose`: where no call that was admitted by a closed circuit fails and opens it under a
  probe, one probe is in flight at most, and the circuit closes after its probes have succeeded.
-/

namespace SnakeArena.Sdk
open SnakeArena.Library

inductive CircuitState where
  | closed | opened | halfOpen
deriving DecidableEq

structure CircuitBreakerOptions where
  /-- Failures within the window before the circuit opens. -/
  failureThreshold : ℚ
  windowMs : ℚ
  /-- How long to reject outright before allowing a probe. -/
  cooldownMs : ℚ
  /-- Consecutive probe successes required to fully close again. -/
  successThreshold : ℚ

def DEFAULT_BREAKER : CircuitBreakerOptions := ⟨5, 30000, 10000, 2⟩

structure CircuitBreaker where
  state : CircuitState
  failures : List ℚ
  openedAtMs : ℚ
  probeSuccesses : ℕ
  /-- Set while a half-open probe is in flight. -/
  probeInFlight : Bool

/-- Whether a call may proceed, and as what. -/
structure Decision where
  allowed : Bool
  probe : Bool
  /-- Of the error that a rejected call throws. -/
  retryAfterMs : ℚ

/-- How a call that runs comes to an end. -/
inductive Settled where
  | resolves | rejects
deriving DecidableEq

namespace CircuitBreaker
variable (o : CircuitBreakerOptions)

def new : CircuitBreaker := ⟨.closed, [], 0, 0, false⟩

/-- Half-open: exactly one caller gets through at a time. -/
def admitProbe (b : CircuitBreaker) : Decision × CircuitBreaker :=
  if b.probeInFlight then (⟨false, false, o.cooldownMs⟩, b)
  else (⟨true, true, 0⟩, { b with probeInFlight := true })

/-- The `admit` of the source. -/
def admitCall (b : CircuitBreaker) (now : ℚ) : Decision × CircuitBreaker :=
  match b.state with
  | .closed => (⟨true, false, 0⟩, b)
  | .opened =>
      let elapsed := now - b.openedAtMs
      if elapsed < o.cooldownMs then (⟨false, false, o.cooldownMs - elapsed⟩, b)
      else { b with state := .halfOpen, probeSuccesses := 0, probeInFlight := false }.admitProbe o
  | .halfOpen => b.admitProbe o

def onSuccess (b : CircuitBreaker) (probe : Bool) : CircuitBreaker :=
  if probe then
    let b := { b with probeInFlight := false, probeSuccesses := b.probeSuccesses + 1 }
    if o.successThreshold ≤ b.probeSuccesses then
      { b with state := .closed, failures := [], probeSuccesses := 0 }
    else b
  else if b.state = .closed then { b with failures := [] } else b

/-- The failures of the window that ends at `now`, when a call that started then has failed. -/
def counted (b : CircuitBreaker) (now : ℚ) : List ℚ :=
  (b.failures ++ [now]).filter fun failedAt => now - failedAt < o.windowMs

def onFailure (b : CircuitBreaker) (now : ℚ) (probe : Bool) : CircuitBreaker :=
  if probe then { b with probeInFlight := false, state := .opened, openedAtMs := now }
  else
    let b := { b with failures := b.counted o now }
    if o.failureThreshold ≤ b.failures.length then { b with state := .opened, openedAtMs := now }
    else b

def settle (b : CircuitBreaker) (now : ℚ) (probe : Bool) : Settled → CircuitBreaker
  | .resolves => b.onSuccess o probe
  | .rejects => b.onFailure o now probe

end CircuitBreaker

/-! ### Calls -/

/-- Where an `execute` call is. -/
inductive Execution where
  | called
  /-- Admitted at `now`, and `fn` runs. -/
  | running (now : ℚ) (probe : Bool)
deriving DecidableEq

def Execution.isProbe : Execution → Bool
  | .called => false
  | .running _ probe => probe

/-- What an observer of the calls has seen. -/
structure Seen where
  /-- When ordinary calls failed, since the circuit last closed. -/
  failed : List ℚ
  /-- When the circuit last opened from closed. -/
  openedAt : Option ℚ
  /-- The probes that have succeeded since one last failed and the circuit last opened. -/
  streak : ℕ

/-- At `clock` the circuit goes from one state to another, when a call, a probe or not, may have
come to an end. -/
def Seen.after (seen : Seen) (clock : ℚ) (was becomes : CircuitState)
    (ended : Option (Bool × Settled)) : Seen where
  failed :=
    if was ≠ .closed ∧ becomes = .closed then []
    else if ended = some (false, .rejects) then clock :: seen.failed else seen.failed
  openedAt := if was = .closed ∧ becomes = .opened then some clock else seen.openedAt
  streak :=
    if ended = some (true, .resolves) then seen.streak + 1
    else if ended = some (true, .rejects) ∨ was ≠ .opened ∧ becomes = .opened then 0
    else seen.streak

structure Circuit where
  breaker : CircuitBreaker
  /-- What `Date.now()` reads. -/
  clock : ℚ
  seen : Seen

def Circuit.becomes (s : Circuit) (b : CircuitBreaker) (ended : Option (Bool × Settled)) :
    Circuit :=
  { s with breaker := b, seen := s.seen.after s.clock s.breaker.state b.state ended }

/-- The `execute` calls of one breaker, while time passes. -/
def calls (o : CircuitBreakerOptions) : Processes Circuit Execution Settled ℚ where
  starts p := p = .called
  resume _ s p c :=
    match p with
    | .called =>
        let decision := s.breaker.admitCall o s.clock
        (s.becomes decision.2 none,
          if decision.1.allowed then some (.running s.clock decision.1.probe) else none)
    | .running now probe =>
        (s.becomes (s.breaker.settle o now probe c) (some (probe, c)), none)
  other s now := if s.clock ≤ now then some { s with clock := now } else none

/-- A new breaker, at any time. -/
def Fresh (s : System Circuit Execution) : Prop :=
  ∃ clock, s = ⟨⟨.new, clock, ⟨[], none, 0⟩⟩, .empty⟩

/-! ### What a call can do -/

/-- Everything that `execute` can do next, and what is seen of it. -/
inductive Does (o : CircuitBreakerOptions) (s : Circuit) :
    Execution → Settled → Circuit → Option Execution → Prop where
  | admitted {c : Settled} (h : s.breaker.state = .closed) :
      Does o s .called c s (some (.running s.clock false))
  | rejected {c : Settled}
      (h : s.breaker.state = .opened ∧ s.clock - s.breaker.openedAtMs < o.cooldownMs ∨
        s.breaker.state = .halfOpen ∧ s.breaker.probeInFlight = true) :
      Does o s .called c s none
  | probes {c : Settled} {successes : ℕ}
      (h : s.breaker.state = .opened ∧ o.cooldownMs ≤ s.clock - s.breaker.openedAtMs ∧
          successes = 0 ∨
        s.breaker.state = .halfOpen ∧ s.breaker.probeInFlight = false ∧
          successes = s.breaker.probeSuccesses) :
      Does o s .called c
        { s with
          breaker := { s.breaker with
            state := .halfOpen, probeSuccesses := successes, probeInFlight := true } }
        (some (.running s.clock true))
  | clears {now : ℚ} (h : s.breaker.state = .closed) :
      Does o s (.running now false) .resolves
        { s with breaker := { s.breaker with failures := [] } } none
  | passes {now : ℚ} (h : s.breaker.state ≠ .closed) :
      Does o s (.running now false) .resolves s none
  | counts {now : ℚ} (h : ¬ o.failureThreshold ≤ (s.breaker.counted o now).length) :
      Does o s (.running now false) .rejects
        { s with
          breaker := { s.breaker with failures := s.breaker.counted o now }
          seen := { s.seen with failed := s.clock :: s.seen.failed } } none
  | opens {now : ℚ} (h : o.failureThreshold ≤ (s.breaker.counted o now).length) :
      Does o s (.running now false) .rejects
        { s with
          breaker := { s.breaker with
            state := .opened, failures := s.breaker.counted o now, openedAtMs := now }
          seen :=
            { failed := s.clock :: s.seen.failed
              openedAt := if s.breaker.state = .closed then some s.clock else s.seen.openedAt
              streak := if s.breaker.state = .opened then s.seen.streak else 0 } } none
  | succeeds {now : ℚ} (h : ¬ o.successThreshold ≤ (s.breaker.probeSuccesses + 1 : ℕ)) :
      Does o s (.running now true) .resolves
        { s with
          breaker := { s.breaker with
            probeSuccesses := s.breaker.probeSuccesses + 1, probeInFlight := false }
          seen := { s.seen with streak := s.seen.streak + 1 } } none
  | closes {now : ℚ} (h : o.successThreshold ≤ (s.breaker.probeSuccesses + 1 : ℕ)) :
      Does o s (.running now true) .resolves
        { s with
          breaker := { s.breaker with
            state := .closed, failures := [], probeSuccesses := 0, probeInFlight := false }
          seen := { s.seen with
            failed := if s.breaker.state = .closed then s.seen.failed else []
            streak := s.seen.streak + 1 } } none
  | reopens {now : ℚ} :
      Does o s (.running now true) .rejects
        { s with
          breaker := { s.breaker with state := .opened, openedAtMs := now, probeInFlight := false }
          seen := { s.seen with
            openedAt := if s.breaker.state = .closed then some s.clock else s.seen.openedAt
            streak := 0 } } none

section
variable {o : CircuitBreakerOptions} {s : Circuit}

/-- A state that the circuit stays in. -/
theorem Seen.after_same {seen : Seen} {clock : ℚ} {state : CircuitState}
    {ended : Option (Bool × Settled)} :
    seen.after clock state state ended =
      { failed := if ended = some (false, .rejects) then clock :: seen.failed else seen.failed
        openedAt := seen.openedAt
        streak :=
          if ended = some (true, .resolves) then seen.streak + 1
          else if ended = some (true, .rejects) then 0 else seen.streak } := by
  cases state <;> simp [Seen.after]

theorem resume_called (c : Settled) :
    Does o s .called c (s.becomes (s.breaker.admitCall o s.clock).2 none)
      (if (s.breaker.admitCall o s.clock).1.allowed then
        some (.running s.clock (s.breaker.admitCall o s.clock).1.probe) else none) := by
  have same : s.becomes s.breaker none = s := by
    simp [Circuit.becomes, Seen.after_same]
  cases hstate : s.breaker.state with
  | closed =>
      simp only [CircuitBreaker.admitCall, hstate, same, if_true]
      exact .admitted hstate
  | opened =>
      by_cases helapsed : s.clock - s.breaker.openedAtMs < o.cooldownMs
      · simp only [CircuitBreaker.admitCall, hstate, helapsed, if_true, same, Bool.false_eq_true,
          if_false]
        exact .rejected (.inl ⟨hstate, helapsed⟩)
      · have hsame : s.seen.after s.clock .opened .halfOpen none = s.seen := by simp [Seen.after]
        simp only [CircuitBreaker.admitCall, CircuitBreaker.admitProbe, hstate, helapsed, if_false,
          Bool.false_eq_true, if_true, Circuit.becomes, hsame]
        exact .probes (.inl ⟨hstate, not_lt.mp helapsed, rfl⟩)
  | halfOpen =>
      cases hprobe : s.breaker.probeInFlight with
      | true =>
          simp only [CircuitBreaker.admitCall, CircuitBreaker.admitProbe, hstate, hprobe, if_true,
            same, Bool.false_eq_true, if_false]
          exact .rejected (.inr ⟨hstate, hprobe⟩)
      | false =>
          simp only [CircuitBreaker.admitCall, CircuitBreaker.admitProbe, hstate, hprobe, if_true,
            Bool.false_eq_true, if_false, Circuit.becomes, Seen.after_same, reduceCtorEq]
          exact .probes (.inr ⟨hstate, hprobe, rfl⟩)

theorem resume_running (now : ℚ) (probe : Bool) (c : Settled) :
    Does o s (.running now probe) c (s.becomes (s.breaker.settle o now probe c) (some (probe, c)))
      none := by
  cases c with
  | resolves =>
      cases probe with
      | true =>
          by_cases hclose : o.successThreshold ≤ (s.breaker.probeSuccesses + 1 : ℕ)
          · have hsettle : s.breaker.settle o now true .resolves =
                { s.breaker with
                  state := .closed, failures := [], probeSuccesses := 0, probeInFlight := false } :=
              if_pos hclose
            rw [hsettle]
            simpa [Circuit.becomes, Seen.after] using @Does.closes o s now hclose
          · have hsettle : s.breaker.settle o now true .resolves =
                { s.breaker with
                  probeSuccesses := s.breaker.probeSuccesses + 1, probeInFlight := false } :=
              if_neg hclose
            rw [hsettle]
            simpa [Circuit.becomes, Seen.after_same] using @Does.succeeds o s now hclose
      | false =>
          by_cases hstate : s.breaker.state = .closed
          · have hsettle : s.breaker.settle o now false .resolves =
                { s.breaker with failures := [] } := if_pos hstate
            rw [hsettle]
            simpa [Circuit.becomes, Seen.after_same] using @Does.clears o s now hstate
          · have hsettle : s.breaker.settle o now false .resolves = s.breaker := if_neg hstate
            rw [hsettle]
            simpa [Circuit.becomes, Seen.after_same] using @Does.passes o s now hstate
  | rejects =>
      cases probe with
      | true =>
          have hsettle : s.breaker.settle o now true .rejects =
              { s.breaker with state := .opened, openedAtMs := now, probeInFlight := false } := rfl
          rw [hsettle]
          simpa [Circuit.becomes, Seen.after] using @Does.reopens o s now
      | false =>
          by_cases hopen : o.failureThreshold ≤ (s.breaker.counted o now).length
          · have hsettle : s.breaker.settle o now false .rejects =
                { s.breaker with
                  state := .opened, failures := s.breaker.counted o now, openedAtMs := now } :=
              if_pos hopen
            rw [hsettle]
            simpa [Circuit.becomes, Seen.after] using @Does.opens o s now hopen
          · have hsettle : s.breaker.settle o now false .rejects =
                { s.breaker with failures := s.breaker.counted o now } := if_neg hopen
            rw [hsettle]
            simpa [Circuit.becomes, Seen.after_same] using @Does.counts o s now hopen

theorem resume_does (o : CircuitBreakerOptions) (r : ℕ) (s : Circuit) (p : Execution)
    (c : Settled) :
    Does o s p c ((calls o).resume r s p c).1 ((calls o).resume r s p c).2 := by
  cases p with
  | called => exact resume_called c
  | running now probe => exact resume_running now probe c

end

/-! ### One probe -/

/-- A call that was admitted by a closed circuit does not open it while a probe is in flight. -/
def Punctual (o : CircuitBreakerOptions) (b : CircuitBreaker) : Execution → Settled → Prop
  | .running now false, .rejects => b.state = .halfOpen → b.probeInFlight = true →
      ¬ o.failureThreshold ≤ (b.counted o now).length
  | _, _ => True

instance (o : CircuitBreakerOptions) (b : CircuitBreaker) :
    ∀ p c, Decidable (Punctual o b p c)
  | .running _ false, .rejects => inferInstanceAs (Decidable (_ → _))
  | .running _ true, .rejects | .running _ false, .resolves | .running _ true, .resolves
  | .called, _ => inferInstanceAs (Decidable True)

def NoLateOpening (o : CircuitBreakerOptions) (s : System Circuit Execution) :
    Act Execution Settled ℚ → Prop
  | .resume r c => ∀ p ∈ s.procs.get r, Punctual o s.store.breaker p c
  | .start _ _ | .crash _ | .other _ => True

instance (o : CircuitBreakerOptions) (s : System Circuit Execution) :
    ∀ a, Decidable (NoLateOpening o s a)
  | .resume _ _ => inferInstanceAs (Decidable (∀ p ∈ _, _))
  | .start _ _ | .crash _ | .other _ => inferInstanceAs (Decidable True)

/-- The breaker knows of the call, if it is a probe. -/
def Known (b : CircuitBreaker) (p : Execution) : Prop :=
  p.isProbe = true → b.state = .halfOpen ∧ b.probeInFlight = true

/-- The two are not both probes. -/
def Apart (p q : Execution) : Prop := p.isProbe = true → q.isProbe = true → False

section
variable {o : CircuitBreakerOptions} {s s' : Circuit} {p q : Execution} {c : Settled}
  {p' : Option Execution}

/-- What a call does leaves another known, and is no second probe. -/
theorem Does.apart (h : Does o s p c s' p') (hpunctual : Punctual o s.breaker p c)
    (hq : Known s.breaker q) (hpq : Apart p q) :
    Known s'.breaker q ∧ ∀ p₁, p' = some p₁ → Apart p₁ q := by
  cases h with
  | admitted => exact ⟨hq, fun _ e => Option.some.inj e ▸ nofun⟩
  | rejected => exact ⟨hq, nofun⟩
  | probes hstate =>
      refine ⟨fun _ => ⟨rfl, rfl⟩, fun p₁ _ _ hprobe => ?_⟩
      obtain ⟨hhalf, hflight⟩ := hq hprobe
      rcases hstate with ⟨hopened, -⟩ | ⟨-, hnone, -⟩
      · exact nomatch hopened.symm.trans hhalf
      · exact nomatch hnone.symm.trans hflight
  | clears | passes | counts => exact ⟨hq, nofun⟩
  | opens hcount =>
      refine ⟨fun hprobe => ?_, nofun⟩
      obtain ⟨hhalf, hflight⟩ := hq hprobe
      exact absurd hcount (hpunctual hhalf hflight)
  | succeeds | closes | reopens => exact ⟨fun hprobe => (hpq rfl hprobe).elim, nofun⟩

theorem Does.known (h : Does o s p c s' p') : ∀ p₁, p' = some p₁ → Known s'.breaker p₁ := by
  cases h with
  | admitted => exact fun _ e => Option.some.inj e ▸ nofun
  | probes => exact fun _ _ _ => ⟨rfl, rfl⟩
  | rejected | clears | passes | counts | opens | succeeds | closes | reopens => exact nofun

/-- While half-open, the successes counted are seen. -/
def Witnessed (s : Circuit) : Prop :=
  s.breaker.state = .halfOpen → s.breaker.probeSuccesses ≤ s.seen.streak

theorem Does.witnessed (h : Does o s p c s' p') (hs : Witnessed s) : Witnessed s' := by
  cases h with
  | admitted | rejected | passes | clears | counts => exact hs
  | probes hstate =>
      rcases hstate with ⟨-, -, rfl⟩ | ⟨hhalf, -, rfl⟩
      · exact fun _ => Nat.zero_le _
      · exact fun _ => hs hhalf
  | succeeds => exact fun hhalf => Nat.succ_le_succ (hs hhalf)
  | opens | closes | reopens => exact nofun

end

/-- No second probe, and the breaker knows of the first. -/
theorem calls_apart (o : CircuitBreakerOptions) :
    (calls o).Keeps (NoLateOpening o) Witnessed (fun s _ p => Known s.breaker p) Apart where
  symm _ _ h hq hp := h hp hq
  start s r p _ _ hstarts := by
    obtain rfl : p = .called := of_decide_eq_true hstarts
    exact ⟨nofun, fun _ => nofun⟩
  resume s r p c hs hp hg := by
    obtain ⟨hwitnessed, hknown, hapart⟩ := hs
    have hdoes := resume_does o r s.store p c
    have hothers : ∀ r' ≠ r, ∀ q, s.procs.get r' = some q →
        Known ((calls o).resume r s.store p c).1.breaker q ∧
          ∀ p₁, ((calls o).resume r s.store p c).2 = some p₁ → Apart p₁ q := fun r' hne q hq =>
      hdoes.apart (hg p hp) (hknown r' q hq) (hapart r r' p q hne.symm hp hq)
    exact ⟨hdoes.witnessed hwitnessed,
      fun p₁ hp₁ => ⟨hdoes.known p₁ hp₁, fun r' hne q hq => (hothers r' hne q hq).2 p₁ hp₁⟩,
      fun r' hne q hq => (hothers r' hne q hq).1⟩
  other s now store hs _ hother := by
    obtain ⟨hwitnessed, hknown, -⟩ := hs
    simp only [calls, Option.ite_none_right_eq_some] at hother
    obtain rfl := Option.some.inj hother.2
    exact ⟨hwitnessed, hknown⟩

theorem Fresh.apart {s : System Circuit Execution} (h : Fresh s) :
    Processes.Holds Witnessed (fun s _ p => Known s.breaker p) Apart s := by
  obtain ⟨clock, rfl⟩ := h
  exact ⟨nofun, .empty, fun _ _ _ _ _ h => nomatch h⟩

/-- At most one call that was admitted as a probe is in flight. -/
def OneProbe (s : System Circuit Execution) : Prop :=
  ∀ r r' p q, s.procs.get r = some p → s.procs.get r' = some q → p.isProbe = true →
    q.isProbe = true → r = r'

/-- A circuit that closes has seen its probes succeed, one after the other. -/
def ClosesOnSuccess (o : CircuitBreakerOptions) (s s' : Circuit) : Prop :=
  s.breaker.state ≠ .closed → s'.breaker.state = .closed → o.successThreshold ≤ s'.seen.streak

theorem Does.closesOnSuccess {o : CircuitBreakerOptions} {s s' : Circuit} {p : Execution}
    {c : Settled} {p' : Option Execution} (h : Does o s p c s' p') (hp : Known s.breaker p)
    (hs : Witnessed s) : ClosesOnSuccess o s s' := by
  intro hwas hbecomes
  cases h with
  | admitted | rejected | passes | clears | counts | succeeds => exact absurd hbecomes hwas
  | probes | opens | reopens => cases hbecomes
  | closes hcount =>
      have hstreak : s.breaker.probeSuccesses + 1 ≤ s.seen.streak + 1 :=
        Nat.succ_le_succ (hs (hp rfl).1)
      exact hcount.trans (by exact_mod_cast hstreak)

/-- **Only one probe is loose.**  Where no call that a closed circuit admitted fails and opens it
under a probe, one probe is in flight at most, and the circuit closes after `successThreshold`
probes have succeeded with no failure of a probe in between. -/
theorem one_probe_loose (o : CircuitBreakerOptions) {s : System Circuit Execution}
    (h : Reachable (Guarded (calls o).Step (NoLateOpening o)) Fresh s) :
    OneProbe s ∧ ∀ a s', Guarded (calls o).Step (NoLateOpening o) s a s' →
      ClosesOnSuccess o s.store s'.store := by
  obtain ⟨hwitnessed, hknown, hapart⟩ := (calls_apart o).reachable (fun _ => Fresh.apart) h
  refine ⟨fun r r' p q hp hq hprobe hprobe' => ?_, fun a s' ha => ?_⟩
  · by_contra hne
    exact hapart r r' p q hne hp hq hprobe hprobe'
  · obtain ⟨hstep, -⟩ := ha
    cases a with
    | resume r c =>
        obtain ⟨p, hp, hstore, -⟩ := (calls o).step_resume hstep
        rw [hstore]
        exact (resume_does o r s.store p c).closesOnSuccess (hknown r p hp) hwitnessed
    | start r p =>
        simp only [Processes.Step, Processes.act, Option.ite_none_right_eq_some] at hstep
        obtain rfl := Option.some.inj hstep.2
        exact fun hwas hbecomes => absurd hbecomes hwas
    | crash r =>
        simp only [Processes.Step, Processes.act, Option.ite_none_right_eq_some] at hstep
        obtain rfl := Option.some.inj hstep.2
        exact fun hwas hbecomes => absurd hbecomes hwas
    | other now =>
        simp only [Processes.Step, Processes.act, calls, Option.map_eq_some_iff,
          Option.ite_none_right_eq_some] at hstep
        obtain ⟨store, ⟨-, hstore⟩, rfl⟩ := hstep
        obtain rfl := Option.some.inj hstore
        exact fun hwas hbecomes => absurd hbecomes hwas

/-- A new breaker at time 0. -/
def noCalls : System Circuit Execution := ⟨⟨.new, 0, ⟨[], none, 0⟩⟩, .empty⟩

theorem noCalls_fresh : Fresh noCalls := ⟨0, rfl⟩

/-- A call that ends at once. -/
def attempt (c : Settled) (r : ℕ) : List (Act Execution Settled ℚ) :=
  [.start r .called, .resume r c, .resume r c]

/-- A call that runs on. -/
def slow (r : ℕ) : List (Act Execution Settled ℚ) := [.start r .called, .resume r .resolves]

/-- Five calls fail, and after the cooldown one probe succeeds and the next is in flight. -/
theorem one_probe_loose_second : ∃ s : System Circuit Execution,
    (s.store.seen.streak = 1 ∧ s.procs.get 6 = some (.running 10000 true)) ∧ OneProbe s ∧
      ∀ a s', Guarded (calls DEFAULT_BREAKER).Step (NoLateOpening DEFAULT_BREAKER) s a s' →
        ClosesOnSuccess DEFAULT_BREAKER s.store s'.store := by
  have hrun : ((calls DEFAULT_BREAKER).actsWhen (NoLateOpening DEFAULT_BREAKER) noCalls
      ((List.range 5).flatMap (attempt .rejects) ++ .other 10000 :: attempt .resolves 5 ++
        slow 6)).any
      (fun s => decide (s.store.seen.streak = 1 ∧ s.procs.get 6 = some (.running 10000 true))) =
        true := by
    decide +kernel
  obtain ⟨s, hs, htest⟩ := (calls DEFAULT_BREAKER).reachable_of_actsWhen noCalls_fresh hrun
  exact ⟨s, of_decide_eq_true htest, one_probe_loose DEFAULT_BREAKER hs⟩

/-- Of six calls five fail.  The sixth fails under the probe that is let through after the
cooldown: the circuit is open again, since before the probe, and lets a second one through. -/
theorem one_probe_loose_late : ¬ ∀ (o : CircuitBreakerOptions) (s : System Circuit Execution),
    Reachable (calls o).Step Fresh s →
      OneProbe s ∧ ∀ a s', (calls o).Step s a s' → ClosesOnSuccess o s.store s'.store := by
  intro h
  have hrun : ((calls DEFAULT_BREAKER).acts noCalls
      ((List.range 6).flatMap slow ++ (List.range 5).map (.resume · .rejects) ++
        .other 10000 :: slow 6 ++ .resume 5 .rejects :: slow 7)).any
      (fun s => decide (s.procs.get 6 = some (.running 10000 true) ∧
        s.procs.get 7 = some (.running 10000 true))) = true := by
    decide +kernel
  obtain ⟨s, hs, htest⟩ := (calls DEFAULT_BREAKER).reachable_of_acts noCalls_fresh hrun
  obtain ⟨hsix, hseven⟩ := of_decide_eq_true htest
  exact absurd ((h _ s hs).1 6 7 _ _ hsix hseven rfl rfl) (by decide)

end SnakeArena.Sdk
