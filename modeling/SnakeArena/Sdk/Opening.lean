import Mathlib.Tactic.Linarith
import SnakeArena.Sdk.Breaker

/-!
# Sdk — when the breaker opens

A success of the closed circuit forgets its failures, and a failure is dated by the start of its
call.  Where neither matters — no success forgets a failure that still counts, and a call that
fails does so at the reading it started with — the circuit opens on `failureThreshold` failures of
one window, and rejects every call of the next `cooldownMs` (`opens_on_failing`).
-/

namespace SnakeArena.Sdk
open SnakeArena.Library

/-- The failures of the window that ends at `now`. -/
def within (o : CircuitBreakerOptions) (now : ℚ) (failures : List ℚ) : ℕ :=
  failures.countP fun failedAt => now - failedAt < o.windowMs

/-- A success forgets no failure that still counts, and a failure has taken no time. -/
def Prompt (o : CircuitBreakerOptions) (s : Circuit) : Execution → Settled → Prop
  | .running _ _, .resolves => s.breaker.state = .closed →
      ∀ failedAt ∈ s.breaker.failures, o.windowMs ≤ s.clock - failedAt
  | .running now false, .rejects => now = s.clock
  | .running _ true, .rejects | .called, _ => True

instance (o : CircuitBreakerOptions) (s : Circuit) : ∀ p c, Decidable (Prompt o s p c)
  | .running _ true, .resolves | .running _ false, .resolves =>
      inferInstanceAs (Decidable (_ → ∀ failedAt ∈ _, _))
  | .running _ false, .rejects => inferInstanceAs (Decidable (_ = _))
  | .running _ true, .rejects | .called, .resolves | .called, .rejects =>
      inferInstanceAs (Decidable True)

def AllPrompt (o : CircuitBreakerOptions) (s : System Circuit Execution) :
    Act Execution Settled ℚ → Prop
  | .resume r c => ∀ p ∈ s.procs.get r, Prompt o s.store p c
  | .start _ _ | .crash _ | .other _ => True

instance (o : CircuitBreakerOptions) (s : System Circuit Execution) :
    ∀ a, Decidable (AllPrompt o s a)
  | .resume _ _ => inferInstanceAs (Decidable (∀ p ∈ _, _))
  | .start _ _ | .crash _ | .other _ => inferInstanceAs (Decidable True)

/-! ### Counting -/

theorem within_counted (o : CircuitBreakerOptions) (b : CircuitBreaker) {now t : ℚ} (h : now ≤ t) :
    within o t (b.counted o now) = within o t b.failures + within o t [now] := by
  rw [within, within, within, ← List.countP_append, CircuitBreaker.counted, List.countP_filter]
  refine List.countP_congr fun failedAt _ => ?_
  simp only [Bool.and_eq_true, decide_eq_true_eq]
  exact ⟨fun hin => hin.1, fun hin => ⟨hin, by linarith⟩⟩

theorem length_counted (o : CircuitBreakerOptions) (b : CircuitBreaker) (now : ℚ) :
    (b.counted o now).length = within o now b.failures + within o now [now] := by
  rw [← within_counted o b le_rfl, within, CircuitBreaker.counted, List.countP_eq_length_filter,
    List.filter_filter]
  simp only [Bool.and_self]

/-- In every window from now on, the breaker counts the failures there were. -/
def CountsAll (o : CircuitBreakerOptions) (s : Circuit) : Prop :=
  ∀ t, s.clock ≤ t → within o t s.breaker.failures = within o t s.seen.failed

section
variable {o : CircuitBreakerOptions} {s s' : Circuit} {p q : Execution} {c : Settled}
  {p' : Option Execution}

/-- Failures that count no more. -/
theorem within_old {failures : List ℚ} {clock t : ℚ} (ht : clock ≤ t)
    (h : ∀ failedAt ∈ failures, o.windowMs ≤ clock - failedAt) : within o t failures = 0 := by
  refine List.countP_eq_zero.mpr fun failedAt hin => ?_
  rw [decide_eq_true_eq, not_lt]
  exact (h failedAt hin).trans (sub_le_sub_right ht failedAt)

theorem CountsAll.fails (h : CountsAll o s) {t : ℚ} (ht : s.clock ≤ t) :
    within o t (s.breaker.counted o s.clock) = within o t (s.clock :: s.seen.failed) := by
  rw [within_counted o s.breaker ht, h t ht, add_comm, within, within, within,
    ← List.countP_append, List.singleton_append]

theorem Does.countsAll (h : Does o s p c s' p') (hprompt : Prompt o s p c)
    (hs : CountsAll o s) : CountsAll o s' := by
  cases h with
  | admitted | rejected | passes | probes | succeeds | reopens => exact hs
  | clears hstate => exact fun t ht => (within_old ht (hprompt hstate)).symm.trans (hs t ht)
  | closes =>
      intro t ht
      by_cases hstate : s.breaker.state = .closed
      · simp only [hstate, if_true]
        exact (within_old ht (hprompt hstate)).symm.trans (hs t ht)
      · simp only [hstate, if_false]
  | counts | opens =>
      obtain rfl : _ = s.clock := hprompt
      exact fun t ht => hs.fails ht

/-- The last of `failureThreshold` failures opens the circuit. -/
theorem Does.opened (h : Does o s p c s' p') (hprompt : Prompt o s p c) (hs : CountsAll o s)
    {now : ℚ} (hp : p = .running now false) (hc : c = .rejects)
    (hfailed : o.failureThreshold ≤ within o s.clock s'.seen.failed) :
    s'.breaker.state = .opened := by
  subst hp hc
  cases h with
  | opens => rfl
  | counts hcount =>
      obtain rfl : now = s.clock := hprompt
      rw [length_counted, ← within_counted o s.breaker le_rfl, hs.fails le_rfl] at hcount
      exact absurd hfailed hcount

end

/-! ### Cooling down -/

/-- The circuit opened, if it has, in the past, and is open until it has cooled down. -/
structure Cooling (o : CircuitBreakerOptions) (s : Circuit) : Prop where
  dated : s.breaker.state ≠ .closed → ∃ openedAt, s.seen.openedAt = some openedAt
  past : ∀ openedAt, s.seen.openedAt = some openedAt → openedAt ≤ s.clock
  cools : ∀ openedAt, s.seen.openedAt = some openedAt → s.clock < openedAt + o.cooldownMs →
    s.breaker.state = .opened ∧ openedAt ≤ s.breaker.openedAtMs

/-- An ordinary call started before the circuit opened. -/
def Early (s : Circuit) (p : Execution) : Prop :=
  ∀ now, p = .running now false → now ≤ s.clock ∧
    (s.breaker.state ≠ .closed → ∀ openedAt, s.seen.openedAt = some openedAt → now ≤ openedAt)

section
variable {o : CircuitBreakerOptions} {s s' : Circuit} {p q : Execution} {c : Settled}
  {p' : Option Execution}

/-- While the circuit is half-open it has cooled down. -/
theorem Cooling.cooled (h : Cooling o s) (hstate : s.breaker.state = .halfOpen) {openedAt : ℚ}
    (hopened : s.seen.openedAt = some openedAt) : openedAt + o.cooldownMs ≤ s.clock := by
  by_contra hcold
  exact nomatch hstate.symm.trans (h.cools openedAt hopened (not_le.mp hcold)).1

/-- An ordinary call that fails at once does not do so under a probe. -/
theorem Cooling.punctual (h : Cooling o s) (hcooldown : 0 < o.cooldownMs) (hp : Early s p)
    (hprompt : Prompt o s p c) : Punctual o s.breaker p c := by
  match p, c with
  | .called, _ | .running _ true, .rejects | .running _ true, .resolves
  | .running _ false, .resolves => exact trivial
  | .running now false, .rejects =>
      intro hstate
      obtain rfl : now = s.clock := hprompt
      have hopen : s.breaker.state ≠ .closed := fun e => nomatch hstate.symm.trans e
      obtain ⟨openedAt, hopened⟩ := h.dated hopen
      have hearly := (hp _ rfl).2 hopen openedAt hopened
      have hcooled := h.cooled hstate hopened
      linarith

/-- The circuit opened when it had, or opens now. -/
theorem Does.openedAt (h : Does o s p c s' p') : s'.clock = s.clock ∧
    (s'.seen.openedAt = s.seen.openedAt ∨ s'.seen.openedAt = some s.clock) := by
  cases h with
  | admitted | rejected | passes | clears | counts | succeeds | probes | closes =>
      exact ⟨rfl, .inl rfl⟩
  | opens | reopens =>
      refine ⟨rfl, ?_⟩
      by_cases hstate : s.breaker.state = .closed
      · exact .inr (if_pos hstate)
      · exact .inl (if_neg hstate)

/-- Not in the future. -/
theorem Does.past (h : Does o s p c s' p')
    (hs : ∀ openedAt, s.seen.openedAt = some openedAt → openedAt ≤ s.clock) :
    ∀ openedAt, s'.seen.openedAt = some openedAt → openedAt ≤ s'.clock := by
  intro openedAt hopened
  obtain ⟨hclock, hsame | hnow⟩ := h.openedAt
  · exact hclock ▸ hs openedAt (hsame ▸ hopened)
  · exact hclock ▸ (Option.some.inj (hnow.symm.trans hopened)).ge

theorem Does.cooling (h : Does o s p c s' p') (hprompt : Prompt o s p c)
    (hknown : Known s.breaker p) (hs : Cooling o s) : Cooling o s' := by
  have hpast := h.past hs.past
  cases h with
  | admitted | rejected | passes | clears | counts | succeeds => exact ⟨hs.dated, hs.past, hs.cools⟩
  | probes hstate =>
      refine ⟨fun _ => hs.dated ?_, hs.past, fun openedAt hopened hcold => ?_⟩
      · rcases hstate with ⟨hopen, -⟩ | ⟨hhalf, -⟩
        · exact fun e => nomatch hopen.symm.trans e
        · exact fun e => nomatch hhalf.symm.trans e
      · obtain ⟨hopen, hafter⟩ := hs.cools openedAt hopened hcold
        rcases hstate with ⟨-, helapsed, -⟩ | ⟨hhalf, -⟩
        · have hcold : s.clock < openedAt + o.cooldownMs := hcold
          linarith
        · exact nomatch hhalf.symm.trans hopen
  | opens =>
      obtain rfl : _ = s.clock := hprompt
      refine ⟨fun _ => ?_, hpast, fun openedAt hopened _ => ⟨rfl, hpast openedAt hopened⟩⟩
      by_cases hstate : s.breaker.state = .closed
      · exact ⟨s.clock, if_pos hstate⟩
      · obtain ⟨openedAt, hopened⟩ := hs.dated hstate
        exact ⟨openedAt, (if_neg hstate).trans hopened⟩
  | closes =>
      obtain ⟨hstate, -⟩ := hknown rfl
      refine ⟨fun hne => absurd rfl hne, hs.past, fun openedAt hopened hcold => ?_⟩
      exact absurd hcold (not_lt.mpr (hs.cooled hstate hopened))
  | reopens =>
      obtain ⟨hstate, -⟩ := hknown rfl
      have hopen : s.breaker.state ≠ .closed := fun e => nomatch hstate.symm.trans e
      simp only [hopen, if_false]
      refine ⟨fun _ => hs.dated hopen, hs.past, fun openedAt hopened hcold => ?_⟩
      exact absurd hcold (not_lt.mpr (hs.cooled hstate hopened))

theorem Does.early (h : Does o s p c s' p') (hq : Early s q) : Early s' q := by
  cases h with
  | admitted | rejected | passes | clears | counts | succeeds => exact hq
  | probes hstate =>
      intro now e
      refine ⟨(hq now e).1, fun _ => (hq now e).2 ?_⟩
      rcases hstate with ⟨hopen, -⟩ | ⟨hhalf, -⟩
      · exact fun e => nomatch hopen.symm.trans e
      · exact fun e => nomatch hhalf.symm.trans e
  | closes => exact fun now e => ⟨(hq now e).1, fun hne => absurd rfl hne⟩
  | opens | reopens =>
      intro now e
      obtain ⟨hpast, hearly⟩ := hq now e
      refine ⟨hpast, fun _ openedAt hopened => ?_⟩
      replace hopened : (if s.breaker.state = .closed then some s.clock else s.seen.openedAt) =
        some openedAt := hopened
      split_ifs at hopened with hstate
      · exact Option.some.inj hopened ▸ hpast
      · exact hearly hstate openedAt hopened

theorem Does.early_next (h : Does o s p c s' p') : ∀ p₁, p' = some p₁ → Early s' p₁ := by
  cases h with
  | admitted hstate =>
      rintro p₁ e now e'
      obtain rfl := Option.some.inj e
      cases e'
      exact ⟨le_rfl, fun hne => absurd hstate hne⟩
  | probes =>
      rintro p₁ e now e'
      obtain rfl := Option.some.inj e
      cases e'
  | rejected | passes | clears | counts | opens | succeeds | closes | reopens => exact nofun

/-- A call made before the circuit has cooled down. -/
theorem Does.rejects (h : Does o s p c s' p') (hs : Cooling o s) (hp : p = .called) {openedAt : ℚ}
    (hopened : s.seen.openedAt = some openedAt) (hcold : s.clock < openedAt + o.cooldownMs) :
    p' = none := by
  subst hp
  obtain ⟨hopen, hafter⟩ := hs.cools openedAt hopened hcold
  cases h with
  | rejected => rfl
  | admitted hstate => exact nomatch hstate.symm.trans hopen
  | probes hstate =>
      rcases hstate with ⟨-, helapsed, -⟩ | ⟨hhalf, -⟩
      · linarith
      · exact nomatch hhalf.symm.trans hopen

end

/-! ### Runs -/

theorem calls_counts (o : CircuitBreakerOptions) :
    (calls o).Keeps (AllPrompt o) (CountsAll o) (fun _ _ _ => True) fun _ _ => True := by
  refine .of_leads (R := fun _ s' => CountsAll o s') (K := fun _ _ => True) (fun _ _ h => h)
    (fun _ _ _ _ _ => trivial) (fun _ _ _ => trivial) (fun s r p c hs hp _ hg => ?_)
    fun s now store hs _ hother => ?_
  · exact ⟨(resume_does o r s.store p c).countsAll (hg p hp) hs, fun _ _ => trivial⟩
  · simp only [calls, Option.ite_none_right_eq_some] at hother
    obtain ⟨hle, hstore⟩ := hother
    obtain rfl := Option.some.inj hstore
    exact fun t ht => hs t (hle.trans ht)

/-- With a cooldown, the circuit is open until it is over. -/
theorem calls_cool (o : CircuitBreakerOptions) (hcooldown : 0 < o.cooldownMs) :
    (calls o).Keeps (AllPrompt o) (Cooling o) (fun s _ p => Known s.breaker p ∧ Early s p)
      Apart where
  symm _ _ h hq hp := h hp hq
  start s r p _ _ hstarts := by
    obtain rfl : p = .called := of_decide_eq_true hstarts
    exact ⟨⟨nofun, nofun⟩, fun _ => nofun⟩
  resume s r p c hs hp hg := by
    obtain ⟨hcooling, hcalls, hapart⟩ := hs
    obtain ⟨hknown, hearly⟩ := hcalls r p hp
    have hdoes := resume_does o r s.store p c
    have hpunctual := hcooling.punctual hcooldown hearly (hg p hp)
    have hothers : ∀ r' ≠ r, ∀ q, s.procs.get r' = some q →
        Known ((calls o).resume r s.store p c).1.breaker q ∧
          ∀ p₁, ((calls o).resume r s.store p c).2 = some p₁ → Apart p₁ q := fun r' hne q hq =>
      hdoes.apart hpunctual (hcalls r' q hq).1 (hapart r r' p q hne.symm hp hq)
    exact ⟨hdoes.cooling (hg p hp) hknown hcooling,
      fun p₁ hp₁ => ⟨⟨hdoes.known p₁ hp₁, hdoes.early_next p₁ hp₁⟩,
        fun r' hne q hq => (hothers r' hne q hq).2 p₁ hp₁⟩,
      fun r' hne q hq => ⟨(hothers r' hne q hq).1, hdoes.early (hcalls r' q hq).2⟩⟩
  other s now store hs _ hother := by
    obtain ⟨hcooling, hcalls, -⟩ := hs
    simp only [calls, Option.ite_none_right_eq_some] at hother
    obtain ⟨hle, hstore⟩ := hother
    obtain rfl := Option.some.inj hstore
    refine ⟨⟨hcooling.dated, fun t ht => (hcooling.past t ht).trans hle, fun t ht hcold => ?_⟩,
      fun r q hq => ⟨(hcalls r q hq).1, fun t ht => ?_⟩⟩
    · exact hcooling.cools t ht (hle.trans_lt hcold)
    · exact ⟨((hcalls r q hq).2 t ht).1.trans hle, ((hcalls r q hq).2 t ht).2⟩

/-- With none, it opened in the past all the same. -/
theorem opened_past (o : CircuitBreakerOptions) {s : System Circuit Execution}
    (h : Reachable (Guarded (calls o).Step (AllPrompt o)) Fresh s) :
    ∀ openedAt, s.store.seen.openedAt = some openedAt → openedAt ≤ s.store.clock := by
  obtain ⟨s₀, as, ⟨clock, rfl⟩, hrun⟩ := h
  refine (calls o).run_stable
    (I := fun s => ∀ openedAt, s.seen.openedAt = some openedAt → openedAt ≤ s.clock)
    (fun r s p c hs => (resume_does o r s p c).past hs) (fun s now store hs hother => ?_)
    hrun.of_guarded nofun
  simp only [calls, Option.ite_none_right_eq_some] at hother
  obtain ⟨hle, hstore⟩ := hother
  obtain rfl := Option.some.inj hstore
  exact fun t ht => (hs t ht).trans hle

theorem Fresh.counts {o : CircuitBreakerOptions} {s : System Circuit Execution} (h : Fresh s) :
    Processes.Holds (CountsAll o) (fun _ _ _ => True) (fun _ _ => True) s := by
  obtain ⟨clock, rfl⟩ := h
  exact ⟨fun _ _ => rfl, .empty, fun _ _ _ _ _ _ _ => trivial⟩

theorem Fresh.cool {o : CircuitBreakerOptions} {s : System Circuit Execution} (h : Fresh s) :
    Processes.Holds (Cooling o) (fun s _ p => Known s.breaker p ∧ Early s p) Apart s := by
  obtain ⟨clock, rfl⟩ := h
  exact ⟨⟨fun hne => absurd rfl hne, nofun, nofun⟩, .empty, fun _ _ _ _ _ h => nomatch h⟩

/-- What a breaker is to do at a step of its calls. -/
structure Trips (o : CircuitBreakerOptions) (s : System Circuit Execution)
    (a : Act Execution Settled ℚ) (s' : System Circuit Execution) : Prop where
  /-- Of the calls made while the circuit was closed, as many have failed in the last window. -/
  opens : ∀ r now, a = .resume r .rejects → s.procs.get r = some (.running now false) →
    o.failureThreshold ≤ within o s.store.clock s'.store.seen.failed →
      s'.store.breaker.state = .opened
  /-- A call made in the `cooldownMs` since the circuit opened does not run. -/
  rejects : ∀ r c openedAt, a = .resume r c → s.procs.get r = some .called →
    s.store.seen.openedAt = some openedAt → s.store.clock < openedAt + o.cooldownMs →
      s'.procs.get r = none

/-- **The breaker opens on a failing endpoint.**  In every run in which no success forgets a
failure that still counts and every ordinary call that fails does so at the reading it started
with, the last of `failureThreshold` failures of a window opens the circuit, and every call of the
next `cooldownMs` is rejected. -/
theorem opens_on_failing (o : CircuitBreakerOptions) {s s' : System Circuit Execution}
    {a : Act Execution Settled ℚ}
    (h : Reachable (Guarded (calls o).Step (AllPrompt o)) Fresh s)
    (ha : Guarded (calls o).Step (AllPrompt o) s a s') : Trips o s a s' := by
  obtain ⟨hstep, hg⟩ := ha
  constructor
  · rintro r now rfl hp hfailed
    obtain ⟨hcounts, -, -⟩ := (calls_counts o).reachable (fun _ => Fresh.counts) h
    obtain ⟨p, hget, hstore, -⟩ := (calls o).step_resume hstep
    rw [hstore] at hfailed ⊢
    exact (resume_does o r s.store p .rejects).opened (hg p hget) hcounts
      (Option.some.inj (hget.symm.trans hp)) rfl hfailed
  · rintro r c openedAt rfl hp hopened hcold
    have hpast := opened_past o h openedAt hopened
    have hcooldown : 0 < o.cooldownMs := by linarith
    obtain ⟨hcooling, -, -⟩ := (calls_cool o hcooldown).reachable (fun _ => Fresh.cool) h
    obtain ⟨p, hget, -, hprocs⟩ := (calls o).step_resume hstep
    have hrejected := (resume_does o r s.store p c).rejects hcooling
      (Option.some.inj (hget.symm.trans hp)) hopened hcold
    rw [hprocs, hrejected, Option.elim_none, Table.get_del_same]

/-- Five calls fail at once, and the next is rejected. -/
theorem opens_on_failing_five : ∃ s s' : System Circuit Execution,
    ((s.store.seen.openedAt = some 0 ∧ s.procs.get 5 = some .called) ∧ s'.procs.get 5 = none) ∧
      Trips DEFAULT_BREAKER s (.resume 5 .resolves) s' := by
  have hrun : ((calls DEFAULT_BREAKER).actsWhen (AllPrompt DEFAULT_BREAKER) noCalls
      ((List.range 5).flatMap (attempt .rejects) ++ [.start 5 .called])).any
      (fun s => ((calls DEFAULT_BREAKER).act s (.resume 5 .resolves)).any fun s' =>
        decide (AllPrompt DEFAULT_BREAKER s (.resume 5 .resolves) ∧
          (s.store.seen.openedAt = some 0 ∧ s.procs.get 5 = some .called) ∧
            s'.procs.get 5 = none)) = true := by
    decide +kernel
  obtain ⟨s, hs, htest⟩ := (calls DEFAULT_BREAKER).reachable_of_actsWhen noCalls_fresh hrun
  obtain ⟨s', hstep, htest⟩ := (Option.any_eq_true _ _).mp htest
  obtain ⟨hg, hreads⟩ := of_decide_eq_true htest
  exact ⟨s, s', hreads, opens_on_failing DEFAULT_BREAKER hs ⟨hstep, hg⟩⟩

/-- Four calls fail, one succeeds, and a fifth fails. -/
theorem opens_on_failing_mixed : ¬ ∀ (o : CircuitBreakerOptions)
    (s s' : System Circuit Execution) (a : Act Execution Settled ℚ),
    Reachable (calls o).Step Fresh s → (calls o).Step s a s' → Trips o s a s' := by
  intro h
  have hrun : ((calls DEFAULT_BREAKER).acts noCalls
      ((List.range 4).flatMap (attempt .rejects) ++ attempt .resolves 4 ++ slow 5)).any
      (fun s => ((calls DEFAULT_BREAKER).act s (.resume 5 .rejects)).any fun s' =>
        decide (s.procs.get 5 = some (.running 0 false) ∧
          DEFAULT_BREAKER.failureThreshold ≤
            within DEFAULT_BREAKER s.store.clock s'.store.seen.failed ∧
          s'.store.breaker.state = .closed)) = true := by
    decide +kernel
  obtain ⟨s, hs, htest⟩ := (calls DEFAULT_BREAKER).reachable_of_acts noCalls_fresh hrun
  obtain ⟨s', hstep, htest⟩ := (Option.any_eq_true _ _).mp htest
  obtain ⟨hp, hfailed, hclosed⟩ := of_decide_eq_true htest
  have hopened := (h _ s s' _ hs hstep).opens 5 0 rfl hp hfailed
  exact nomatch hclosed.symm.trans hopened

/-- Five calls time out after a cooldown: the circuit opens, and lets the next call run. -/
theorem opens_on_failing_slow : ∃ s s' : System Circuit Execution,
    Reachable (calls DEFAULT_BREAKER).Step Fresh s ∧
      (calls DEFAULT_BREAKER).Step s (.resume 5 .resolves) s' ∧
        ¬ Trips DEFAULT_BREAKER s (.resume 5 .resolves) s' := by
  have hrun : ((calls DEFAULT_BREAKER).acts noCalls
      ((List.range 5).flatMap slow ++ .other 10000 :: (List.range 5).map (.resume · .rejects) ++
        [.start 5 .called])).any
      (fun s => ((calls DEFAULT_BREAKER).act s (.resume 5 .resolves)).any fun s' =>
        decide (s.store.seen.openedAt = some 10000 ∧ s.store.clock = 10000 ∧
          s.procs.get 5 = some .called ∧ s'.procs.get 5 = some (.running 10000 true))) = true := by
    decide +kernel
  obtain ⟨s, hs, htest⟩ := (calls DEFAULT_BREAKER).reachable_of_acts noCalls_fresh hrun
  obtain ⟨s', hstep, htest⟩ := (Option.any_eq_true _ _).mp htest
  obtain ⟨hopened, hclock, hp, hruns⟩ := of_decide_eq_true htest
  refine ⟨s, s', hs, hstep, fun htrips => ?_⟩
  have hrejected := htrips.rejects 5 _ 10000 rfl hp hopened (by rw [hclock]; decide +kernel)
  exact nomatch hruns.symm.trans hrejected

end SnakeArena.Sdk
