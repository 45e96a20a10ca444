import Mathlib.Data.Finset.Card
import Mathlib.Data.List.NodupEquivFin
import SnakeArena.Library.Processes
import SnakeArena.Sdk.Send

/-!
# Sdk — failover

`withFailover` of `connection.ts`, any number of calls at a time over one pool.  A call counts its
own attempts, but the cursor that says which endpoint is next is the pool's, and every failure of
any call moves it.

A call that is never moved on to an endpoint it has tried has tried each when it gives up
(`gives_up_on_all`).
-/

namespace SnakeArena.Sdk
open SnakeArena.Library

/-- What the function of a call may throw. -/
inductive Failure where
  | service (e : ServiceError)
  | other (e : Raised)
deriving DecidableEq

def Failure.isRetryable : Failure → Bool
  | .service e => e.retryable
  | .other e => e.isRetryable

/-- What `withFailover` throws when no attempt is left. -/
def RpcPool.allFailed (pool : RpcPool) : Failure :=
  .service (.rpc ("All " ++ toString pool.endpoints ++ " RPC endpoints failed") true)

/-- Where a `withFailover` call is. -/
inductive FailoverCall (α : Type*) where
  | called
  /-- Its function runs against `endpoint`, the last it has tried. -/
  | running (attempt endpoint : ℕ) (tried : List ℕ)
  | ended (result : Except Failure α) (tried : List ℕ)
deriving DecidableEq

variable {α : Type*}

namespace FailoverCall

/-- The head of the loop. -/
def attemptNext (pool : RpcPool) (index attempt : ℕ) (tried : List ℕ) : FailoverCall α :=
  if attempt < pool.endpoints ∧ index < pool.endpoints then
    .running attempt index (index :: tried)
  else .ended (.error pool.allFailed) tried

/-- What an attempt comes to, when the endpoints would answer as `answers` says, and where it
leaves the cursor. -/
def answered (pool : RpcPool) (index attempt endpoint : ℕ) (tried : List ℕ)
    (answers : ℕ → Except Failure α) : ℕ × FailoverCall α :=
  match answers endpoint with
  | .ok value => (index, .ended (.ok value) tried)
  | .error e =>
      if e.isRetryable = false then (index, .ended (.error e) tried)
      else
        let index := (index + 1) % pool.endpoints
        (index, attemptNext pool index (attempt + 1) tried)

end FailoverCall

/-- The calls of a pool, which share its `index`. -/
def withFailover (pool : RpcPool) :
    Processes ℕ (FailoverCall α) (ℕ → Except Failure α) Empty where
  starts p :=
    match p with
    | .called => true
    | .running _ _ _ | .ended _ _ => false
  resume _ index p answers :=
    match p with
    | .called => (index, some (.attemptNext pool index 0 []))
    | .running attempt endpoint tried =>
        let next := FailoverCall.answered pool index attempt endpoint tried answers
        (next.1, some next.2)
    | .ended result tried => (index, some (.ended result tried))
  other _ e := nomatch e

/-- A new pool. -/
def noFailovers : System ℕ (FailoverCall α) := ⟨0, .empty⟩

/-! ### Giving up -/

/-- What an attempt throws. -/
def thrown : Except Failure α → Option Failure
  | .ok _ => none
  | .error e => some e

/-- A call that goes on after `e` goes on to an endpoint it has not tried, and an error that is
not retryable is thrown where no endpoint would have answered. -/
def GoesOnAfter (pool : RpcPool) (index attempt : ℕ) (tried : List ℕ)
    (answers : ℕ → Except Failure α) (e : Failure) : Prop :=
  (e.isRetryable = false → ∀ i < pool.endpoints, (answers i).isOk = false) ∧
    (e.isRetryable = true → attempt + 1 < pool.endpoints →
      (index + 1) % pool.endpoints ∉ tried)

instance (pool : RpcPool) (index attempt : ℕ) (tried : List ℕ) (answers : ℕ → Except Failure α)
    (e : Failure) : Decidable (GoesOnAfter pool index attempt tried answers e) :=
  inferInstanceAs (Decidable (_ ∧ _))

def GoesOn (pool : RpcPool) (index : ℕ) (answers : ℕ → Except Failure α) : FailoverCall α → Prop
  | .running attempt endpoint tried =>
      ∀ e ∈ thrown (answers endpoint), GoesOnAfter pool index attempt tried answers e
  | .called | .ended _ _ => True

instance (pool : RpcPool) (index : ℕ) (answers : ℕ → Except Failure α) :
    ∀ p, Decidable (GoesOn pool index answers p)
  | .running _ _ _ => inferInstanceAs (Decidable (∀ e ∈ _, GoesOnAfter _ _ _ _ _ e))
  | .called | .ended _ _ => inferInstanceAs (Decidable True)

/-- Call `r` does, at each of its steps. -/
def Onward (pool : RpcPool) (r : ℕ) (s : System ℕ (FailoverCall α)) :
    Act (FailoverCall α) (ℕ → Except Failure α) Empty → Prop
  | .resume r' answers => r' = r → ∀ p ∈ s.procs.get r', GoesOn pool s.store answers p
  | .start _ _ | .crash _ | .other _ => True

instance (pool : RpcPool) (r : ℕ) (s : System ℕ (FailoverCall α)) :
    ∀ a, Decidable (Onward pool r s a)
  | .resume _ _ => inferInstanceAs (Decidable (_ → ∀ p ∈ _, _))
  | .start _ _ | .crash _ | .other _ => inferInstanceAs (Decidable True)

/-- Attempts on different endpoints, as many as there are endpoints, are on all of them. -/
theorem covers_of_nodup {tried : List ℕ} {n : ℕ} (hnodup : tried.Nodup) (hlt : ∀ i ∈ tried, i < n)
    (hlength : n ≤ tried.length) : ∀ i < n, i ∈ tried := by
  have hsubset : tried.toFinset ⊆ Finset.range n := fun i hi =>
    Finset.mem_range.mpr (hlt i (List.mem_toFinset.mp hi))
  have hcard : (Finset.range n).card ≤ tried.toFinset.card := by
    rwa [Finset.card_range, List.toFinset_card_of_nodup hnodup]
  have heq := Finset.eq_of_subset_of_card_le hsubset hcard
  exact fun i hi => List.mem_toFinset.mp (heq ▸ Finset.mem_range.mpr hi)

/-- A call has made as many attempts as it counts, on different endpoints, and has tried them all
when it has none left. -/
def Distinct (pool : RpcPool) : FailoverCall α → Prop
  | .called => True
  | .running attempt endpoint tried => endpoint < pool.endpoints ∧ tried.Nodup ∧
      (∀ i ∈ tried, i < pool.endpoints) ∧ tried.length = attempt + 1
  | .ended result tried => result = .error pool.allFailed → ∀ i < pool.endpoints, i ∈ tried

section
variable {pool : RpcPool} {index : ℕ} {answers : ℕ → Except Failure α}

theorem distinct_attemptNext {attempt : ℕ} {tried : List ℕ} (hindex : index < pool.endpoints)
    (hnodup : tried.Nodup) (hlt : ∀ i ∈ tried, i < pool.endpoints)
    (hlength : tried.length = attempt) (hfresh : attempt < pool.endpoints → index ∉ tried) :
    Distinct pool (FailoverCall.attemptNext (α := α) pool index attempt tried) := by
  rw [FailoverCall.attemptNext]
  split
  next h =>
      refine ⟨hindex, List.nodup_cons.mpr ⟨hfresh h.1, hnodup⟩, ?_, congrArg (· + 1) hlength⟩
      exact List.forall_mem_cons.mpr ⟨hindex, hlt⟩
  next h =>
      intro _
      have hlast : pool.endpoints ≤ attempt := not_lt.mp fun hmore => h ⟨hmore, hindex⟩
      exact covers_of_nodup hnodup hlt (hlength ▸ hlast)

theorem distinct_answered {attempt endpoint : ℕ} {tried : List ℕ}
    (h : Distinct pool (.running attempt endpoint tried : FailoverCall α))
    (hgoes : GoesOn pool index answers (.running attempt endpoint tried)) :
    Distinct pool (FailoverCall.answered pool index attempt endpoint tried answers).2 := by
  obtain ⟨-, hnodup, hlt, hlength⟩ := h
  rw [FailoverCall.answered]
  cases hanswer : answers endpoint with
  | ok value => exact nofun
  | error e =>
      have hgoes : GoesOnAfter pool index attempt tried answers e :=
        hgoes e (congrArg thrown hanswer)
      cases hretry : e.isRetryable with
      | false =>
          simp only [hretry, if_true]
          intro hresult
          obtain rfl : e = pool.allFailed := by injection hresult
          cases hretry
      | true =>
          simp only [hretry, Bool.true_eq_false, if_false]
          exact distinct_attemptNext (Nat.mod_lt _ pool.pos) hnodup hlt hlength (hgoes.2 hretry)

/-- An attempt after which the call fails. -/
theorem answered_error {attempt endpoint : ℕ} {tried tried' : List ℕ} {e : Failure}
    (h : (FailoverCall.answered pool index attempt endpoint tried answers).2 =
      .ended (.error e) tried') :
    e = pool.allFailed ∨ e.isRetryable = false ∧ thrown (answers endpoint) = some e := by
  rw [FailoverCall.answered] at h
  cases hanswer : answers endpoint with
  | ok value =>
      rw [hanswer] at h
      cases h
  | error e' =>
      rw [hanswer] at h
      cases hretry : e'.isRetryable with
      | false =>
          simp only [hretry, if_true] at h
          obtain rfl : e' = e := by
            injection h with hresult
            injection hresult
          exact .inr ⟨hretry, rfl⟩
      | true =>
          simp only [hretry, Bool.true_eq_false, if_false, FailoverCall.attemptNext] at h
          split at h
          · cases h
          · injection h with hresult
            injection hresult with hall
            exact .inl hall.symm

theorem answered_lt {attempt endpoint : ℕ} {tried : List ℕ} (h : index < pool.endpoints) :
    (FailoverCall.answered pool index attempt endpoint tried answers).1 < pool.endpoints := by
  rw [FailoverCall.answered]
  split
  · exact h
  · split
    · exact h
    · exact Nat.mod_lt _ pool.pos

end

/-! ### Runs -/

/-- The attempts of call `r`, in a run in which it goes on. -/
theorem withFailover_distinct (pool : RpcPool) (r : ℕ) :
    (withFailover (α := α) pool).Keeps (Onward pool r) (· < pool.endpoints)
      (fun _ r' p => r' = r → Distinct pool p) fun _ _ => True where
  symm _ _ _ := trivial
  start s r' p _ _ hstarts := by
    cases p with
    | called => exact ⟨fun _ => trivial, fun _ => trivial⟩
    | running | ended => cases hstarts
  resume s r' p answers hs hp hg := by
    obtain ⟨hindex, hdistinct, -⟩ := hs
    refine ⟨?_, fun p' hp' => ⟨fun hr => ?_, fun _ _ _ _ => trivial⟩,
      fun r'' _ q hq => hdistinct r'' q hq⟩
    · cases p with
      | called | ended => exact hindex
      | running attempt endpoint tried => exact answered_lt hindex
    · have hself := hdistinct r' p hp hr
      cases p with
      | called =>
          obtain rfl := Option.some.inj hp'
          exact distinct_attemptNext hindex List.nodup_nil nofun rfl fun _ => List.not_mem_nil
      | running attempt endpoint tried =>
          obtain rfl := Option.some.inj hp'
          exact distinct_answered hself (hg hr _ hp)
      | ended result tried =>
          obtain rfl := Option.some.inj hp'
          exact hself
  other _ e := nomatch e

theorem noFailovers_distinct (pool : RpcPool) (r : ℕ) :
    Processes.Holds (· < pool.endpoints) (fun _ r' p => r' = r → Distinct pool p)
      (fun _ _ => True) (noFailovers : System ℕ (FailoverCall α)) :=
  ⟨pool.pos, .empty, fun _ _ _ _ _ _ _ => trivial⟩

/-- A call that fails at a step has tried every endpoint, if it says that all have failed, and in
any case every one that would have answered. -/
structure GivesUp (pool : RpcPool) (s s' : System ℕ (FailoverCall α)) (r : ℕ)
    (answers : ℕ → Except Failure α) : Prop where
  all : ∀ attempt endpoint tried tried', s.procs.get r = some (.running attempt endpoint tried) →
    s'.procs.get r = some (.ended (.error pool.allFailed) tried') →
      ∀ i < pool.endpoints, i ∈ tried'
  answering : ∀ attempt endpoint tried e tried',
    s.procs.get r = some (.running attempt endpoint tried) →
      s'.procs.get r = some (.ended (.error e) tried') →
        ∀ i < pool.endpoints, i ∉ tried' → (answers i).isOk = false

/-- **Failover tries every endpoint.**  A call that at each of its steps goes on to an endpoint it
has not tried, whatever the other calls of the pool do, has tried them all when it rejects because
all have failed, and never fails while one it has not tried would have answered. -/
theorem gives_up_on_all (pool : RpcPool) (r : ℕ) {s s' : System ℕ (FailoverCall α)}
    {answers : ℕ → Except Failure α}
    (h : Reachable (Guarded (withFailover pool).Step (Onward pool r)) (noFailovers = ·) s)
    (ha : Guarded (withFailover pool).Step (Onward pool r) s (.resume r answers) s') :
    GivesUp pool s s' r answers := by
  have hkeeps := withFailover_distinct (α := α) pool r
  have hinit : ∀ s : System ℕ (FailoverCall α), noFailovers = s →
      Processes.Holds (· < pool.endpoints) (fun _ r' p => r' = r → Distinct pool p)
        (fun _ _ => True) s := fun s e => e ▸ noFailovers_distinct pool r
  obtain ⟨-, hdistinct, -⟩ := hkeeps.reachable hinit (h.step ha)
  have hcovers : ∀ tried', s'.procs.get r = some (.ended (.error pool.allFailed) tried') →
      ∀ i < pool.endpoints, i ∈ tried' := fun tried' hend => hdistinct r _ hend rfl rfl
  obtain ⟨hstep, hg⟩ := ha
  refine ⟨fun _ _ _ tried' _ hend => hcovers tried' hend, ?_⟩
  intro attempt endpoint tried e tried' hp hend i hi hnot
  obtain ⟨p, hget, -, hprocs⟩ := (withFailover pool).step_resume hstep
  obtain rfl : p = .running attempt endpoint tried := Option.some.inj (hget.symm.trans hp)
  have hnext : s'.procs.get r =
      some (FailoverCall.answered pool s.store attempt endpoint tried answers).2 := by
    rw [hprocs]
    exact Table.get_upd_same _ _ _
  rcases answered_error (Option.some.inj (hnext.symm.trans hend)) with rfl | ⟨hfatal, hthrown⟩
  · exact absurd (hcovers tried' hend i hi) hnot
  · exact (hg rfl _ hp e hthrown).1 hfatal i hi

/-- No endpoint answers but `healthy`. -/
def only (healthy : ℕ) (i : ℕ) : Except Failure ℕ :=
  if i = healthy then .ok 0 else .error (.other ⟨"503 Service Unavailable", none⟩)

/-- Two calls take turns to fail on three endpoints that are down, and the first goes round. -/
theorem gives_up_on_all_three : ∃ s s' : System ℕ (FailoverCall ℕ),
    s'.procs.get 0 = some (.ended (.error (RpcPool.allFailed ⟨3, by decide⟩)) [1, 2, 0]) ∧
      GivesUp ⟨3, by decide⟩ s s' 0 (only 3) := by
  have hrun : ((withFailover ⟨3, by decide⟩).actsWhen (Onward ⟨3, by decide⟩ 0) noFailovers
      [.start 0 .called, .start 1 .called, .resume 0 (only 3), .resume 1 (only 3),
        .resume 1 (only 3), .resume 0 (only 3), .resume 1 (only 3), .resume 0 (only 3)]).any
      (fun s => ((withFailover ⟨3, by decide⟩).act s (.resume 0 (only 3))).any fun s' =>
        decide (Onward ⟨3, by decide⟩ 0 s (.resume 0 (only 3)) ∧ s'.procs.get 0 =
          some (.ended (.error (RpcPool.allFailed ⟨3, by decide⟩)) [1, 2, 0]))) = true := by
    decide
  obtain ⟨s, hs, htest⟩ :=
    (withFailover ⟨3, by decide⟩).reachable_of_actsWhen (Eq.refl noFailovers) hrun
  obtain ⟨s', hstep, htest⟩ := (Option.any_eq_true _ _).mp htest
  obtain ⟨hg, hend⟩ := of_decide_eq_true htest
  exact ⟨s, s', hend, gives_up_on_all _ 0 hs ⟨hstep, hg⟩⟩

/-- Two calls fail on the first of two endpoints.  The second of them is moved past the healthy one,
back to where it was. -/
theorem gives_up_on_all_two : ¬ ∀ (pool : RpcPool) (s s' : System ℕ (FailoverCall ℕ)) (r : ℕ)
    (answers : ℕ → Except Failure ℕ), Reachable (withFailover pool).Step (noFailovers = ·) s →
      (withFailover pool).Step s (.resume r answers) s' → GivesUp pool s s' r answers := by
  intro h
  have hrun : ((withFailover ⟨2, by decide⟩).acts noFailovers
      [.start 0 .called, .start 1 .called, .resume 0 (only 1), .resume 1 (only 1),
        .resume 0 (only 1), .resume 1 (only 1)]).any
      (fun s => ((withFailover ⟨2, by decide⟩).act s (.resume 1 (only 1))).any fun s' =>
        decide (s.procs.get 1 = some (.running 1 0 [0, 0]) ∧ s'.procs.get 1 =
          some (.ended (.error (RpcPool.allFailed ⟨2, by decide⟩)) [0, 0]))) = true := by
    decide
  obtain ⟨s, hs, htest⟩ :=
    (withFailover ⟨2, by decide⟩).reachable_of_acts (Eq.refl noFailovers) hrun
  obtain ⟨s', hstep, htest⟩ := (Option.any_eq_true _ _).mp htest
  obtain ⟨hp, hend⟩ := of_decide_eq_true htest
  have htried := (h _ s s' 1 (only 1) hs hstep).all 1 0 _ _ hp hend 1 (by decide)
  exact absurd htried (by decide)

end SnakeArena.Sdk
