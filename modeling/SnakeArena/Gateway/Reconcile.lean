import SnakeArena.Gateway.Signatures

/-!
# Gateway — the reconciler

`services/reconciler.ts`, as far as it goes with deposits: a pass reads the deposits that have a
signature and are not confirmed, confirms each, and expires the stale ones that have none.
Passes and confirms by clients run at a time, over one store.

* `pending_rechecked`: a run keeps what was answered as pending exactly when no pass reads its
  deposits while one of those waits for it, and none expires one before it was looked up again.
  The pending branch writes no signature, so a pass finds none to confirm.
-/

namespace SnakeArena.Gateway
open SnakeArena.Library SnakeArena.Db SnakeArena.Program SnakeArena.Sdk

def depositIntentTtlMs : ℕ := 15 * 60 * 1000

/-- What a pass read, and what it was to read: the deposits that were answered as pending, with
their signatures, and are not settled. -/
structure Pass where
  owed : List (ℕ × Signature)
  selected : List (ℕ × Signature)
deriving DecidableEq

structure Recovery where
  store : Store
  createdAt : Table ℕ ℕ
  /-- Answered as pending.  No service stores this, nor what follows. -/
  answered : List (ℕ × Signature)
  /-- Answered so, and not looked up since. -/
  awaited : List (ℕ × Signature)
  passes : List Pass
  /-- Awaited when their deposits were expired. -/
  forgotten : List (ℕ × Signature)

/-- What an await answers, with the clock, and the order the database reads its rows in. -/
structure Reply where
  answer : Answer
  now : ℕ
  order : List ℕ

/-- A row that `findMany` selects. -/
structure PendingDeposit where
  id : ℕ
  userId : ℕ
  txSignature : Signature

/-- The await a pass stops at.  What it does with withdrawals is one await. -/
inductive ReconcilePoint where
  | findDeposits
  | confirmDeposit (p : Confirm) (pending : Bool) (rest : List PendingDeposit)
  | withdrawals
  | expireStaleDeposits

inductive Job where
  /-- With whether it is about to answer that the deposit is pending. -/
  | confirm (p : Confirm) (pending : Bool)
  | reconcile (point : ReconcilePoint)

namespace Recovery

def settled (status : DepositStatus) : Bool := decide (status = .confirmed ∨ status = .failed)

/-- Answered as pending, and neither confirmed nor failed. -/
def owed (s : Recovery) : List (ℕ × Signature) :=
  s.answered.filter fun x => (s.store.deposits.get x.1).any fun row => !settled row.status

/-- `status: PENDING, txSignature: { not: null }`. -/
def selects (s : Recovery) (d : ℕ) : Option PendingDeposit :=
  match s.store.deposits.get d with
  | some row =>
      if row.status = .pending then row.txSignature.map fun signature => ⟨d, row.userId, signature⟩
      else none
  | none => none

/-- `take: 100`. -/
def findPending (s : Recovery) (order : List ℕ) : List PendingDeposit :=
  (order.dedup.filterMap s.selects).take 100

/-- `expireStaleDeposits` updates the row. -/
def stale (s : Recovery) (now : ℕ) (d : ℕ) (row : Deposit) : Bool :=
  decide (row.status = .pending ∧ row.txSignature = none) &&
    (s.createdAt.get d).any fun createdAt => decide (createdAt + depositIntentTtlMs < now)

def isStale (s : Recovery) (now d : ℕ) : Bool := (s.store.deposits.get d).any (s.stale now d)

/-- One step of a confirm, with what its call comes to. -/
def confirm (sol : Solana) (r : ℕ) (s : Recovery) (p : Confirm) (pending : Bool) (answer : Answer) :
    Recovery × Option (Confirm × Bool) :=
  let out := p.resume sol r s.store answer
  let s := { s with store := out.1 }
  match p.point, answer with
  | .getTransaction _, .throw => (s, out.2.map fun p => (p, false))
  -- looked up
  | .getTransaction _, answer =>
      ({ s with awaited := s.awaited.filter (· ≠ (p.depositId, p.signature)) },
        out.2.map fun p => (p, match answer with | .notVisible => true | _ => false))
  | .release, .throw => (s, none)
  | .release, _ =>
      if pending then
        ({ s with
          answered := s.answered ++ [(p.depositId, p.signature)]
          awaited := s.awaited ++ [(p.depositId, p.signature)] }, none)
      else (s, none)
  | _, _ => (s, out.2.map fun p => (p, pending))

/-- The next deposit of the pass. -/
def reconcileNext : List PendingDeposit → ReconcilePoint
  | [] => .withdrawals
  | row :: rest => .confirmDeposit ⟨row.userId, row.id, row.txSignature, .acquireLock⟩ false rest

def reconcile (sol : Solana) (r : ℕ) (s : Recovery) (point : ReconcilePoint) (reply : Reply) :
    Recovery × Option Job :=
  match point, reply.answer with
  -- a confirm that throws is logged
  | .confirmDeposit p pending rest, answer =>
      match s.confirm sol r p pending answer with
      | (s, some (p, pending)) => (s, some (.reconcile (.confirmDeposit p pending rest)))
      | (s, none) => (s, some (.reconcile (reconcileNext rest)))
  | _, .throw => (s, none)
  | .findDeposits, _ =>
      let rows := s.findPending reply.order
      ({ s with passes := s.passes ++ [⟨s.owed, rows.map fun row => (row.id, row.txSignature)⟩] },
        some (.reconcile (reconcileNext rows)))
  | .withdrawals, _ => (s, some (.reconcile .expireStaleDeposits))
  | .expireStaleDeposits, _ =>
      ({ s with
        store := { s.store with
          deposits := s.store.deposits.map fun d row =>
            if s.stale reply.now d row then
              { row with
                status := .expired
                failureReason := some "No transaction was submitted before the intent expired" }
            else row }
        forgotten := s.forgotten ++ s.awaited.filter fun x => s.isStale reply.now x.1 }, none)

end Recovery

inductive Happens where
  | create (depositId userId : ℕ) (wallet : Pubkey) (amount : ℤ) (now : ℕ)
  | lockExpired (depositId : ℕ)
  | account (name : PoolAccountName) (balance reserved : ℤ) (version : ℕ)

def Happens.apply (s : Recovery) : Happens → Option Recovery
  | .create depositId userId wallet amount now =>
      (outside s.store (.create depositId userId wallet amount)).map fun store =>
        { s with store, createdAt := s.createdAt.upd depositId now }
  | .lockExpired depositId => (outside s.store (.lockExpired depositId)).map fun store =>
      { s with store }
  | .account name balance reserved version =>
      (outside s.store (.account name balance reserved version)).map fun store => { s with store }

/-- Confirms and passes, over one store. -/
def recovery (sol : Solana) : Processes Recovery Job Reply Happens where
  starts
    | .confirm p false => match p.point with | .acquireLock => true | _ => false
    | .reconcile .findDeposits => true
    | _ => false
  resume r s job reply :=
    match job with
    | .confirm p pending =>
        (s.confirm sol r p pending reply.answer).map id (Option.map fun x => .confirm x.1 x.2)
    | .reconcile point => s.reconcile sol r point reply
  other := Happens.apply

/-! ### What a pass finds -/

/-- A pending deposit has no signature. -/
def Store.Unsigned (s : Store) : Prop :=
  s.deposits.All fun _ row => row.status = .pending → row.txSignature = none

section Unsigned
variable {sol : Solana} {s : Store}

theorem Store.Unsigned.of_deposits {s' : Store} (h : s.Unsigned) (hs : s'.deposits = s.deposits) :
    s'.Unsigned := by
  unfold Store.Unsigned
  rw [hs]
  exact h

/-- A confirm writes a signature where it confirms, and nowhere else. -/
theorem Store.Unsigned.resume (h : s.Unsigned) (r : ℕ) (p : Confirm) (a : Answer) :
    (p.resume sol r s a).1.Unsigned := by
  have ho := p.resume_outcome sol r s a
  generalize (p.resume sol r s a).1 = s', (p.resume sol r s a).2 = next at ho
  cases ho with
  | ended | released | found | fresh | verified | refused | already => exact h
  | locked | unlocked | noSystem | custody | posted => exact h.of_deposits rfl
  | @failed _ reason hpt =>
      unfold Store.markFailed
      split
      · exact h
      · exact Table.All.upd h nofun
  | confirmed hpt hmark =>
      unfold Store.markConfirmed at hmark
      split at hmark
      · cases hmark
      · simp only [Option.ite_none_left_eq_some] at hmark
        obtain rfl := Option.some.inj hmark.2
        exact Table.All.upd h nofun

theorem Store.Unsigned.outside {e : Outside} {s' : Store} (h : s.Unsigned)
    (he : Gateway.outside s e = some s') : s'.Unsigned := by
  cases e with
  | create depositId userId wallet amount =>
      simp only [Gateway.outside, Option.ite_none_right_eq_some] at he
      obtain rfl := Option.some.inj he.2
      exact Table.All.upd h fun _ => rfl
  | expire depositId =>
      simp only [Gateway.outside] at he
      split at he
      · cases he
      · simp only [Option.ite_none_right_eq_some] at he
        obtain rfl := Option.some.inj he.2
        exact Table.All.upd h (by rintro ⟨⟩)
  | lockExpired depositId =>
      simp only [Gateway.outside] at he
      split at he
      · cases he
      · obtain rfl := Option.some.inj he
        exact h
  | account name balance reserved version =>
      obtain rfl := Option.some.inj he
      exact h

end Unsigned

namespace Recovery
variable {sol : Solana} {s : Recovery}

/-- **A pass finds no deposit to confirm.** -/
theorem findPending_eq_nil (h : s.store.Unsigned) (order : List ℕ) : s.findPending order = [] := by
  have hselects : ∀ d ∈ order.dedup, s.selects d = none := by
    intro d _
    unfold selects
    split
    next row hrow =>
      split
      next hpending => rw [h d row hrow hpending, Option.map_none]
      · rfl
    · rfl
  rw [findPending, List.filterMap_eq_nil_iff.mpr hselects, List.take_nil]

/-- Every pass read what it was to read, and no deposit was expired while it was awaited. -/
def Kept (s : Recovery) : Prop := (∀ x ∈ s.passes, x.owed ⊆ x.selected) ∧ s.forgotten = []

/-- A confirm leaves the passes. -/
theorem confirm_spec (sol : Solana) (r : ℕ) (s : Recovery) (p : Confirm) (pending : Bool)
    (a : Answer) :
    (s.confirm sol r p pending a).1.store = (p.resume sol r s.store a).1 ∧
      (s.confirm sol r p pending a).1.passes = s.passes ∧
      (s.confirm sol r p pending a).1.forgotten = s.forgotten := by
  unfold confirm
  dsimp only
  split
  · exact ⟨rfl, rfl, rfl⟩
  · exact ⟨rfl, rfl, rfl⟩
  · exact ⟨rfl, rfl, rfl⟩
  · split <;> exact ⟨rfl, rfl, rfl⟩
  · exact ⟨rfl, rfl, rfl⟩

end Recovery

/-- A pass that reads its deposits owes none, and one that expires them reaches none that is
awaited. -/
def Rechecks (s : System Recovery Job) : Act Job Reply Happens → Prop
  | .resume r reply =>
      match s.procs.get r, reply.answer with
      | _, .throw => True
      | some (.reconcile .findDeposits), _ => s.store.owed = []
      | some (.reconcile .expireStaleDeposits), _ =>
          ∀ x ∈ s.store.awaited, s.store.isStale reply.now x.1 = false
      | _, _ => True
  | _ => True

instance (s : System Recovery Job) : DecidablePred (Rechecks s) :=
  fun a => by
    unfold Rechecks
    split
    · split <;> infer_instance
    · infer_instance

section Steps
variable {sol : Solana}

theorem Recovery.kept_congr {s s' : Recovery} (hpasses : s'.passes = s.passes)
    (hforgotten : s'.forgotten = s.forgotten) : s'.Kept ↔ s.Kept := by
  simp only [Recovery.Kept, hpasses, hforgotten]

/-- A confirm, by a client or by a pass, keeps what was kept. -/
theorem Recovery.confirm_kept (sol : Solana) {s : Recovery} (h : s.store.Unsigned) (r : ℕ)
    (p : Confirm)
    (pending : Bool) (a : Answer) :
    (s.confirm sol r p pending a).1.store.Unsigned ∧
      ((s.confirm sol r p pending a).1.Kept ↔ s.Kept) := by
  obtain ⟨hstore, hpasses, hforgotten⟩ := s.confirm_spec sol r p pending a
  exact ⟨hstore ▸ h.resume r p a, kept_congr hpasses hforgotten⟩

/-- A pass reads nothing, so it owed nothing if it keeps what was kept. -/
theorem Recovery.read_kept {s : Recovery} (h : s.store.Unsigned) (order : List ℕ) :
    ({ s with
      passes := s.passes ++ [⟨s.owed,
        (s.findPending order).map fun row => (row.id, row.txSignature)⟩] } : Recovery).Kept ↔
      s.Kept ∧ s.owed = [] := by
  simp only [Kept, findPending_eq_nil h, List.map_nil, List.forall_mem_append,
    List.forall_mem_singleton, List.subset_nil]
  tauto

theorem Recovery.expire_kept (s : Recovery) (now : ℕ) (store : Store) :
    ({ s with
      store
      forgotten := s.forgotten ++ s.awaited.filter fun x => s.isStale now x.1 } : Recovery).Kept ↔
      s.Kept ∧ ∀ x ∈ s.awaited, s.isStale now x.1 = false := by
  simp only [Kept, List.append_eq_nil_iff, List.filter_eq_nil_iff, Bool.not_eq_true, and_assoc]

theorem Store.Unsigned.expire {s : Recovery} (h : s.store.Unsigned) (now : ℕ) :
    Store.Unsigned { s.store with
      deposits := s.store.deposits.map fun d row =>
        if s.stale now d row then
          { row with
            status := .expired
            failureReason := some "No transaction was submitted before the intent expired" }
        else row } := by
  intro d row hrow hpending
  obtain ⟨before, hbefore, rfl⟩ := Option.map_eq_some_iff.mp hrow
  dsimp only at hpending ⊢
  split at hpending
  · cases hpending
  next hfresh =>
    rw [if_neg hfresh]
    exact h d before hbefore hpending

theorem recovery_resume {s : System Recovery Job} {r : ℕ} {job : Job} (h : s.store.store.Unsigned)
    (hp : s.procs.get r = some job) (reply : Reply) :
    ((recovery sol).resume r s.store job reply).1.store.Unsigned ∧
      (((recovery sol).resume r s.store job reply).1.Kept ↔
        s.store.Kept ∧ Rechecks s (.resume r reply)) := by
  obtain ⟨answer, now, order⟩ := reply
  cases job with
  | confirm p pending =>
      have hg : Rechecks s (.resume r ⟨answer, now, order⟩) := by
        simp only [Rechecks, hp]
        cases answer <;> trivial
      have hkept := Recovery.confirm_kept sol h r p pending answer
      exact ⟨hkept.1, hkept.2.trans (iff_self_and.mpr fun _ => hg)⟩
  | reconcile point =>
      cases point with
      | confirmDeposit p pending rest =>
          have hg : Rechecks s (.resume r ⟨answer, now, order⟩) := by
            simp only [Rechecks, hp]
            cases answer <;> trivial
          have hkept := Recovery.confirm_kept sol h r p pending answer
          have hstore : ((recovery sol).resume r s.store
            (.reconcile (.confirmDeposit p pending rest))
              ⟨answer, now, order⟩).1 = (s.store.confirm sol r p pending answer).1 := by
            simp only [recovery, Recovery.reconcile]
            generalize s.store.confirm sol r p pending answer = out
            obtain ⟨s', _ | ⟨p', pending'⟩⟩ := out <;> rfl
          rw [hstore]
          exact ⟨hkept.1, hkept.2.trans (iff_self_and.mpr fun _ => hg)⟩
      | findDeposits =>
          cases answer with
          | throw => exact ⟨h, by simp [recovery, Recovery.reconcile, Rechecks]⟩
          | ok | notVisible =>
              refine ⟨h, (Recovery.read_kept h order).trans ?_⟩
              simp only [Rechecks, hp]
      | withdrawals =>
          cases answer <;> exact ⟨h, by simp [recovery, Recovery.reconcile, Rechecks, hp]⟩
      | expireStaleDeposits =>
          cases answer with
          | throw => exact ⟨h, by simp [recovery, Recovery.reconcile, Rechecks]⟩
          | ok | notVisible =>
              refine ⟨h.expire now, (Recovery.expire_kept s.store now _).trans ?_⟩
              simp only [Rechecks, hp]

/-- **A step** keeps pending deposits without a signature, and keeps what was kept exactly when it
meets `Rechecks`. -/
theorem recovery_step {s s' : System Recovery Job} {a : Act Job Reply Happens}
    (h : s.store.store.Unsigned) (hstep : (recovery sol).Step s a s') :
    s'.store.store.Unsigned ∧ (s'.store.Kept ↔ s.store.Kept ∧ Rechecks s a) := by
  cases a with
  | start r job =>
      simp only [Processes.Step, Processes.act, Option.ite_none_right_eq_some] at hstep
      obtain rfl := Option.some.inj hstep.2
      exact ⟨h, iff_self_and.mpr fun _ => trivial⟩
  | crash r =>
      simp only [Processes.Step, Processes.act, Option.ite_none_right_eq_some] at hstep
      obtain rfl := Option.some.inj hstep.2
      exact ⟨h, iff_self_and.mpr fun _ => trivial⟩
  | resume r reply =>
      obtain ⟨job, hp, hstore, -⟩ := (recovery sol).step_resume hstep
      rw [hstore]
      exact recovery_resume h hp reply
  | other e =>
      simp only [Processes.Step, Processes.act, Option.map_eq_some_iff] at hstep
      obtain ⟨store, hstore, rfl⟩ := hstep
      cases e with
      | create depositId userId wallet amount now =>
          obtain ⟨store', hstore', rfl⟩ := Option.map_eq_some_iff.mp hstore
          exact ⟨h.outside hstore', iff_self_and.mpr fun _ => trivial⟩
      | lockExpired depositId =>
          obtain ⟨store', hstore', rfl⟩ := Option.map_eq_some_iff.mp hstore
          exact ⟨h.outside hstore', iff_self_and.mpr fun _ => trivial⟩
      | account name balance reserved version =>
          obtain rfl := Option.some.inj hstore
          exact ⟨h, iff_self_and.mpr fun _ => trivial⟩

/-- No deposit, no pass, and nothing answered. -/
structure Recovery.Fresh (s : System Recovery Job) : Prop where
  deposits : s.store.store.deposits = .empty
  answered : s.store.answered = []
  awaited : s.store.awaited = []
  passes : s.store.passes = []
  forgotten : s.store.forgotten = []
  procs : s.procs = .empty

theorem Recovery.Fresh.unsigned {s : System Recovery Job} (h : Fresh s) :
    s.store.store.Unsigned := by
  unfold Store.Unsigned
  rw [h.deposits]
  exact .empty

/-- **A submitted deposit is not forgotten** in a run exactly when each of its steps meets
`Rechecks`. -/
theorem pending_rechecked {s₀ s : System Recovery Job} (h₀ : Recovery.Fresh s₀)
    {as : List (Act Job Reply Happens)} (hrun : Run (recovery sol).Step s₀ as s) :
    ((∀ x ∈ s.store.passes, x.owed ⊆ x.selected) ∧ s.store.forgotten = []) ↔
      Run (Guarded (recovery sol).Step Rechecks) s₀ as s := by
  constructor
  · refine hrun.history (I := fun as s => s.store.Kept →
      Run (Guarded (recovery sol).Step Rechecks) s₀ as s) (fun _ => .nil _) ?_
    intro as s a s' hrun ih hstep hkept
    have hunsigned : s.store.store.Unsigned :=
      hrun.invariant (I := fun s => s.store.store.Unsigned)
        (fun _ _ _ h hstep => (recovery_step h hstep).1) h₀.unsigned
    obtain ⟨hkept, hg⟩ := (recovery_step hunsigned hstep).2.mp hkept
    exact (ih hkept).snoc ⟨hstep, hg⟩
  · intro hguarded
    have h : s.store.store.Unsigned ∧ s.store.Kept :=
      hguarded.invariant (I := fun s => s.store.store.Unsigned ∧ s.store.Kept)
        (fun _ _ _ h hstep =>
          ⟨(recovery_step h.1 hstep.1).1, (recovery_step h.1 hstep.1).2.mpr ⟨h.2, hstep.2⟩⟩)
        ⟨h₀.unsigned, by rw [h₀.passes]; exact nofun, h₀.forgotten⟩
    exact h.2

end Steps

/-! Two runs -/

def noPasses : System Recovery Job :=
  ⟨⟨⟨.empty, .empty, ⟨.empty, .empty⟩, .empty, .empty⟩, .empty, [], [], [], []⟩, .empty⟩

theorem noPasses_fresh : Recovery.Fresh noPasses := ⟨rfl, rfl, rfl, rfl, rfl, rfl⟩

/-- Deposit 0 is confirmed with its signature before the chain shows it. -/
def early : List (Act Job Reply Happens) :=
  [.other (.account .external 0 0 0), .other (.create 0 9 (.key 4) 1000000 0),
    .start 0 (.confirm ⟨9, 0, "5sig", .acquireLock⟩ false)] ++
    [.ok, .ok, .ok, .notVisible, .ok].map fun answer => .resume 0 ⟨answer, 0, []⟩

/-- A pass. -/
def pass (r now : ℕ) : List (Act Job Reply Happens) :=
  .start r (.reconcile .findDeposits) :: List.replicate 3 (.resume r ⟨.ok, now, [0]⟩)

/-- The client asks again, and the deposit is confirmed before a pass. -/
theorem pending_rechecked_by_client : ∃ s : System Recovery Job,
    s.store.answered = [(0, "5sig")] ∧ s.store.passes = [⟨[], []⟩] ∧
      (∀ x ∈ s.store.passes, x.owed ⊆ x.selected) ∧ s.store.forgotten = [] := by
  have run : ((recovery solana).actsWhen Rechecks noPasses
      (early ++ .start 1 (.confirm ⟨9, 0, "5sig", .acquireLock⟩ false) ::
        List.replicate 8 (.resume 1 ⟨.ok, 0, []⟩) ++ pass 2 1000000)).any (fun s =>
          decide (s.store.answered = [(0, "5sig")] ∧ s.store.passes = [⟨[], []⟩])) = true := by
    decide
  obtain ⟨s, hs, htest⟩ := (Option.any_eq_true _ _).mp run
  have hguarded := (recovery solana).run_of_actsWhen hs
  obtain ⟨hanswered, hpasses⟩ := of_decide_eq_true htest
  exact ⟨s, hanswered, hpasses, (pending_rechecked noPasses_fresh hguarded.of_guarded).mpr hguarded⟩

/-- The pass that follows does not read the deposit, and expires it. -/
theorem pending_rechecked_forgotten : ¬ ∀ (sol : Solana) (s₀ s : System Recovery Job)
    (as : List (Act Job Reply Happens)), Recovery.Fresh s₀ → Run (recovery sol).Step s₀ as s →
      (∀ x ∈ s.store.passes, x.owed ⊆ x.selected) ∧ s.store.forgotten = [] := by
  intro hclaim
  have run : ((recovery solana).acts noPasses (early ++ pass 1 1000000)).any (fun s =>
      decide (s.store.passes = [⟨[(0, "5sig")], []⟩] ∧
        s.store.forgotten = [(0, "5sig")])) = true := by
    decide
  obtain ⟨s, hs, htest⟩ := (Option.any_eq_true _ _).mp run
  obtain ⟨hpasses, hforgotten⟩ := of_decide_eq_true htest
  obtain ⟨hread, -⟩ := hclaim solana noPasses s _ noPasses_fresh ((recovery solana).run_of_acts hs)
  rw [hpasses] at hread
  exact absurd (hread _ (.head _)) (by decide)

end SnakeArena.Gateway
