import SnakeArena.Books.Withdrawals
import SnakeArena.Gateway.Credits
import SnakeArena.Program.Machine
import SnakeArena.Program.Transaction

/-!
# Custody — the two sides of a balance

What a player holds is written twice: in the custody account, which the deposit and the
withdrawal services move, and in the player account of the arena program, which only the
player's own `deposit` and `withdraw` move as long as no stakes are in play.

Off chain, the calls of the two services and the passes of the reconciler run at a time over one
database.  The rows of its ledger stand in two places, by their keys: the legs of deposits where
`confirmDeposit` posts them, all others with the withdrawals.
-/

namespace SnakeArena.Custody
open SnakeArena.Library SnakeArena.Db
open SnakeArena.Gateway (Signature Solana)

/-- The wallets of the players.  An address is unique. -/
structure Wallets where
  address : ℕ → Program.Pubkey
  unique : Function.Injective address

/-- A `deposit` that the chain executed. -/
structure LandedDeposit where
  signature : Signature
  userId : ℕ
  amount : ℕ
deriving DecidableEq

structure Holdings where
  db : Books.Database
  deposits : Gateway.Store
  chain : Program.State
  /-- No service stores this, nor what follows. -/
  landed : List LandedDeposit
  /-- The withdrawals whose `withdraw` the chain executed. -/
  paid : List ℕ
  /-- The withdrawals whose reservations were given back, once for each time. -/
  released : List ℕ
  /-- The deposit that was credited from a signature. -/
  creditedTo : Table Signature ℕ

/-- One call, or a step of a pass of the reconciler. -/
inductive Task where
  | withdrawal (p : Books.Call)
  | deposit (p : Gateway.Confirm)
  /-- A pass, where it finds its deposits; which withdrawals are stale is left to the clock. -/
  | reconcileOnce (isStale : ℕ → Bool)
  | findWithdrawals
  | expireStaleDeposits

/-- A task, with what is left of the pass that it is of. -/
structure Job where
  task : Task
  rest : List Task

/-- What an await answers.  Where the answer is rows, it is their order; where rows are updated by
their age, it is those that are old enough. -/
inductive Reply where
  | withdrawal (c : Books.Answer)
  | deposit (a : Gateway.Answer)
  | rows (order : List ℕ)

inductive Event where
  /-- A player's transaction with one `deposit`, or one `withdraw` of what an intent reserved. -/
  | deposited (signature : Signature) (userId : ℕ) (accs : Program.Deposit) (amount : ℕ) (now : ℤ)
  | withdrawn (withdrawalId : ℕ) (accs : Program.Withdraw) (now : ℤ)
  | createDepositIntent (depositId userId : ℕ) (wallet : Program.Pubkey) (amount : ℤ)
  | lockExpired (depositId : ℕ)

namespace Holdings

/-- What `confirmDeposit` sees. -/
def depositStore (s : Holdings) : Gateway.Store :=
  { s.deposits with ledger := ⟨s.db.poolAccounts, s.deposits.ledger.transactions⟩ }

/-- What the player is told to have off chain. -/
def spendable (s : Holdings) (userId : ℕ) : ℤ :=
  (s.db.poolAccounts.get (.custody userId)).elim 0 Books.spendable

/-- The player account on chain. -/
def onChain (wallets : Wallets) (s : Holdings) (userId : ℕ) : ℤ :=
  s.chain.balanceOf (wallets.address userId)

/-- `status: PENDING, txSignature: { not: null }`. -/
def selectDeposit (s : Holdings) (d : ℕ) : Option Task :=
  match s.deposits.deposits.get d with
  | some row =>
      if row.status = .pending then
        row.txSignature.map fun signature => .deposit ⟨row.userId, d, signature, .acquireLock⟩
      else none
  | none => none

/-- `status: SUBMITTED, txSignature: { not: null }`. -/
def selectWithdrawal (s : Holdings) (id : ℕ) : Option Task :=
  match s.db.withdrawal id with
  | some row =>
      if row.status = .submitted then
        row.txSignature.map fun signature =>
          .withdrawal (.call (.confirmWithdrawal row.userId id signature))
      else none
  | none => none

def expireStaleDeposits (s : Holdings) (old : List ℕ) : Holdings :=
  { s with
    deposits := { s.deposits with
      deposits := s.deposits.deposits.map fun d row =>
        if row.status = .pending ∧ row.txSignature = none ∧ d ∈ old then
          { row with
            status := .expired
            failureReason := some "No transaction was submitted before the intent expired" }
        else row } }

/-- A call of the withdrawal service, from one statement to the next. -/
def resumeWithdrawal (r : ℕ) (s : Holdings) (p : Books.Call) (c : Books.Answer) :
    Holdings × Option Books.Call :=
  let out := Books.calls.resume r s.db p c
  ({ s with db := out.1, released := s.released ++ Books.gives s.db p }, out.2)

/-- Whether `confirmDeposit` posts its credit now. -/
def posts (s : Holdings) (p : Gateway.Confirm) : Gateway.Answer → Bool
  | .throw => false
  | _ =>
      match p.point with
      | .postCredit deposit result =>
          (Gateway.postEntry s.depositStore.ledger
            (Gateway.depositEntry p.depositId deposit.userId result.observedLamports)).isOk
      | _ => false

/-- `confirmDeposit`, from one await to the next. -/
def resumeDeposit (sol : Solana) (r : ℕ) (s : Holdings) (p : Gateway.Confirm) (a : Gateway.Answer) :
    Holdings × Option Gateway.Confirm :=
  let out := p.resume sol r s.depositStore a
  ({ s with
      db := { s.db with poolAccounts := out.1.ledger.poolAccounts }
      deposits := out.1
      creditedTo :=
        if s.posts p a then s.creditedTo.upd p.signature p.depositId else s.creditedTo },
    out.2)

end Holdings

/-- What comes next in a pass. -/
def nextTask : List Task → Option Job
  | [] => none
  | task :: rest => some ⟨task, rest⟩

def Task.starts : Task → Bool
  | .withdrawal (.call request) => request.ofWithdrawal
  | .deposit p =>
      match p.point with
      | .acquireLock => true
      | _ => false
  | .reconcileOnce _ => true
  | _ => false

def Job.starts (job : Job) : Bool := job.rest.isEmpty && job.task.starts

/-- Any other answer ends the job, as a crash does. -/
def resume (sol : Solana) (r : ℕ) (s : Holdings) (job : Job) (reply : Reply) :
    Holdings × Option Job :=
  match job.task, reply with
  | .withdrawal p, .withdrawal c =>
      let out := s.resumeWithdrawal r p c
      (out.1, out.2.elim (nextTask job.rest) fun p => some { job with task := .withdrawal p })
  | .deposit p, .deposit a =>
      let out := s.resumeDeposit sol r p a
      (out.1, out.2.elim (nextTask job.rest) fun p => some { job with task := .deposit p })
  | .reconcileOnce isStale, .rows order =>
      (s, nextTask ((order.dedup.filterMap s.selectDeposit).take 100 ++
        [.findWithdrawals, .expireStaleDeposits,
          .withdrawal (.call (.expireStaleWithdrawals isStale))]))
  | .findWithdrawals, .rows order =>
      (s, nextTask ((order.dedup.filterMap s.selectWithdrawal).take 100 ++ job.rest))
  | .expireStaleDeposits, .rows old => (s.expireStaleDeposits old, nextTask job.rest)
  | _, _ => (s, none)

/-- Each `withdraw` carries the gross amount of another intent of its player, one that is still
reserved. -/
def other (rt : Program.Runtime) (wallets : Wallets) (s : Holdings) : Event → Option Holdings
  | .deposited signature userId accs amount now =>
      if accs.player.key = wallets.address userId ∧ ∀ x ∈ s.landed, x.signature ≠ signature then
        match Program.exec rt now s.chain (.deposit accs amount) with
        | .ok t =>
            some { s with chain := t.state, landed := s.landed ++ [⟨signature, userId, amount⟩] }
        | .error _ => none
      else none
  | .withdrawn id accs now =>
      match s.db.withdrawal id with
      | none => none
      | some row =>
          if accs.player.key = wallets.address row.userId ∧ id ∉ s.released ∧ id ∉ s.paid then
            match Program.exec rt now s.chain (.withdraw accs row.amountLamports.toNat) with
            | .ok t => some { s with chain := t.state, paid := s.paid ++ [id] }
            | .error _ => none
          else none
  | .createDepositIntent depositId userId wallet amount =>
      (Gateway.outside s.deposits (.create depositId userId wallet amount)).map fun deposits =>
        { s with deposits }
  | .lockExpired depositId =>
      (Gateway.outside s.deposits (.lockExpired depositId)).map fun deposits => { s with deposits }

/-- The two services, the reconciler and the players' transactions. -/
def custody (sol : Solana) (rt : Program.Runtime) (wallets : Wallets) :
    Processes Holdings Job Reply Event where
  starts := Job.starts
  resume := resume sol
  other := other rt wallets

/-! ### What each step has to find -/

/-- A release finds no more reserved than it read, is the first of its withdrawal, and gives
back nothing that the chain paid, unless the debit is posted; an intent finds no more reserved
than it read.  A credit is of no more than its player's deposit under the signature that landed,
and of no other deposit row. -/
def Holdings.Backs (s : Holdings) : Task → Prop
  | .withdrawal (.running (.commit t _) _ _) => t.Reserves s.db s.released s.paid
  | .deposit ⟨_, depositId, signature, .postCredit deposit result⟩ =>
      (∃ x ∈ s.landed, x.signature = signature ∧ x.userId = deposit.userId ∧
        result.observedLamports ≤ x.amount) ∧ ∀ d ∈ s.creditedTo.get signature, d = depositId
  | _ => True

instance (s : Holdings) (task : Task) : Decidable (s.Backs task) := by
  unfold Holdings.Backs
  split <;> infer_instance

def Backed (s : System Holdings Job) : Act Job Reply Event → Prop
  | .resume r _ => ∀ job ∈ s.procs.get r, s.store.Backs job.task
  | _ => True

instance (s : System Holdings Job) (a : Act Job Reply Event) : Decidable (Backed s a) :=
  match a with
  | .start _ _ | .crash _ | .other _ => .isTrue trivial
  | .resume r _ => inferInstanceAs (Decidable (∀ job ∈ s.procs.get r, s.store.Backs job.task))

/-- Both sides the same, nothing reserved or staked, and nothing under way. -/
structure Equal (wallets : Wallets) (s : System Holdings Job) : Prop where
  balance : ∀ userId, s.store.db.balance (.custody userId) = s.store.onChain wallets userId
  reserved : ∀ userId, s.store.db.reserved userId = 0
  stakes : s.store.db.stakeReservations = []
  withdrawals : s.store.db.withdrawals = []
  posted : ∀ id, s.store.db.debited id = false
  landed : s.store.landed = []
  paid : s.store.paid = []
  released : s.store.released = []
  creditedTo : s.store.creditedTo = .empty
  procs : s.procs = .empty

end SnakeArena.Custody
