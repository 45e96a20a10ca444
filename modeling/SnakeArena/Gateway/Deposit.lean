import SnakeArena.Gateway.Ledger
import SnakeArena.Library.Processes
import SnakeArena.Sdk.VerifyCustody

/-!
# Gateway — confirming deposits

`services/deposit.service.ts`.  A call of `confirmDeposit` is a process that stops at each
await; between two of them it runs alone, and any number of calls run at a time.  It can crash
at each, or the await can throw, and then the `finally` releases the lock.

The lock of a deposit is taken for 30 s: it is released, or it expires.
-/

namespace SnakeArena.Gateway
open SnakeArena.Library SnakeArena.Db SnakeArena.Program SnakeArena.Sdk

abbrev Signature := String

inductive DepositStatus where
  | pending | confirmed | failed | expired
deriving DecidableEq

structure Deposit where
  userId : ℕ
  /-- The address of the deposit's wallet. -/
  wallet : Pubkey
  status : DepositStatus
  amountLamports : ℤ
  /-- Solana transaction signature.  Unique. -/
  txSignature : Option Signature
  slot : Option ℕ
  failureReason : Option String
deriving DecidableEq

/-- What the service asks of the chain: the addresses it was configured with, and the
transaction of a signature, once the node sees it. -/
structure Solana where
  toBase58 : Pubkey → String
  programId : Pubkey
  pool : Pubkey
  getParsedTransaction : Signature → ParsedTransactionWithMeta

structure Store where
  deposits : Table ℕ Deposit
  /-- The unique index on `tx_signature`. -/
  txSignatures : Table Signature ℕ
  ledger : Ledger
  /-- The holder of the lock of a deposit. -/
  locks : Table ℕ ℕ
  /-- The signature whose confirm posted the credit of a deposit.  No service stores this. -/
  creditedFrom : Table ℕ Signature

/-- The await a call stops at, with what it has read so far. -/
inductive ConfirmPoint where
  | acquireLock
  | findDeposit
  | findSignature (deposit : Deposit)
  | getTransaction (deposit : Deposit)
  | markFailed (reason : String)
  | findCustody (deposit : Deposit) (result : VerificationResult)
  | postCredit (deposit : Deposit) (result : VerificationResult)
  | markConfirmed (deposit : Deposit) (result : VerificationResult)
  | release

structure Confirm where
  userId : ℕ
  depositId : ℕ
  signature : Signature
  point : ConfirmPoint

/-- What an await answers.  Where the answer is a row, it is the row in the store. -/
inductive Answer where
  | ok
  /-- The node does not see the transaction yet. -/
  | notVisible
  | throw

/-- What else happens to the store. -/
inductive Outside where
  /-- A user creates an intent. -/
  | create (depositId userId : ℕ) (wallet : Pubkey) (amount : ℤ)
  /-- `expireStaleDeposits` reaches a deposit. -/
  | expire (depositId : ℕ)
  | lockExpired (depositId : ℕ)
  /-- Another service writes a pool account. -/
  | account (name : PoolAccountName) (balance reserved : ℤ) (version : ℕ)

def describeFailure : Option VerificationFailure → String
  | some .transactionFailed => "The on-chain transaction failed"
  | some .programNotInvoked => "Transaction did not invoke the arena program"
  | some .signerMismatch => "Transaction was not signed by the deposit wallet"
  | some .amountMismatch => "Transferred amount was less than the requested deposit"
  | some .wrongDirection => "Transaction did not credit the custody vault"
  | _ => "Deposit could not be verified"

def minDepositLamports : ℤ := 10000

/-- The entry of a credited deposit. -/
def depositEntry (depositId userId : ℕ) (credited : ℤ) : PostEntryParams where
  type := .deposit
  legs :=
    [⟨.external, none, .debit, credited⟩, ⟨.custody userId, some userId, .credit, credited⟩]
  idempotencyKey := .deposit depositId
  gameId := none
  depositId := some depositId
  withdrawalId := none

/-- `deposit.update` to `CONFIRMED`: fails when another deposit has the signature. -/
def Store.markConfirmed (s : Store) (depositId : ℕ) (signature : Signature) (slot : ℕ) :
    Option Store :=
  match s.deposits.get depositId with
  | none => none
  | some row =>
      if (s.txSignatures.get signature).any (· ≠ depositId) then none
      else
        let index :=
          match row.txSignature with
          | some old => s.txSignatures.del old
          | none => s.txSignatures
        some { s with
          deposits := s.deposits.upd depositId
            { row with status := .confirmed, txSignature := some signature, slot := some slot }
          txSignatures := index.upd signature depositId }

def Store.markFailed (s : Store) (depositId : ℕ) (reason : String) : Store :=
  match s.deposits.get depositId with
  | none => s
  | some row =>
      { s with
        deposits := s.deposits.upd depositId
          { row with status := .failed, failureReason := some reason } }

/-- The check of a deposit against the transaction of a signature. -/
def Solana.verify (sol : Solana) (deposit : Deposit) (signature : Signature) :
    VerificationResult :=
  verifyDeposit sol.toBase58
    ⟨sol.getParsedTransaction signature, sol.programId, sol.pool, deposit.wallet,
      deposit.amountLamports⟩

/-- `confirmDeposit`, from one await to the next. -/
def Confirm.resume (sol : Solana) (r : ℕ) (s : Store) (p : Confirm) (answer : Answer) :
    Store × Option Confirm :=
  let goto point : Option Confirm := some { p with point }
  match p.point, answer with
  | .acquireLock, .throw => (s, none)
  | .acquireLock, _ =>
      match s.locks.get p.depositId with
      | some _ => (s, none)
      | none => ({ s with locks := s.locks.upd p.depositId r }, goto .findDeposit)
  | .release, .throw => (s, none)
  | .release, _ =>
      if s.locks.get p.depositId = some r then
        ({ s with locks := s.locks.del p.depositId }, none)
      else (s, none)
  | _, .throw => (s, goto .release)
  | .findDeposit, _ =>
      match s.deposits.get p.depositId with
      | none => (s, goto .release)
      | some deposit =>
          if deposit.userId ≠ p.userId ∨ deposit.status ≠ .pending then (s, goto .release)
          else (s, goto (.findSignature deposit))
  | .findSignature deposit, _ =>
      -- a signature already recorded against another deposit is a replay
      if (s.txSignatures.get p.signature).any (· ≠ p.depositId) then (s, goto .release)
      else (s, goto (.getTransaction deposit))
  | .getTransaction _, .notVisible => (s, goto .release)
  | .getTransaction deposit, _ =>
      let result := sol.verify deposit p.signature
      if result.ok then (s, goto (.findCustody deposit result))
      else (s, goto (.markFailed (describeFailure result.failure)))
  | .markFailed reason, _ => (s.markFailed p.depositId reason, goto .release)
  | .findCustody deposit result, _ =>
      let ledger := getOrCreateCustodyAccount s.ledger deposit.userId
      match getSystemAccount ledger .external with
      | .error _ => ({ s with ledger }, goto .release)
      | .ok _ => ({ s with ledger }, goto (.postCredit deposit result))
  | .postCredit deposit result, _ =>
      match postEntry s.ledger
        (depositEntry p.depositId deposit.userId result.observedLamports) with
      | .ok ledger =>
          ({ s with ledger, creditedFrom := s.creditedFrom.upd p.depositId p.signature },
            goto (.markConfirmed deposit result))
      -- already posted: the ledger is correct, the row just needs marking
      | .error .alreadyPosted => (s, goto (.markConfirmed deposit result))
      | .error _ => (s, goto .release)
  | .markConfirmed _ result, _ =>
      match s.markConfirmed p.depositId p.signature result.slot with
      | some s => (s, goto .release)
      | none => (s, goto .release)

def outside (s : Store) : Outside → Option Store
  | .create depositId userId wallet amount =>
      if amount ≥ minDepositLamports ∧ (s.deposits.get depositId).isNone then
        some { s with
          deposits := s.deposits.upd depositId
            ⟨userId, wallet, .pending, amount, none, none, none⟩ }
      else none
  | .expire depositId =>
      match s.deposits.get depositId with
      | none => none
      | some row =>
          if row.status = .pending ∧ row.txSignature = none then
            some { s with
              deposits := s.deposits.upd depositId
                { row with
                  status := .expired
                  failureReason :=
                    some "No transaction was submitted before the intent expired" } }
          else none
  | .lockExpired depositId =>
      match s.locks.get depositId with
      | none => none
      | some _ => some { s with locks := s.locks.del depositId }
  | .account name balance reserved version =>
      some { s with
        ledger := { s.ledger with
          poolAccounts := s.ledger.poolAccounts.upd name ⟨name.kind, balance, reserved, version⟩ } }

/-- The calls of `confirmDeposit`, on any deposits, by any users, with any signatures. -/
def confirms (sol : Solana) : Processes Store Confirm Answer Outside where
  starts p := match p.point with
    | .acquireLock => true
    | _ => false
  resume := Confirm.resume sol
  other := outside

end SnakeArena.Gateway
