import SnakeArena.Library.Table

/-!
# Db — the ledger tables

`pool_accounts` and `transactions`, as far as the services read and write them.

A pool account is kept under its unique name, which also stands for the row's id: the owner of
a custody account and the game of an escrow are part of the name.  A transaction is kept under
its unique idempotency key, and the key is kept as what the source joins with colons.
-/

namespace SnakeArena.Db
open SnakeArena.Library

inductive PoolAccountKind where
  | userCustody | gameEscrow | treasury | rake | rewards | external
deriving DecidableEq

inductive PoolAccountName where
  | custody (userId : ℕ)
  | escrow (gameId : ℕ)
  | treasury
  | rake
  | rewards
  | external
deriving DecidableEq

def PoolAccountName.kind : PoolAccountName → PoolAccountKind
  | custody _ => .userCustody
  | escrow _ => .gameEscrow
  | treasury => .treasury
  | rake => .rake
  | rewards => .rewards
  | external => .external

structure PoolAccount where
  kind : PoolAccountKind
  balanceLamports : ℤ
  reservedLamports : ℤ
  /-- Every balance write bumps it and asserts the prior value. -/
  version : ℕ
deriving DecidableEq

inductive TransactionDirection where
  | debit | credit
deriving DecidableEq

inductive TransactionType where
  | deposit | withdrawal | entryFee | payout | rake | reward | refund | transfer | adjustment
deriving DecidableEq

/-- `${idempotencyKeyBase}:${index}`, and the keys of the game legs. -/
inductive IdempotencyKey where
  | deposit (depositId index : ℕ)
  | withdrawal (withdrawalId index : ℕ)
  | stake (gameId userId : ℕ) (escrow : Bool)
  | refund (gameId userId : ℕ) (escrow : Bool)
  | settle (gameId userId : ℕ) (escrow : Bool)
  | settleRake (gameId : ℕ) (escrow : Bool)
  | adjust (userId : ℕ) (key : String) (treasury : Bool)
deriving DecidableEq

structure Transaction where
  type : TransactionType
  direction : TransactionDirection
  amountLamports : ℤ
  balanceAfterLamports : ℤ
  poolAccountId : PoolAccountName
  userId : Option ℕ
  gameId : Option ℕ
  depositId : Option ℕ
  withdrawalId : Option ℕ
deriving DecidableEq

structure Ledger where
  poolAccounts : Table PoolAccountName PoolAccount
  transactions : Table IdempotencyKey Transaction

end SnakeArena.Db
