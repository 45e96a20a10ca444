import SnakeArena.Db.Ledger
import Mathlib.Tactic.Common

/-!
# Gateway — the double-entry ledger

`services/ledger.ts`.  `postEntry` is one database transaction.  Each balance write asserts the
version it read, and the row is locked from there to the commit, so what is committed is what
the loop computes on the accounts as they stand; a writer that lost the race fails as a whole.
-/

namespace SnakeArena.Gateway
open SnakeArena.Library SnakeArena.Db

structure LedgerLeg where
  poolAccountId : PoolAccountName
  /-- None for platform-internal accounts. -/
  userId : Option ℕ
  direction : TransactionDirection
  /-- Always positive; `direction` carries the sign. -/
  amount : ℤ

def LedgerLeg.delta (leg : LedgerLeg) : ℤ :=
  if leg.direction = .credit then leg.amount else -leg.amount

structure PostEntryParams where
  type : TransactionType
  legs : List LedgerLeg
  /-- The key of each leg, by its index. -/
  idempotencyKey : ℕ → IdempotencyKey
  gameId : Option ℕ
  depositId : Option ℕ
  withdrawalId : Option ℕ

inductive LedgerError where
  | imbalance (credits debits : ℤ)
  | invalidLeg
  | poolAccountMissing
  | insufficientPoolFunds
  | alreadyPosted
  | systemPoolMissing
deriving DecidableEq

/-- Adds up the two sides of an entry. -/
def sumLegs : ℤ → ℤ → List LedgerLeg → Except LedgerError (ℤ × ℤ)
  | credits, debits, [] => .ok (credits, debits)
  | credits, debits, leg :: legs =>
      if leg.amount ≤ 0 then .error .invalidLeg
      else
        match leg.direction with
        | .credit => sumLegs (credits + leg.amount) debits legs
        | .debit => sumLegs credits (debits + leg.amount) legs

/-- Validates that an entry balances. -/
def assertBalanced (legs : List LedgerLeg) : Except LedgerError (ℤ × ℤ) :=
  if legs.length < 2 then .error (.imbalance 0 0)
  else
    match sumLegs 0 0 legs with
    | .error e => .error e
    | .ok (credits, debits) =>
        if credits ≠ debits then .error (.imbalance credits debits) else .ok (credits, debits)

/-- Accounts permitted to hold a negative balance. -/
def mayGoNegative (kind : PoolAccountKind) : Bool := kind = .external

/-- One leg: the account is moved and the row created, under its unique key. -/
def postLeg (params : PostEntryParams) (l : Ledger) (index : ℕ) (leg : LedgerLeg) :
    Except LedgerError Ledger :=
  match l.poolAccounts.get leg.poolAccountId with
  | none => .error .poolAccountMissing
  | some account =>
      let nextBalance := account.balanceLamports + leg.delta
      if nextBalance < 0 ∧ mayGoNegative account.kind = false then .error .insufficientPoolFunds
      else if (l.transactions.get (params.idempotencyKey index)).isSome then .error .alreadyPosted
      else
        .ok
          { poolAccounts := l.poolAccounts.upd leg.poolAccountId
              { account with balanceLamports := nextBalance, version := account.version + 1 }
            transactions := l.transactions.upd (params.idempotencyKey index)
              { type := params.type
                direction := leg.direction
                amountLamports := leg.amount
                balanceAfterLamports := nextBalance
                poolAccountId := leg.poolAccountId
                userId := leg.userId
                gameId := params.gameId
                depositId := params.depositId
                withdrawalId := params.withdrawalId } }

def postLegs (params : PostEntryParams) (l : Ledger) (index : ℕ) :
    List LedgerLeg → Except LedgerError Ledger
  | [] => .ok l
  | leg :: legs =>
      match postLeg params l index leg with
      | .error e => .error e
      | .ok l => postLegs params l (index + 1) legs

/-- Posts a balanced entry and moves the pool balances, atomically. -/
def postEntry (l : Ledger) (params : PostEntryParams) : Except LedgerError Ledger :=
  match assertBalanced params.legs with
  | .error e => .error e
  | .ok _ => postLegs params l 0 params.legs

/-- The user's custody pool account, created on first use.  A caller that loses the race to
create it reads the row that won. -/
def getOrCreateCustodyAccount (l : Ledger) (userId : ℕ) : Ledger :=
  match l.poolAccounts.get (.custody userId) with
  | some _ => l
  | none => { l with poolAccounts := l.poolAccounts.upd (.custody userId) ⟨.userCustody, 0, 0, 0⟩ }

/-- Looks up a singleton system pool by name. -/
def getSystemAccount (l : Ledger) (name : PoolAccountName) : Except LedgerError Unit :=
  if (l.poolAccounts.get name).isSome then .ok () else .error .systemPoolMissing

/-! ### What a posted entry leaves -/

/-- A leg that posts moves its account, which was there, and creates its row, which was not. -/
theorem postLeg_ok {params : PostEntryParams} {l l' : Ledger} {index : ℕ} {leg : LedgerLeg}
    (h : postLeg params l index leg = .ok l') :
    l.transactions.get (params.idempotencyKey index) = none ∧
      ∃ (a a' : PoolAccount) (tx : Transaction), l.poolAccounts.get leg.poolAccountId = some a ∧
        a'.kind = a.kind ∧ l' = ⟨l.poolAccounts.upd leg.poolAccountId a',
          l.transactions.upd (params.idempotencyKey index) tx⟩ ∧
        tx.type = params.type ∧ tx.direction = leg.direction ∧ tx.amountLamports = leg.amount := by
  unfold postLeg at h
  split at h
  · cases h
  · next a ha =>
      dsimp only at h
      split at h
      · cases h
      · split at h
        · cases h
        · next hkey =>
            cases h
            refine ⟨by simpa using hkey, a, _, _, ha, ?_, rfl, ?_, ?_, ?_⟩ <;> rfl

/-- A leg is refused as already posted only when its row is there. -/
theorem postLeg_alreadyPosted {params : PostEntryParams} {l : Ledger} {index : ℕ}
    {leg : LedgerLeg} (h : postLeg params l index leg = .error .alreadyPosted) :
    l.transactions.get (params.idempotencyKey index) ≠ none := by
  unfold postLeg at h
  split at h
  · cases h
  · dsimp only at h
    split at h
    · cases h
    · split at h
      · next hkey => exact Option.isSome_iff_ne_none.mp hkey
      · cases h

theorem sumLegs_ne_alreadyPosted {legs : List LedgerLeg} : ∀ {credits debits : ℤ},
    sumLegs credits debits legs ≠ .error .alreadyPosted := by
  induction legs with
  | nil => exact nofun
  | cons leg legs ih =>
      intro credits debits h
      unfold sumLegs at h
      split at h
      · cases h
      · split at h
        · exact ih h
        · exact ih h

theorem assertBalanced_ne_alreadyPosted {legs : List LedgerLeg} :
    assertBalanced legs ≠ .error .alreadyPosted := by
  intro h
  unfold assertBalanced at h
  split at h
  · cases h
  · split at h
    · next e he =>
        cases h
        exact sumLegs_ne_alreadyPosted he
    · split at h <;> cases h

/-- An entry of two legs, posted: both rows are new. -/
theorem postEntry_two {l l' : Ledger} {params : PostEntryParams} {leg₀ leg₁ : LedgerLeg}
    (hlegs : params.legs = [leg₀, leg₁]) (h : postEntry l params = .ok l') :
    ∃ l₁, postLeg params l 0 leg₀ = .ok l₁ ∧ postLeg params l₁ 1 leg₁ = .ok l' := by
  unfold postEntry at h
  split at h
  · cases h
  · rw [hlegs] at h
    simp only [postLegs] at h
    split at h
    · cases h
    · next l₁ h₁ =>
        split at h
        · cases h
        · next l₂ h₂ =>
            cases h
            exact ⟨l₁, h₁, h₂⟩

/-- Refused as already posted: one of the rows is there. -/
theorem postEntry_two_alreadyPosted {l : Ledger} {params : PostEntryParams}
    {leg₀ leg₁ : LedgerLeg} (hlegs : params.legs = [leg₀, leg₁])
    (hkeys : params.idempotencyKey 1 ≠ params.idempotencyKey 0)
    (h : postEntry l params = .error .alreadyPosted) :
    l.transactions.get (params.idempotencyKey 0) ≠ none ∨
      l.transactions.get (params.idempotencyKey 1) ≠ none := by
  unfold postEntry at h
  split at h
  · next e he =>
      cases h
      exact absurd he assertBalanced_ne_alreadyPosted
  · rw [hlegs] at h
    simp only [postLegs] at h
    split at h
    · next e h₁ =>
        cases h
        exact .inl (postLeg_alreadyPosted h₁)
    · next l₁ h₁ =>
        split at h
        · next e h₂ =>
            cases h
            obtain ⟨-, _, _, _, -, -, rfl, -⟩ := postLeg_ok h₁
            have := postLeg_alreadyPosted h₂
            rw [Table.get_upd_other hkeys] at this
            exact .inr this
        · cases h

end SnakeArena.Gateway
