import SnakeArena.Db.Game
import SnakeArena.Gateway.Ledger
import SnakeArena.Library.Transactions

/-!
# Books — the database and its statements

The tables that hold or promise money, and the statements that the three services send.  The
rows of `transactions` are kept in the order of their commits.

An account is guarded by its version: `Seen` is what a row read once tells of the row later,
and `Later` that it does for every row.
-/

namespace SnakeArena.Books
open SnakeArena.Library SnakeArena.Db

/-- A row of `transactions`, with its unique key. -/
structure Posting where
  idempotencyKey : IdempotencyKey
  /-- Groups the legs of one transfer. -/
  entryGroupId : ℕ
  row : Transaction
deriving DecidableEq

/-- One for each player and tier; a free room reserves nothing. -/
structure StakeReservation where
  userId : ℕ
  tierId : String
  lamports : ℤ
  pos : 0 < lamports
deriving DecidableEq

inductive WithdrawalStatus where
  | requested | pendingReview | approved | submitted | confirmed | failed | rejected
deriving DecidableEq

/-- Not decided yet: what it reserved is still reserved. -/
def WithdrawalStatus.isOpen : WithdrawalStatus → Bool
  | .requested | .pendingReview | .approved | .submitted => true
  | .confirmed | .failed | .rejected => false

structure Withdrawal where
  id : ℕ
  userId : ℕ
  status : WithdrawalStatus
  /-- The gross amount. -/
  amountLamports : ℤ
  feeLamports : ℤ
  /-- Unique. -/
  txSignature : Option String
  failureReason : Option String
  pos : 0 < amountLamports
deriving DecidableEq

structure Database where
  poolAccounts : Table PoolAccountName PoolAccount
  transactions : List Posting
  stakeReservations : List StakeReservation
  withdrawals : List Withdrawal
  games : Table ℕ Game

/-- The columns an update of an account writes. -/
structure AccountData where
  balanceLamports : Option ℤ
  reservedLamports : Option ℤ
deriving DecidableEq

/-- The columns an update of a withdrawal writes. -/
structure WithdrawalData where
  status : WithdrawalStatus
  txSignature : Option String
  failureReason : Option String
deriving DecidableEq

inductive Statement where
  /-- Where the version is the one of the row read; bumps it. -/
  | updateAccount (name : PoolAccountName) (read : PoolAccount) (data : AccountData)
  /-- With no guard, and no bump. -/
  | setReserved (name : PoolAccountName) (reservedLamports : ℤ)
  | createAccount (name : PoolAccountName)
  | createTransactions (rows : List Posting)
  | createReservation (row : StakeReservation)
  | deleteReservation (userId : ℕ) (tierId : String)
  | deleteReservations (tierId : String)
  | createWithdrawal (row : Withdrawal)
  | updateWithdrawal (id : ℕ) (data : WithdrawalData)
  | cancelGame (gameId : ℕ) (reason : String)
deriving DecidableEq

/-- Prisma's `P2025` and `P2002`. -/
inductive WriteError where
  | notFound | unique
deriving DecidableEq

def AccountData.write (data : AccountData) (a : PoolAccount) : PoolAccount :=
  { a with
    balanceLamports := data.balanceLamports.getD a.balanceLamports
    reservedLamports := data.reservedLamports.getD a.reservedLamports
    version := a.version + 1 }

def WithdrawalData.write (data : WithdrawalData) (w : Withdrawal) : Withdrawal :=
  { w with
    status := data.status
    txSignature := data.txSignature <|> w.txSignature
    failureReason := data.failureReason <|> w.failureReason }

namespace Database

def withdrawal (db : Database) (id : ℕ) : Option Withdrawal := db.withdrawals.find? (·.id = id)

def reservation (db : Database) (userId : ℕ) (tierId : String) : Option StakeReservation :=
  db.stakeReservations.find? fun row => row.userId = userId ∧ row.tierId = tierId

def exec (statement : Statement) (db : Database) : Except WriteError Database :=
  match statement with
  | .updateAccount name read data =>
      match db.poolAccounts.get name with
      | none => .error .notFound
      | some a =>
          if a.version = read.version then
            .ok { db with poolAccounts := db.poolAccounts.upd name (data.write a) }
          else .error .notFound
  | .setReserved name reservedLamports =>
      match db.poolAccounts.get name with
      | none => .error .notFound
      | some a =>
          .ok { db with poolAccounts := db.poolAccounts.upd name { a with reservedLamports } }
  | .createAccount name =>
      match db.poolAccounts.get name with
      | none => .ok { db with poolAccounts := db.poolAccounts.upd name ⟨name.kind, 0, 0, 0⟩ }
      | some _ => .error .unique
  | .createTransactions rows =>
      if rows.any fun p => db.transactions.any (·.idempotencyKey = p.idempotencyKey) then
        .error .unique
      else .ok { db with transactions := db.transactions ++ rows }
  | .createReservation row =>
      if (db.reservation row.userId row.tierId).isSome then .error .unique
      else .ok { db with stakeReservations := db.stakeReservations ++ [row] }
  | .deleteReservation userId tierId =>
      if (db.reservation userId tierId).isNone then .error .notFound
      else
        .ok { db with
          stakeReservations := db.stakeReservations.filter fun row =>
            ¬(row.userId = userId ∧ row.tierId = tierId) }
  | .deleteReservations tierId =>
      .ok { db with stakeReservations := db.stakeReservations.filter (·.tierId ≠ tierId) }
  | .createWithdrawal row =>
      if (db.withdrawal row.id).isSome then .error .unique
      else .ok { db with withdrawals := db.withdrawals ++ [row] }
  | .updateWithdrawal id data =>
      if (db.withdrawal id).isNone then .error .notFound
      else if db.withdrawals.any fun w =>
          w.id ≠ id && data.txSignature.isSome && decide (w.txSignature = data.txSignature) then
        .error .unique
      else
        .ok { db with
          withdrawals := db.withdrawals.map fun w => if w.id = id then data.write w else w }
  | .cancelGame gameId reason =>
      match db.games.get gameId with
      | none => .error .notFound
      | some game =>
          .ok { db with
            games := db.games.upd gameId
              { game with
                status := .cancelled
                settlementStatus := .notRequired
                settlementError := some (reason.take 500).toString } }

/-! ### Accounts and their versions -/

section Accounts
variable {db db' : Database} {b : Statement}

/-- What a statement does to the accounts. -/
def Writes (db db' : Database) : Statement → Prop
  | .updateAccount name read data =>
      ∃ a, db.poolAccounts.get name = some a ∧ a.version = read.version ∧
        db' = { db with poolAccounts := db.poolAccounts.upd name (data.write a) }
  | .setReserved name reservedLamports =>
      ∃ a, db.poolAccounts.get name = some a ∧
        db' = { db with poolAccounts := db.poolAccounts.upd name { a with reservedLamports } }
  | .createAccount name =>
      db.poolAccounts.get name = none ∧
        db' = { db with poolAccounts := db.poolAccounts.upd name ⟨name.kind, 0, 0, 0⟩ }
  | _ => db'.poolAccounts = db.poolAccounts

theorem writes (h : db.exec b = .ok db') : Writes db db' b := by
  cases b with
  | updateAccount name read data =>
      simp only [exec] at h
      split at h
      · cases h
      next a ha =>
          split at h
          case isTrue hversion => exact ⟨a, ha, hversion, (Except.ok.inj h).symm⟩
          case isFalse => cases h
  | setReserved name reservedLamports =>
      simp only [exec] at h
      split at h
      · cases h
      next a ha => exact ⟨a, ha, (Except.ok.inj h).symm⟩
  | createAccount name =>
      simp only [exec] at h
      split at h
      next ha => exact ⟨ha, (Except.ok.inj h).symm⟩
      · cases h
  | createTransactions | createReservation | deleteReservation | createWithdrawal
  | updateWithdrawal =>
      simp only [exec] at h
      split_ifs at h
      obtain rfl := Except.ok.inj h
      rfl
  | deleteReservations =>
      obtain rfl := Except.ok.inj h
      rfl
  | cancelGame =>
      simp only [exec] at h
      split at h
      · cases h
      · obtain rfl := Except.ok.inj h
        rfl

/-- An account was once read: its balance is the one read as long as its version is. -/
def Seen (name : PoolAccountName) (read : PoolAccount) (db : Database) : Prop :=
  ∃ a, db.poolAccounts.get name = some a ∧ a.kind = read.kind ∧ read.version ≤ a.version ∧
    (a.version = read.version → a.balanceLamports = read.balanceLamports)

/-- What the others can do to the accounts. -/
def Later (db db' : Database) : Prop :=
  ∀ name a, db.poolAccounts.get name = some a → Seen name a db'

theorem Later.refl (db : Database) : Later db db :=
  fun _ a ha => ⟨a, ha, rfl, le_rfl, fun _ => rfl⟩

theorem Seen.later {name : PoolAccountName} {read : PoolAccount} (h : Seen name read db)
    (hl : Later db db') : Seen name read db' := by
  obtain ⟨a, ha, hkind, hversion, hbalance⟩ := h
  obtain ⟨a', ha', hkind', hversion', hbalance'⟩ := hl name a ha
  refine ⟨a', ha', hkind'.trans hkind, hversion.trans hversion', fun e => ?_⟩
  rw [hbalance' (by omega), hbalance (by omega)]

theorem Later.trans {db'' : Database} (h : Later db db') (h' : Later db' db'') : Later db db'' :=
  fun name a ha => (h name a ha).later h'

/-- An account written, when what was read of it still tells what it did. -/
theorem Later.upd {name : PoolAccountName} {a' : PoolAccount}
    (ha' : ∀ a, db.poolAccounts.get name = some a → a'.kind = a.kind ∧ a.version ≤ a'.version ∧
      (a'.version = a.version → a'.balanceLamports = a.balanceLamports)) :
    Later db { db with poolAccounts := db.poolAccounts.upd name a' } := by
  intro name' a ha
  by_cases e : name' = name
  · subst e
    exact ⟨a', Table.get_upd_same _ _ _, ha' a ha⟩
  · exact ⟨a, by rwa [Table.get_upd_other e], rfl, le_rfl, fun _ => rfl⟩

theorem Later.of_eq (h : db'.poolAccounts = db.poolAccounts) : Later db db' :=
  fun _ a ha => ⟨a, h ▸ ha, rfl, le_rfl, fun _ => rfl⟩

theorem exec_later (h : db.exec b = .ok db') : Later db db' := by
  have hw := writes h
  cases b with
  | updateAccount name read data =>
      obtain ⟨a, ha, -, rfl⟩ := hw
      refine Later.upd fun a' ha' => ?_
      obtain rfl := Option.some.inj (ha.symm.trans ha')
      exact ⟨rfl, Nat.le_succ _, fun e => absurd e (Nat.succ_ne_self _)⟩
  | setReserved name reservedLamports =>
      obtain ⟨a, ha, rfl⟩ := hw
      refine Later.upd fun a' ha' => ?_
      obtain rfl := Option.some.inj (ha.symm.trans ha')
      exact ⟨rfl, le_rfl, fun _ => rfl⟩
  | createAccount name =>
      obtain ⟨ha, rfl⟩ := hw
      exact Later.upd fun a' ha' => nomatch ha.symm.trans ha'
  | createTransactions | createReservation | deleteReservation | deleteReservations
  | createWithdrawal | updateWithdrawal | cancelGame => exact Later.of_eq hw

/-- Accounts that agree later agree after a write to the same account. -/
theorem Later.upd_both {s s' : Database} (h : Later s s') {name : PoolAccountName}
    {a a' : PoolAccount} (ha' : a'.kind = a.kind ∧ a.version ≤ a'.version ∧
      (a'.version = a.version → a'.balanceLamports = a.balanceLamports)) :
    Later { s with poolAccounts := s.poolAccounts.upd name a }
      { s' with poolAccounts := s'.poolAccounts.upd name a' } := by
  intro name' x hx
  by_cases e : name' = name
  · subst e
    obtain rfl := Option.some.inj ((Table.get_upd_same _ _ _).symm.trans hx)
    exact ⟨a', Table.get_upd_same _ _ _, ha'⟩
  · obtain ⟨x', hx', hrest⟩ := h name' x (by rwa [Table.get_upd_other e] at hx)
    exact ⟨x', by rwa [Table.get_upd_other e], hrest⟩

/-- A statement keeps what is known of the accounts. -/
theorem exec_mono {s s' v v' : Database} (hl : Later s s') (h : s.exec b = .ok v)
    (h' : s'.exec b = .ok v') : Later v v' := by
  have hw := writes h
  have hw' := writes h'
  cases b with
  | updateAccount name read data =>
      obtain ⟨a, ha, hversion, rfl⟩ := hw
      obtain ⟨a', ha', hversion', rfl⟩ := hw'
      obtain ⟨_, hget, hkind, -, hbalance⟩ := hl name a ha
      obtain rfl := Option.some.inj (ha'.symm.trans hget)
      refine hl.upd_both ⟨hkind, ?_, fun _ => ?_⟩
      · simp only [AccountData.write]
        omega
      · simp only [AccountData.write, hbalance (by omega)]
  | setReserved name reservedLamports =>
      obtain ⟨a, ha, rfl⟩ := hw
      obtain ⟨a', ha', rfl⟩ := hw'
      obtain ⟨_, hget, hkind, hversion, hbalance⟩ := hl name a ha
      obtain rfl := Option.some.inj (ha'.symm.trans hget)
      exact hl.upd_both ⟨hkind, hversion, hbalance⟩
  | createAccount name =>
      obtain ⟨ha, rfl⟩ := hw
      obtain ⟨ha', rfl⟩ := hw'
      exact hl.upd_both ⟨rfl, le_rfl, fun _ => rfl⟩
  | createTransactions | createReservation | deleteReservation | deleteReservations
  | createWithdrawal | updateWithdrawal | cancelGame =>
      exact (Later.of_eq hw.symm).trans (hl.trans (Later.of_eq hw'))

/-! ### What a call knows -/

theorem runAll_later {pending : List Statement} : ∀ {db db' : Database},
    runAll exec pending db = .ok db' → Later db db' := by
  induction pending with
  | nil =>
      rintro db db' h
      obtain rfl := Except.ok.inj h
      exact Later.refl db
  | cons b pending ih =>
      rintro db db' h
      simp only [runAll] at h
      split at h
      · cases h
      next v hv => exact (exec_later hv).trans (ih h)

theorem runAll_mono {pending : List Statement} : ∀ {s s' v v' : Database}, Later s s' →
    runAll exec pending s = .ok v → runAll exec pending s' = .ok v' → Later v v' := by
  induction pending with
  | nil =>
      rintro s s' v v' hl h h'
      obtain rfl := Except.ok.inj h
      obtain rfl := Except.ok.inj h'
      exact hl
  | cons b pending ih =>
      rintro s s' v v' hl h h'
      simp only [runAll] at h h'
      split at h
      · cases h
      next u hu =>
          split at h'
          · cases h'
          next u' hu' => exact ih (exec_mono hl hu hu') h h'

/-- The row was read by a call whose statements pending now include those of then. -/
def Read (name : PoolAccountName) (read : PoolAccount) (pending : List Statement)
    (s : Database) : Prop :=
  ∀ s', Later s s' → ∀ view, runAll exec pending s' = .ok view → Seen name read view

section Read
variable {name : PoolAccountName} {read : PoolAccount} {pending : List Statement}
  {s s' view : Database}

theorem Read.of_view (h : runAll exec pending s = .ok view)
    (hget : view.poolAccounts.get name = some read) : Read name read pending s :=
  fun _ hl _ hview => runAll_mono hl h hview name read hget

theorem Read.later (h : Read name read pending s) (hl : Later s s') : Read name read pending s' :=
  fun s₁ h₁ => h s₁ (hl.trans h₁)

theorem Read.append (h : Read name read pending s) (more : List Statement) :
    Read name read (pending ++ more) s := by
  intro s' hl view hview
  obtain ⟨u, hu, hmore⟩ := runAll_append.mp hview
  exact (h s' hl u hu).later (runAll_later hmore)

end Read

end Accounts

/-- An update finds the balance that its call read. -/
def Trust : Statement → Database → Prop
  | .updateAccount name read _, db =>
      ∀ a, db.poolAccounts.get name = some a → a.version = read.version →
        a.kind = read.kind ∧ a.balanceLamports = read.balanceLamports
  | _, _ => True

theorem Seen.trust {name : PoolAccountName} {read : PoolAccount} {db : Database}
    (h : Seen name read db) (data : AccountData) : Trust (.updateAccount name read data) db := by
  intro a ha hversion
  obtain ⟨_, hget, hkind, -, hbalance⟩ := h
  obtain rfl := Option.some.inj (ha.symm.trans hget)
  exact ⟨hkind, hbalance hversion⟩

end Database

end SnakeArena.Books
