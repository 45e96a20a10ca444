import SnakeArena.Books.Database

/-!
# Books — what is committed

A commit is labelled with the rows its call read and the statements they decided
(`Commit.statements`).  The legs of an entry are made here, as each service makes them; their
descriptions are left out.
-/

namespace SnakeArena.Books
open SnakeArena.Library SnakeArena.Db SnakeArena.Gateway

/-- One side of a transfer. -/
structure Side where
  idempotencyKey : IdempotencyKey
  poolAccountId : PoolAccountName
  balanceAfterLamports : ℤ
  userId : Option ℕ

/-- The leg of a game, or of no game. -/
def Side.posting (side : Side) (type : TransactionType) (direction : TransactionDirection)
    (amount : ℤ) (entryGroupId : ℕ) (gameId : Option ℕ) : Posting :=
  ⟨side.idempotencyKey, entryGroupId,
    ⟨type, direction, amount, side.balanceAfterLamports, side.poolAccountId, side.userId, gameId,
      none, none⟩⟩

/-- Two legs summing to zero. -/
def transfer (type : TransactionType) (amount : ℤ) (entryGroupId gameId : ℕ)
    (debit credit : Side) : List Posting :=
  [debit.posting type .debit amount entryGroupId gameId,
    credit.posting type .credit amount entryGroupId gameId]

/-- `reserved > lamports ? reserved - lamports : 0`. -/
def released (reserved lamports : ℤ) : ℤ := if reserved > lamports then reserved - lamports else 0

/-! ### Entries -/

/-- A leg of an entry, and the account read for it. -/
structure EntryLeg where
  leg : LedgerLeg
  account : PoolAccount

def EntryLeg.nextBalance (x : EntryLeg) : ℤ := x.account.balanceLamports + x.leg.delta

def EntryLeg.update (x : EntryLeg) : Statement :=
  .updateAccount x.leg.poolAccountId x.account ⟨some x.nextBalance, none⟩

def EntryLeg.posting (params : PostEntryParams) (entryGroupId index : ℕ) (x : EntryLeg) :
    Posting :=
  ⟨params.idempotencyKey index, entryGroupId,
    { type := params.type
      direction := x.leg.direction
      amountLamports := x.leg.amount
      balanceAfterLamports := x.nextBalance
      poolAccountId := x.leg.poolAccountId
      userId := x.leg.userId
      gameId := params.gameId
      depositId := params.depositId
      withdrawalId := params.withdrawalId }⟩

def entryStatements (params : PostEntryParams) (entryGroupId : ℕ) :
    ℕ → List EntryLeg → List Statement
  | _, [] => []
  | index, x :: xs =>
      [x.update, .createTransactions [x.posting params entryGroupId index]] ++
        entryStatements params entryGroupId (index + 1) xs

/-! ### Stakes -/

/-- A stake taken into the escrow. -/
structure Stake where
  row : StakeReservation
  custody : PoolAccount
  entryGroupId : ℕ

def Stake.custodyAfter (x : Stake) : ℤ := x.custody.balanceLamports - x.row.lamports

def Stake.update (x : Stake) : Statement :=
  .updateAccount (.custody x.row.userId) x.custody
    ⟨some x.custodyAfter, some (released x.custody.reservedLamports x.row.lamports)⟩

def Stake.legs (gameId : ℕ) (escrowBalance : ℤ) (x : Stake) : List Posting :=
  transfer .entryFee x.row.lamports x.entryGroupId gameId
    ⟨.stake gameId x.row.userId false, .custody x.row.userId, x.custodyAfter, x.row.userId⟩
    ⟨.stake gameId x.row.userId true, .escrow gameId, escrowBalance, x.row.userId⟩

/-- The escrow's balance runs along; its row is written at the end. -/
def stakeStatements (gameId : ℕ) : ℤ → List Stake → List Statement
  | _, [] => []
  | escrowBalance, x :: xs =>
      [x.update, .createTransactions (x.legs gameId (escrowBalance + x.row.lamports))] ++
        stakeStatements gameId (escrowBalance + x.row.lamports) xs

def stakesTotal (stakes : List Stake) : ℤ := (stakes.map (·.row.lamports)).sum

/-! ### Payments out of an escrow -/

/-- A refund or a prize: lamports that leave the escrow for a player's custody. -/
structure Payment where
  userId : ℕ
  lamports : ℤ
  custody : PoolAccount
  /-- Whether the custody account was created for it. -/
  created : Bool
  entryGroupId : ℕ

def Payment.custodyAfter (x : Payment) : ℤ := x.custody.balanceLamports + x.lamports

def Payment.update (x : Payment) : Statement :=
  .updateAccount (.custody x.userId) x.custody ⟨some x.custodyAfter, none⟩

def Payment.legs (gameId : ℕ) (type : TransactionType) (key : ℕ → Bool → IdempotencyKey)
    (escrowUser : Option ℕ) (escrowBalance : ℤ) (x : Payment) : List Posting :=
  transfer type x.lamports x.entryGroupId gameId
    ⟨key x.userId true, .escrow gameId, escrowBalance, escrowUser⟩
    ⟨key x.userId false, .custody x.userId, x.custodyAfter, x.userId⟩

/-- The legs of a refund name the player on both sides. -/
def Payment.refundLegs (gameId : ℕ) (escrowBalance : ℤ) (x : Payment) : List Posting :=
  x.legs gameId .refund (.refund gameId) x.userId escrowBalance

def Payment.prizeLegs (gameId : ℕ) (escrowBalance : ℤ) (x : Payment) : List Posting :=
  x.legs gameId .payout (.settle gameId) none escrowBalance

def paymentStatements (legs : ℤ → Payment → List Posting) : ℤ → List Payment → List Statement
  | _, [] => []
  | escrowBalance, x :: xs =>
      (if x.created then [.createAccount (.custody x.userId)] else []) ++
        [x.update, .createTransactions (legs (escrowBalance - x.lamports) x)] ++
        paymentStatements legs (escrowBalance - x.lamports) xs

def paymentsTotal (payments : List Payment) : ℤ := (payments.map (·.lamports)).sum

/-- The platform fee. -/
structure Rake where
  lamports : ℤ
  account : PoolAccount
  entryGroupId : ℕ

def Rake.after (x : Rake) : ℤ := x.account.balanceLamports + x.lamports

def Rake.update (x : Rake) : Statement :=
  .updateAccount .rake x.account ⟨some x.after, none⟩

def Rake.legs (gameId : ℕ) (escrowBalance : ℤ) (x : Rake) : List Posting :=
  transfer .rake x.lamports x.entryGroupId gameId
    ⟨.settleRake gameId true, .escrow gameId, escrowBalance, none⟩
    ⟨.settleRake gameId false, .rake, x.after, none⟩

def rakeStatements (gameId : ℕ) (escrowBalance : ℤ) : Option Rake → List Statement
  | none => []
  | some x => [x.update, .createTransactions (x.legs gameId (escrowBalance - x.lamports))]

def rakeTotal (rake : Option Rake) : ℤ := rake.elim 0 (·.lamports)

def updateEscrow (gameId : ℕ) (escrow : PoolAccount) (escrowBalance : ℤ) : Statement :=
  .updateAccount (.escrow gameId) escrow ⟨some escrowBalance, none⟩

/-! ### Adjustments -/

/-- A correction by an operator, against the treasury. -/
structure Adjustment where
  userId : ℕ
  delta : ℤ
  key : String
  custody : PoolAccount
  treasury : PoolAccount
  entryGroupId : ℕ

namespace Adjustment

def nextBalance (x : Adjustment) : ℤ := x.custody.balanceLamports + x.delta

def treasuryBalance (x : Adjustment) : ℤ := x.treasury.balanceLamports - x.delta

def updateCustody (x : Adjustment) : Statement :=
  .updateAccount (.custody x.userId) x.custody ⟨some x.nextBalance, none⟩

def updateTreasury (x : Adjustment) : Statement :=
  .updateAccount .treasury x.treasury ⟨some x.treasuryBalance, none⟩

def legs (x : Adjustment) : List Posting :=
  let amount := if x.delta > 0 then x.delta else -x.delta
  [Side.posting ⟨.adjust x.userId x.key false, .custody x.userId, x.nextBalance, x.userId⟩
      .adjustment (if x.delta > 0 then .credit else .debit) amount x.entryGroupId none,
    Side.posting ⟨.adjust x.userId x.key true, .treasury, x.treasuryBalance, none⟩
      .adjustment (if x.delta > 0 then .debit else .credit) amount x.entryGroupId none]

end Adjustment

/-! ### Commits -/

inductive Commit where
  | createAccount (name : PoolAccountName)
  | entry (params : PostEntryParams) (entryGroupId : ℕ) (legs : List EntryLeg)
  | reserve (row : StakeReservation) (account : PoolAccount)
  | release (row : StakeReservation) (custody : Option PoolAccount)
  | consume (tierId : String) (gameId : ℕ) (stakes : List Stake) (escrow : PoolAccount)
  /-- Of a game with no escrow, or with one. -/
  | cancel (gameId : ℕ) (reason : String)
  | refund (gameId : ℕ) (reason : String) (payments : List Payment) (escrow : PoolAccount)
  | settle (gameId : ℕ) (payments : List Payment) (rake : Option Rake) (escrow : PoolAccount)
  | adjust (x : Adjustment)
  | intent (row : Withdrawal) (custody : PoolAccount)
  /-- `releaseReservation`, for a withdrawal. -/
  | unreserve (withdrawal : Withdrawal) (custody : PoolAccount)
  | updateWithdrawal (withdrawal : Withdrawal) (data : WithdrawalData)

/-- The statements of a commit, in order. -/
def Commit.statements : Commit → List Statement
  | .createAccount name => [.createAccount name]
  | .entry params entryGroupId legs => entryStatements params entryGroupId 0 legs
  | .reserve row account =>
      [.updateAccount (.custody row.userId) account
          ⟨none, some (account.reservedLamports + row.lamports)⟩,
        .createReservation row]
  | .release row none => [.deleteReservation row.userId row.tierId]
  | .release row (some custody) =>
      [.updateAccount (.custody row.userId) custody
          ⟨none, some (released custody.reservedLamports row.lamports)⟩,
        .deleteReservation row.userId row.tierId]
  | .consume tierId gameId stakes escrow =>
      stakeStatements gameId escrow.balanceLamports stakes ++
        [updateEscrow gameId escrow (escrow.balanceLamports + stakesTotal stakes),
          .deleteReservations tierId]
  | .cancel gameId reason => [.cancelGame gameId reason]
  | .refund gameId reason payments escrow =>
      paymentStatements (Payment.refundLegs gameId) escrow.balanceLamports payments ++
        (if payments.isEmpty then []
          else [updateEscrow gameId escrow (escrow.balanceLamports - paymentsTotal payments)]) ++
        [.cancelGame gameId reason]
  | .settle gameId payments rake escrow =>
      paymentStatements (Payment.prizeLegs gameId) escrow.balanceLamports payments ++
        rakeStatements gameId (escrow.balanceLamports - paymentsTotal payments) rake ++
        [updateEscrow gameId escrow
          (escrow.balanceLamports - paymentsTotal payments - rakeTotal rake)]
  | .adjust x => [x.updateCustody, x.updateTreasury, .createTransactions x.legs]
  | .intent row custody =>
      [.updateAccount (.custody row.userId) custody
          ⟨none, some (custody.reservedLamports + row.amountLamports)⟩,
        .createWithdrawal row]
  | .unreserve withdrawal custody =>
      [.setReserved (.custody withdrawal.userId)
        (released custody.reservedLamports withdrawal.amountLamports)]
  | .updateWithdrawal withdrawal data => [.updateWithdrawal withdrawal.id data]

/-! ### What the lists are made of -/

/-- Statements that move balances and post legs, and reserve nothing. -/
def Statement.money : Statement → Bool
  | .updateAccount _ _ data => data.reservedLamports.isNone
  | .createAccount _ | .createTransactions _ => true
  | _ => false

/-- Statements about neither the accounts nor their legs. -/
def Statement.aside : Statement → Bool
  | .updateAccount .. | .setReserved .. | .createAccount _ | .createTransactions _ => false
  | _ => true

theorem entryStatements_money {params : PostEntryParams} {entryGroupId : ℕ} {legs : List EntryLeg} :
    ∀ {index : ℕ}, ∀ b ∈ entryStatements params entryGroupId index legs, b.money = true := by
  induction legs with
  | nil =>
      intro index b hb
      cases hb
  | cons x xs ih =>
      intro index b hb
      obtain hb | hb := List.mem_append.mp hb
      · simp only [List.mem_cons, List.not_mem_nil, or_false] at hb
        obtain rfl | rfl := hb <;> rfl
      · exact ih b hb

theorem paymentStatements_money {legs : ℤ → Payment → List Posting} {payments : List Payment} :
    ∀ {escrowBalance : ℤ}, ∀ b ∈ paymentStatements legs escrowBalance payments, b.money = true := by
  induction payments with
  | nil =>
      intro escrowBalance b hb
      cases hb
  | cons x xs ih =>
      intro escrowBalance b hb
      simp only [paymentStatements, List.mem_append, List.mem_cons, List.not_mem_nil,
        or_false] at hb
      obtain (hb | rfl | rfl) | hb := hb
      · split at hb
        · obtain rfl := List.mem_singleton.mp hb
          rfl
        · cases hb
      · rfl
      · rfl
      · exact ih b hb

theorem rakeStatements_money {gameId : ℕ} {escrowBalance : ℤ} {rake : Option Rake} :
    ∀ b ∈ rakeStatements gameId escrowBalance rake, b.money = true := by
  intro b hb
  cases rake with
  | none => cases hb
  | some x =>
      simp only [rakeStatements, List.mem_cons, List.not_mem_nil, or_false] at hb
      obtain rfl | rfl := hb <;> rfl

theorem stakeStatements_aside {gameId : ℕ} {stakes : List Stake} :
    ∀ {escrowBalance : ℤ}, ∀ b ∈ stakeStatements gameId escrowBalance stakes, b.aside = false := by
  induction stakes with
  | nil =>
      intro escrowBalance b hb
      cases hb
  | cons x xs ih =>
      intro escrowBalance b hb
      obtain hb | hb := List.mem_append.mp hb
      · simp only [List.mem_cons, List.not_mem_nil, or_false] at hb
        obtain rfl | rfl := hb <;> rfl
      · exact ih b hb

/-- The commits that move money alone: neither reservations nor games. -/
def Commit.money : Commit → Bool
  | .createAccount _ | .entry .. | .settle .. | .adjust _ => true
  | _ => false

theorem Commit.statements_money {t : Commit} (h : t.money = true) :
    ∀ b ∈ t.statements, b.money = true := by
  cases t with
  | createAccount =>
      intro b hb
      obtain rfl := List.mem_singleton.mp hb
      rfl
  | entry => exact entryStatements_money
  | settle gameId payments rake escrow =>
      intro b hb
      simp only [Commit.statements, List.mem_append, List.mem_singleton] at hb
      obtain (hb | hb) | rfl := hb
      · exact paymentStatements_money b hb
      · exact rakeStatements_money b hb
      · rfl
  | adjust x =>
      intro b hb
      simp only [Commit.statements, List.mem_cons, List.not_mem_nil, or_false] at hb
      obtain rfl | rfl | rfl := hb <;> rfl
  | reserve | release | consume | cancel | refund | intent | unreserve | updateWithdrawal => cases h

/-- What a refund does besides cancelling the game. -/
theorem refundStatements_money {gameId : ℕ} {reason : String} {payments : List Payment}
    {escrow : PoolAccount} : ∀ b ∈ (Commit.refund gameId reason payments escrow).statements,
      b.money = true ∨ b = .cancelGame gameId reason := by
  intro b hb
  simp only [Commit.statements, List.mem_append, List.mem_singleton] at hb
  obtain (hb | hb) | rfl := hb
  · exact .inl (paymentStatements_money b hb)
  · split at hb
    · cases hb
    · obtain rfl := List.mem_singleton.mp hb
      exact .inl rfl
  · exact .inr rfl

/-- What an await outside the database answers. -/
inductive Answer where
  | uuid (id : ℕ)
  /-- The wallet is the user's, and verified. -/
  | wallet (verified : Bool)
  | locked (acquired : Bool)
  /-- The node does not see the transaction yet. -/
  | notVisible
  | verified
  | unverified (reason : String)

abbrev Prog := Library.Prog Database Statement WriteError Commit Answer

def uuid (k : ℕ → Prog) : Prog :=
  .ask fun
    | .uuid id => k id
    | _ => .done

/-- Waits for an account. -/
def findAccount (name : PoolAccountName) (k : Option PoolAccount → Prog) : Prog :=
  .read fun db => k (db.poolAccounts.get name)

end SnakeArena.Books
