import SnakeArena.Books.Commit

/-!
# Books — the calls

Every call of the three services that moves money in the database, statement by statement:
`services/ledger.ts`, `services/withdrawal.service.ts` and the adjustment of
`routes/admin/players.routes.ts` of the gateway, `stake.ts` and `refund.ts` of the database
package, and the ledger of `settlement/settle.ts` of the worker.

A throw that nobody catches ends the call.  The lock of a withdrawal is a lease that can run
out while its call runs, so that what it answers is left open.
-/

namespace SnakeArena.Books
open SnakeArena.Library SnakeArena.Db SnakeArena.Gateway

/-! ### The ledger -/

/-- Looks up the account, and creates it if it is not there; whoever loses the race to create it
reads the row that won. -/
def getOrCreateAccount (name : PoolAccountName) (k : PoolAccount → Prog) : Prog :=
  let findOrThrow : Prog := findAccount name fun
    | none => .done
    | some account => k account
  findAccount name fun
    | some account => k account
    | none =>
        .execute (.createAccount name) fun
          | some _ => findOrThrow
          | none => .commit (.createAccount name) findOrThrow

/-- The loop over the legs, with those posted so far. -/
def postLegs (params : PostEntryParams) (entryGroupId : ℕ) (k alreadyPosted : Prog) :
    List EntryLeg → List LedgerLeg → Prog
  | posted, [] => .commit (.entry params entryGroupId posted) k
  | posted, leg :: legs =>
      findAccount leg.poolAccountId fun
        | none => .done
        | some account =>
            let x : EntryLeg := ⟨leg, account⟩
            if x.nextBalance < 0 ∧ mayGoNegative account.kind = false then .done
            else
              .run x.update <|
                .execute (.createTransactions [x.posting params entryGroupId posted.length]) fun
                  | none => postLegs params entryGroupId k alreadyPosted (posted ++ [x]) legs
                  | some .unique => alreadyPosted
                  | some .notFound => .done

def postEntry (params : PostEntryParams) (entryGroupId : ℕ) (k alreadyPosted : Prog) : Prog :=
  match assertBalanced params.legs with
  | .error _ => .done
  | .ok _ => postLegs params entryGroupId k alreadyPosted [] params.legs

def spendable (a : PoolAccount) : ℤ :=
  let value := a.balanceLamports - a.reservedLamports
  if value > 0 then value else 0

/-! ### Stakes -/

def reserveEntryFee (userId : ℕ) (tierId : String) (lamports : ℤ) : Prog :=
  if lamports < 0 then .done
  else if lamports = 0 then getOrCreateAccount (.custody userId) fun _ => .done
  else if hpos : 0 < lamports then
    getOrCreateAccount (.custody userId) fun _ =>
      .read fun db =>
        match db.reservation userId tierId with
        | some _ => .done
        | none =>
            findAccount (.custody userId) fun
              | none => .done
              | some account =>
                  if spendable account < lamports then .done
                  else
                    let row : StakeReservation := ⟨userId, tierId, lamports, hpos⟩
                    .run (.updateAccount (.custody userId) account
                        ⟨none, some (account.reservedLamports + lamports)⟩) <|
                      .run (.createReservation row) <| .commit (.reserve row account) .done
  else .done

def releaseEntryFee (userId : ℕ) (tierId : String) : Prog :=
  .read fun db =>
    match db.reservation userId tierId with
    | none => .done
    | some existing =>
        findAccount (.custody userId) fun
          | none =>
              .run (.deleteReservation existing.userId existing.tierId) <|
                .commit (.release existing none) .done
          | some custody =>
              .run (.updateAccount (.custody existing.userId) custody
                  ⟨none, some (released custody.reservedLamports existing.lamports)⟩) <|
                .run (.deleteReservation existing.userId existing.tierId) <|
                  .commit (.release existing (some custody)) .done

/-- The loop over the reservations, with the stakes taken so far. -/
def consumeStakes (tierId : String) (gameId : ℕ) (escrow : PoolAccount) :
    List Stake → List StakeReservation → Prog
  | stakes, [] =>
      .run (updateEscrow gameId escrow (escrow.balanceLamports + stakesTotal stakes)) <|
        .run (.deleteReservations tierId) <| .commit (.consume tierId gameId stakes escrow) .done
  | stakes, row :: rows =>
      findAccount (.custody row.userId) fun
        | none => consumeStakes tierId gameId escrow stakes rows
        | some custody =>
            if custody.balanceLamports < row.lamports then .done
            else
              uuid fun entryGroupId =>
                let x : Stake := ⟨row, custody, entryGroupId⟩
                let escrowBalance := escrow.balanceLamports + stakesTotal stakes + row.lamports
                .run x.update <|
                  .run (.createTransactions (x.legs gameId escrowBalance)) <|
                    consumeStakes tierId gameId escrow (stakes ++ [x]) rows

def consumeReservations (tierId : String) (gameId : ℕ) (expectedLamports : Option ℤ) : Prog :=
  .read fun db =>
    let rows := db.stakeReservations.filter (·.tierId = tierId)
    let staked := (rows.map (·.lamports)).sum
    if expectedLamports.any (staked ≠ ·) then .done
    else if rows = [] then .done
    else
      findAccount (.escrow gameId) fun
        | none => .done
        | some escrow => consumeStakes tierId gameId escrow [] rows

/-! ### Refunds -/

/-- What the game's escrow took from each player, who has not been repaid. -/
def Database.owed (db : Database) (gameId : ℕ) : List (ℕ × ℤ) :=
  let ofGame (type : TransactionType) (direction : TransactionDirection) :=
    db.transactions.filter fun p =>
      p.row.gameId = some gameId ∧ p.row.poolAccountId = .escrow gameId ∧ p.row.type = type ∧
        p.row.direction = direction
  let staked := ofGame .entryFee .credit
  let alreadyRefunded := (ofGame .refund .debit).map (·.row.userId)
  (staked.map (·.row.userId)).eraseDups.filterMap fun
    | none => none
    | some userId =>
        let amount := ((staked.filter (·.row.userId = some userId)).map (·.row.amountLamports)).sum
        if amount ≤ 0 ∨ some userId ∈ alreadyRefunded then none else some (userId, amount)

/-- The loop over what is owed, with the refunds made so far. -/
def refundPayments (gameId : ℕ) (reason : String) (escrow : PoolAccount) :
    List Payment → List (ℕ × ℤ) → Prog
  | payments, [] =>
      let finish : Prog :=
        .run (.cancelGame gameId reason) <| .commit (.refund gameId reason payments escrow) .done
      if payments.isEmpty then finish
      else
        .run (updateEscrow gameId escrow (escrow.balanceLamports - paymentsTotal payments)) finish
  | payments, (userId, lamports) :: owed =>
      let pay (custody : PoolAccount) (created : Bool) : Prog :=
        uuid fun entryGroupId =>
          let x : Payment := ⟨userId, lamports, custody, created, entryGroupId⟩
          let escrowBalance := escrow.balanceLamports - paymentsTotal payments - lamports
          .run x.update <|
            .run (.createTransactions (x.refundLegs gameId escrowBalance)) <|
              refundPayments gameId reason escrow (payments ++ [x]) owed
      findAccount (.custody userId) fun
        | some custody => pay custody false
        | none => .run (.createAccount (.custody userId)) <| pay ⟨.userCustody, 0, 0, 0⟩ true

def cancelGameAndRefund (gameId : ℕ) (reason : String) : Prog :=
  .read fun db =>
    match db.games.get gameId with
    | none => .done
    | some game =>
        if game.status = .completed then .done
        else
          findAccount (.escrow gameId) fun
            | none =>
                .run (.cancelGame gameId reason) <| .commit (.cancel gameId reason) .done
            | some escrow =>
                .read fun db =>
                  if db.transactions.any fun p =>
                      decide (p.row.gameId = some gameId) &&
                        decide (p.row.type = .payout ∨ p.row.type = .rake) then .done
                  else
                    .read fun db =>
                      let owed := db.owed gameId
                      if (owed.map (·.2)).sum > escrow.balanceLamports then .done
                      else refundPayments gameId reason escrow [] owed

/-! ### Settlement -/

/-- The platform fee, and the end of the transaction. -/
def settleRake (gameId : ℕ) (rake : ℤ) (escrow : PoolAccount) (payments : List Payment) : Prog :=
  let escrowBalance := escrow.balanceLamports - paymentsTotal payments
  let finish (rake : Option Rake) : Prog :=
    .run (updateEscrow gameId escrow (escrowBalance - rakeTotal rake)) <|
      .commit (.settle gameId payments rake escrow) .done
  if rake > 0 then
    findAccount .rake fun
      | none => finish none
      | some account =>
          uuid fun entryGroupId =>
            let x : Rake := ⟨rake, account, entryGroupId⟩
            .run x.update <|
              .run (.createTransactions (x.legs gameId (escrowBalance - rake))) <| finish (some x)
  else finish none

/-- The loop over the payouts, with the payments made so far. -/
def settlePayments (gameId : ℕ) (rake : ℤ) (escrow : PoolAccount) :
    List Payment → List (ℕ × ℤ) → Prog
  | payments, [] => settleRake gameId rake escrow payments
  | payments, (playerId, lamports) :: payouts =>
      findAccount (.custody playerId) fun
        | none => settlePayments gameId rake escrow payments payouts
        | some custody =>
            uuid fun entryGroupId =>
              let x : Payment := ⟨playerId, lamports, custody, false, entryGroupId⟩
              let escrowBalance := escrow.balanceLamports - paymentsTotal payments - lamports
              .run x.update <|
                .run (.createTransactions (x.prizeLegs gameId escrowBalance)) <|
                  settlePayments gameId rake escrow (payments ++ [x]) payouts

def postSettlementLedger (gameId : ℕ) (payouts : List (ℕ × ℤ)) (rake : ℤ) : Prog :=
  -- read before the transaction opens
  findAccount (.escrow gameId) fun
    | none => .done
    | some escrow =>
        .read fun db =>
          if db.transactions.any fun p =>
              decide (p.row.gameId = some gameId) && decide (p.row.type = .payout) then .done
          else settlePayments gameId rake escrow [] payouts

/-! ### Adjustments -/

def adjustBalance (userId : ℕ) (delta : ℤ) (key : String) : Prog :=
  if delta = 0 then .done
  else
    getOrCreateAccount (.custody userId) fun _ =>
      findAccount .treasury fun
        | none => .done
        | some _ =>
            .read fun db =>
              if db.transactions.any (·.idempotencyKey = .adjust userId key false) then .done
              else
                uuid fun entryGroupId =>
                  findAccount (.custody userId) fun
                    | none => .done
                    | some custody =>
                        if custody.balanceLamports + delta < 0 then .done
                        else
                          .run (.updateAccount (.custody userId) custody
                              ⟨some (custody.balanceLamports + delta), none⟩) <|
                            findAccount .treasury fun
                              | none => .done
                              | some treasury =>
                                  let x : Adjustment :=
                                    ⟨userId, delta, key, custody, treasury, entryGroupId⟩
                                  .run x.updateTreasury <|
                                    .run (.createTransactions x.legs) <| .commit (.adjust x) .done

/-! ### Withdrawals -/

def minWithdrawalLamports : ℤ := 10000

def reviewThresholdLamports : ℤ := 50000000000

def maxWithdrawalFeeBps : ℕ := 200

def createWithdrawalIntent (userId : ℕ) (amount : ℤ) (withdrawalFeeBps : ℕ) : Prog :=
  if h : amount < minWithdrawalLamports then .done
  else
    .ask fun
      | .wallet true =>
          if withdrawalFeeBps > maxWithdrawalFeeBps then .done
          else
          findAccount (.custody userId) fun
            | none => .done
            | some custody =>
                if spendable custody < amount then .done
                else
                  .run (.updateAccount (.custody userId) custody
                      ⟨none, some (custody.reservedLamports + amount)⟩) <|
                    uuid fun id =>
                      let row : Withdrawal :=
                        { id
                          userId
                          status :=
                            if amount ≥ reviewThresholdLamports then .pendingReview else .approved
                          amountLamports := amount
                          feeLamports := amount * withdrawalFeeBps / 10000
                          txSignature := none
                          failureReason := none
                          pos := lt_of_lt_of_le (by decide) (not_lt.mp h) }
                      .run (.createWithdrawal row) <| .commit (.intent row custody) .done
      | _ => .done

def releaseReservation (withdrawal : Withdrawal) (k : Prog) : Prog :=
  findAccount (.custody withdrawal.userId) fun
    | none => k
    | some custody =>
        .run (.setReserved (.custody withdrawal.userId)
            (released custody.reservedLamports withdrawal.amountLamports)) <|
          .commit (.unreserve withdrawal custody) k

/-- One update of the row, on its own. -/
def updateWithdrawal (withdrawal : Withdrawal) (data : WithdrawalData) (k : Prog) : Prog :=
  .run (.updateWithdrawal withdrawal.id data) <| .commit (.updateWithdrawal withdrawal data) k

def failWithdrawal (withdrawal : Withdrawal) (reason : String) (k : Prog) : Prog :=
  updateWithdrawal withdrawal ⟨.failed, none, some reason⟩ <| releaseReservation withdrawal k

/-- The entry of a withdrawal; a zero fee has no leg. -/
def withdrawalEntry (withdrawal : Withdrawal) : PostEntryParams where
  type := .withdrawal
  legs :=
    [⟨.custody withdrawal.userId, some withdrawal.userId, .debit, withdrawal.amountLamports⟩,
      ⟨.external, none, .credit, withdrawal.amountLamports - withdrawal.feeLamports⟩] ++
    if withdrawal.feeLamports > 0 then [⟨.treasury, none, .credit, withdrawal.feeLamports⟩] else []
  idempotencyKey := .withdrawal withdrawal.id
  gameId := none
  depositId := none
  withdrawalId := some withdrawal.id

def confirmWithdrawal (userId withdrawalId : ℕ) (signature : String) : Prog :=
  .ask fun
    | .locked true =>
        .read fun db =>
          match db.withdrawal withdrawalId with
          | none => .done
          | some withdrawal =>
              if withdrawal.userId ≠ userId then .done
              else if withdrawal.status ≠ .approved ∧ withdrawal.status ≠ .submitted then .done
              else
                .read fun db =>
                  if db.withdrawals.any fun w =>
                      decide (w.txSignature = some signature) && decide (w.id ≠ withdrawalId) then
                    .done
                  else
                    .ask fun
                      | .notVisible =>
                          updateWithdrawal withdrawal ⟨.submitted, some signature, none⟩ .done
                      | .unverified reason => failWithdrawal withdrawal reason .done
                      | .verified =>
                          getOrCreateAccount (.custody userId) fun _ =>
                            findAccount .external fun
                              | none => .done
                              | some _ =>
                                  findAccount .treasury fun
                                    | none => .done
                                    | some _ =>
                                        let confirmed : Prog :=
                                          releaseReservation withdrawal <|
                                            updateWithdrawal withdrawal
                                              ⟨.confirmed, some signature, none⟩ .done
                                        uuid fun entryGroupId =>
                                          postEntry (withdrawalEntry withdrawal) entryGroupId
                                            confirmed confirmed
                      | _ => .done
    | _ => .done

/-- The loop over the stale intents. -/
def expireWithdrawals : List Withdrawal → Prog
  | [] => .done
  | withdrawal :: stale =>
      failWithdrawal withdrawal "Intent expired before a transaction was submitted" <|
        expireWithdrawals stale

/-- Which of the intents without a signature are stale is left to the clock. -/
def expireStaleWithdrawals (isStale : ℕ → Bool) : Prog :=
  .read fun db =>
    expireWithdrawals <| db.withdrawals.filter fun w =>
      (w.status = .approved || w.status = .requested) && w.txSignature = none && isStale w.id

/-! ### Requests -/

inductive Request where
  /-- The escrow that `create-game` upserts, or a system account of the seed. -/
  | createAccount (name : PoolAccountName)
  | postEntry (params : PostEntryParams) (entryGroupId : ℕ)
  | reserveEntryFee (userId : ℕ) (tierId : String) (lamports : ℤ)
  | releaseEntryFee (userId : ℕ) (tierId : String)
  | consumeReservations (tierId : String) (gameId : ℕ) (expectedLamports : Option ℤ)
  | cancelGameAndRefund (gameId : ℕ) (reason : String)
  | postSettlementLedger (gameId : ℕ) (payouts : List (ℕ × ℤ)) (rake : ℤ)
  | adjustBalance (userId : ℕ) (delta : ℤ) (key : String)
  | createWithdrawalIntent (userId : ℕ) (amount : ℤ) (withdrawalFeeBps : ℕ)
  | confirmWithdrawal (userId withdrawalId : ℕ) (signature : String)
  | expireStaleWithdrawals (isStale : ℕ → Bool)

def Request.program : Request → Prog
  | .createAccount name => getOrCreateAccount name fun _ => .done
  | .postEntry params entryGroupId => Books.postEntry params entryGroupId .done .done
  | .reserveEntryFee userId tierId lamports => Books.reserveEntryFee userId tierId lamports
  | .releaseEntryFee userId tierId => Books.releaseEntryFee userId tierId
  | .consumeReservations tierId gameId expected => Books.consumeReservations tierId gameId expected
  | .cancelGameAndRefund gameId reason => Books.cancelGameAndRefund gameId reason
  | .postSettlementLedger gameId payouts rake => Books.postSettlementLedger gameId payouts rake
  | .adjustBalance userId delta key => Books.adjustBalance userId delta key
  | .createWithdrawalIntent userId amount feeBps =>
      Books.createWithdrawalIntent userId amount feeBps
  | .confirmWithdrawal userId withdrawalId signature =>
      Books.confirmWithdrawal userId withdrawalId signature
  | .expireStaleWithdrawals isStale => Books.expireStaleWithdrawals isStale

/-- What else happens to the games: they are created, run and settled. -/
inductive Outside where
  | game (gameId : ℕ) (row : Game)

def outside (db : Database) : Outside → Option Database
  | .game gameId row => some { db with games := db.games.upd gameId row }

/-- The three services over their database. -/
def calls : Calls Database Statement WriteError Commit Answer Request Outside where
  exec := Database.exec
  program := Request.program
  outside := outside

abbrev Call := Session Database Statement WriteError Commit Answer Request

/-- No account, no row. -/
def emptyDatabase : System Database Call := ⟨⟨.empty, [], [], [], .empty⟩, .empty⟩

/-- One call, with an answer for each of its steps. -/
def callOnce (request : Request) (steps : ℕ) : List (Act Call Answer Outside) :=
  .start 0 (.call request) :: List.replicate steps (.resume 0 (.uuid 7))

end SnakeArena.Books
