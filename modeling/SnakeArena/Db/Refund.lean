import SnakeArena.Books.DoubleEntry
import SnakeArena.Db.Stake

/-!
# Db — cancelling a game (`refund.ts`)

`cancelGameAndRefund` with what it returns and throws, for a call that nobody runs beside; the
call of the books leaves the same database (`cancelGameAndRefund_leaves`).

What is owed is read from the ledger: the entry fees that the game's escrow was credited with in
a player's name (`credited`), of the players that no refund was paid to (`Repaid`).  `Repays` is
what a call that goes through does, and `cancelTransaction_ok` says when one does.
-/

namespace SnakeArena.Db
open SnakeArena.Library SnakeArena.Books Database

/-! ### The call -/

structure CancelGameParams where
  gameId : ℕ
  /-- Recorded on the game. -/
  reason : String
  /-- What the audit callback throws, if it does.  Its own row is in another table. -/
  audit : Option String

structure CancelGameResult where
  gameId : ℕ
  /-- False when the game was already cancelled. -/
  cancelled : Bool
  /-- Refunds posted by this call. -/
  refunds : List (ℕ × ℤ)
  totalLamports : ℤ
  /-- Players an earlier attempt had already repaid. -/
  alreadyRefundedCount : ℕ
deriving DecidableEq

/-- The player's custody account, created if absent. -/
def getCustodyAccount (db : Database) (userId : ℕ) :
    Except DbError ((PoolAccount × Bool) × Database) :=
  match db.poolAccounts.get (.custody userId) with
  | some existing => .ok ((existing, false), db)
  | none => do
      let db ← write (.createAccount (.custody userId)) db
      .ok ((⟨.userCustody, 0, 0, 0⟩, true), db)

/-- The loop over what is owed, with the refunds made so far and the escrow's balance. -/
def refundLoop (gameId : ℕ) (randomUUID : ℕ → ℕ) :
    List (ℕ × ℤ) → ℕ → ℤ → Database → Except DbError (ℤ × Database)
  | [], _, escrowBalance, db => .ok (escrowBalance, db)
  | (userId, lamports) :: owed, refunds, escrowBalance, db => do
      let ((custody, created), db) ← getCustodyAccount db userId
      let x : Payment := ⟨userId, lamports, custody, created, randomUUID refunds⟩
      let db ← write x.update db
      let db ← write (.createTransactions (x.refundLegs gameId (escrowBalance - lamports))) db
      refundLoop gameId randomUUID owed (refunds + 1) (escrowBalance - lamports) db

/-- A posted payout or rake of the game. -/
def paidOut (db : Database) (gameId : ℕ) : Bool :=
  db.transactions.any fun p =>
    decide (p.row.gameId = some gameId) && decide (p.row.type = .payout ∨ p.row.type = .rake)

/-- The players that a refund left the game's escrow for. -/
def alreadyRefunded (db : Database) (gameId : ℕ) : List (Option ℕ) :=
  ((db.transactions.filter fun p =>
    p.row.gameId = some gameId ∧ p.row.poolAccountId = .escrow gameId ∧ p.row.type = .refund ∧
      p.row.direction = .debit).map (·.row.userId)).eraseDups

def runAudit (params : CancelGameParams) : Except DbError Unit :=
  match params.audit with
  | none => .ok ()
  | some message => .error (.callback message)

def refundTotal (refunds : List (ℕ × ℤ)) : ℤ := (refunds.map (·.2)).sum

def cancelTransaction (params : CancelGameParams) (randomUUID : ℕ → ℕ) (db : Database) :
    Except DbError (CancelGameResult × Database) :=
  let gameId := params.gameId
  match db.games.get gameId with
  | none => .error (.gameNotFound gameId)
  | some game =>
      let cancelled := decide (game.status ≠ .cancelled)
      if game.status = .completed then .error (.gameAlreadySettled gameId)
      else
        match db.poolAccounts.get (.escrow gameId) with
        -- a free tier has no escrow
        | none => do
            let db ← write (.cancelGame gameId params.reason) db
            runAudit params
            .ok (⟨gameId, cancelled, [], 0, 0⟩, db)
        | some escrow =>
            if paidOut db gameId then .error (.gameAlreadySettled gameId)
            else
              let owed := db.owed gameId
              let total := refundTotal owed
              if total > escrow.balanceLamports then
                .error (.refundShortfall gameId total escrow.balanceLamports)
              else do
                let count := (alreadyRefunded db gameId).length
                let (escrowBalance, db) ←
                  refundLoop gameId randomUUID owed 0 escrow.balanceLamports db
                let db ←
                  if owed.isEmpty then .ok db
                  else write (updateEscrow gameId escrow escrowBalance) db
                let db ← write (.cancelGame gameId params.reason) db
                runAudit params
                .ok (⟨gameId, cancelled, owed, total, count⟩, db)

/-- Cancels a game and returns every entry fee it consumed. -/
def cancelGameAndRefund (params : CancelGameParams) (randomUUID : ℕ → ℕ) (db : Database) :
    Except DbError CancelGameResult × Database :=
  transaction (cancelTransaction params randomUUID) db

/-! ### The call of the books -/

theorem paymentsTotal_snoc (payments : List Payment) (x : Payment) :
    paymentsTotal (payments ++ [x]) = paymentsTotal payments + x.lamports := by
  simp [paymentsTotal]

/-- What follows the loop, when the audit does not throw. -/
def refundEnd (gameId : ℕ) (reason : String) (escrow : PoolAccount) (none : Bool)
    (escrowBalance : ℤ) (db : Database) : Except DbError Database := do
  let db ← if none then .ok db else write (updateEscrow gameId escrow escrowBalance) db
  write (.cancelGame gameId reason) db

theorem refundPayments_leaves {gameId : ℕ} {reason : String} {randomUUID : ℕ → ℕ}
    {escrow : PoolAccount} {s : Database} {owed : List (ℕ × ℤ)} :
    ∀ {payments : List Payment} {view : Database},
    leaves (uuids randomUUID) (refundPayments gameId reason escrow payments owed) s view
      payments.length =
    match (refundLoop gameId randomUUID owed payments.length
      (escrow.balanceLamports - paymentsTotal payments) view).bind fun x =>
        refundEnd gameId reason escrow (payments.isEmpty && owed.isEmpty) x.1 x.2 with
    | .ok db => db
    | .error _ => s := by
  induction owed with
  | nil =>
      intro payments view
      simp only [refundPayments, refundLoop, Except.bind, refundEnd, List.isEmpty_nil,
        Bool.and_true]
      have hfinish : ∀ view, leaves (uuids randomUUID) (.run (.cancelGame gameId reason) <|
          .commit (.refund gameId reason payments escrow) .done) s view payments.length
          = match write (.cancelGame gameId reason) view with
            | .ok db => db
            | .error _ => s := by
        intro view
        rw [leaves_run, write]
        cases Database.exec (.cancelGame gameId reason) view <;> rfl
      cases payments.isEmpty with
      | true => exact hfinish view
      | false =>
          simp only [Bool.false_eq_true, ↓reduceIte]
          rw [leaves_run]
          cases hu : Database.exec (updateEscrow gameId escrow
            (escrow.balanceLamports - paymentsTotal payments)) view with
          | error e => simp only [write_eq_error.mpr hu, bind, Except.bind]
          | ok view' =>
              simp only [write_eq_ok.mpr hu, bind, Except.bind]
              exact hfinish view'
  | cons leg owed ih =>
      intro payments view
      obtain ⟨userId, lamports⟩ := leg
      let balance := escrow.balanceLamports - paymentsTotal payments
      -- the payment, once the account is there
      have hpay : ∀ (custody : PoolAccount) (created : Bool) (view : Database),
          leaves (uuids randomUUID) (uuid fun entryGroupId =>
            let x : Payment := ⟨userId, lamports, custody, created, entryGroupId⟩
            .run x.update <|
            .run (.createTransactions (x.refundLegs gameId (balance - lamports))) <|
              refundPayments gameId reason escrow (payments ++ [x]) owed) s view payments.length =
          match (do
              let x : Payment := ⟨userId, lamports, custody, created, randomUUID payments.length⟩
              let db ← write x.update view
              let db ← write (.createTransactions (x.refundLegs gameId (balance - lamports))) db
              refundLoop gameId randomUUID owed (payments.length + 1) (balance - lamports) db).bind
                fun x => refundEnd gameId reason escrow false x.1 x.2 with
            | .ok db => db
            | .error _ => s := by
        intro custody created view
        let x : Payment := ⟨userId, lamports, custody, created, randomUUID payments.length⟩
        rw [leaves_uuid, leaves_run]
        cases hu : Database.exec x.update view with
        | error e => simp only [write_eq_error.mpr hu, bind, Except.bind, x]
        | ok view₁ =>
            dsimp only
            rw [leaves_run]
            cases hc : Database.exec
              (.createTransactions (x.refundLegs gameId (balance - lamports)))
              view₁ with
            | error e =>
                simp only [write_eq_ok.mpr hu, write_eq_error.mpr hc, bind, Except.bind, x]
            | ok view₂ =>
                have hnext := @ih (payments ++ [x]) view₂
                have hsome : (payments ++ [x]).isEmpty = false := by simp
                simp only [paymentsTotal_snoc, List.length_append, List.length_cons,
                  List.length_nil, zero_add, ← sub_sub, hsome, Bool.false_and] at hnext
                refine hnext.trans ?_
                simp only [write_eq_ok.mpr hu, write_eq_ok.mpr hc, bind, Except.bind, x, balance]
      rw [refundPayments, refundLoop, getCustodyAccount, leaves_findAccount]
      cases hget : view.poolAccounts.get (.custody userId) with
      | some custody =>
          refine (hpay custody false view).trans ?_
          simp only [List.isEmpty_cons, Bool.and_false, bind, Except.bind, balance]
      | none =>
          dsimp only
          rw [leaves_run]
          cases hc : Database.exec (.createAccount (.custody userId)) view with
          | error e => simp only [write_eq_error.mpr hc, bind, Except.bind]
          | ok view₁ =>
              refine (hpay ⟨.userCustody, 0, 0, 0⟩ true view₁).trans ?_
              simp only [write_eq_ok.mpr hc, List.isEmpty_cons, Bool.and_false, bind, Except.bind,
                balance]

/-- The call leaves what the call of the books leaves alone, when its audit does not throw. -/
theorem cancelGameAndRefund_leaves (gameId : ℕ) (reason : String) (randomUUID : ℕ → ℕ)
    (db : Database) :
    leaves (uuids randomUUID) (Books.cancelGameAndRefund gameId reason) db db 0
      = (cancelGameAndRefund ⟨gameId, reason, none⟩ randomUUID db).2 := by
  rw [Books.cancelGameAndRefund, leaves_read, cancelGameAndRefund, transaction, cancelTransaction]
  dsimp only
  cases hgame : db.games.get gameId with
  | none => rfl
  | some game =>
      dsimp only
      by_cases hcompleted : game.status = .completed
      · rw [if_pos hcompleted, if_pos hcompleted]
        rfl
      rw [if_neg hcompleted, if_neg hcompleted, leaves_findAccount]
      cases hescrow : db.poolAccounts.get (.escrow gameId) with
      | none =>
          dsimp only
          rw [leaves_run]
          cases hc : Database.exec (.cancelGame gameId reason) db with
          | error e => simp only [write_eq_error.mpr hc, bind, Except.bind]
          | ok view₁ => simp only [write_eq_ok.mpr hc, bind, Except.bind, runAudit]; rfl
      | some escrow =>
          dsimp only
          rw [leaves_read]
          by_cases hpaid : paidOut db gameId = true
          · simp only [paidOut] at hpaid
            rw [if_pos hpaid, if_pos (by simpa only [paidOut] using hpaid)]
            rfl
          rw [if_neg (by simpa only [paidOut] using hpaid), if_neg hpaid, leaves_read]
          by_cases hshort : refundTotal (db.owed gameId) > escrow.balanceLamports
          · rw [if_pos hshort, if_pos (by exact hshort)]
            rfl
          rw [if_neg hshort, if_neg (by exact hshort)]
          have h := @refundPayments_leaves gameId reason randomUUID escrow db (db.owed gameId) [] db
          refine h.trans ?_
          simp only [paymentsTotal, List.map_nil, List.sum_nil, sub_zero, List.length_nil,
            List.isEmpty_nil, Bool.true_and, refundEnd, bind, Except.bind, runAudit]
          cases refundLoop gameId randomUUID (db.owed gameId) 0 escrow.balanceLamports db with
          | error e => rfl
          | ok x =>
              dsimp only
              split_ifs
              · cases write (.cancelGame gameId reason) x.2 <;> rfl
              · cases write (updateEscrow gameId escrow x.1) x.2 with
                | error e => rfl
                | ok db₁ =>
                    dsimp only
                    cases write (.cancelGame gameId reason) db₁ <;> rfl

/-! ### What is owed -/

/-- An entry fee that the game's escrow was credited with, in the name of a player. -/
def Stakes (gameId userId : ℕ) (p : Posting) : Prop :=
  p.row.gameId = some gameId ∧ p.row.poolAccountId = .escrow gameId ∧ p.row.type = .entryFee ∧
    p.row.direction = .credit ∧ p.row.userId = some userId

/-- A refund to a player that left the game's escrow. -/
def Releases (gameId userId : ℕ) (p : Posting) : Prop :=
  p.row.gameId = some gameId ∧ p.row.poolAccountId = .escrow gameId ∧ p.row.type = .refund ∧
    p.row.direction = .debit ∧ p.row.userId = some userId

/-- A refund that a player's custody was credited with, for the game. -/
def Returns (gameId userId : ℕ) (p : Posting) : Prop :=
  p.row.gameId = some gameId ∧ p.row.poolAccountId = .custody userId ∧ p.row.type = .refund ∧
    p.row.direction = .credit

instance (gameId userId : ℕ) : DecidablePred (Stakes gameId userId) := fun p => by
  unfold Stakes; infer_instance

instance (gameId userId : ℕ) : DecidablePred (Returns gameId userId) := fun p => by
  unfold Returns; infer_instance

def credited (rows : List Posting) (gameId userId : ℕ) : ℤ :=
  ((rows.filter (Stakes gameId userId ·)).map (·.row.amountLamports)).sum

def refunded (rows : List Posting) (gameId userId : ℕ) : ℤ :=
  ((rows.filter (Returns gameId userId ·)).map (·.row.amountLamports)).sum

def Repaid (rows : List Posting) (gameId userId : ℕ) : Prop := ∃ p ∈ rows, Releases gameId userId p

theorem credited_eq_zero {rows : List Posting} {gameId userId : ℕ}
    (h : ∀ p ∈ rows, ¬ Stakes gameId userId p) : credited rows gameId userId = 0 := by
  have hnil : rows.filter (Stakes gameId userId ·) = [] :=
    List.filter_eq_nil_iff.mpr fun p hp => by simpa using h p hp
  rw [credited, hnil]
  rfl

/-- What the game owes a player is what its escrow was credited with, unless it was repaid. -/
theorem mem_owed {db : Database} {gameId userId : ℕ} {lamports : ℤ} :
    (userId, lamports) ∈ db.owed gameId ↔ lamports = credited db.transactions gameId userId ∧
      0 < lamports ∧ ¬ Repaid db.transactions gameId userId := by
  have hamount : (db.transactions.filter fun p => p.row.gameId = some gameId ∧
      p.row.poolAccountId = .escrow gameId ∧ p.row.type = .entryFee ∧
        p.row.direction = .credit).filter (·.row.userId = some userId)
      = db.transactions.filter (Stakes gameId userId ·) := by
    rw [List.filter_filter]
    refine List.filter_congr fun p _ => ?_
    simp only [Stakes, Bool.decide_and]
    grind
  have hrepaid : some userId ∈ (db.transactions.filter fun p => p.row.gameId = some gameId ∧
      p.row.poolAccountId = .escrow gameId ∧ p.row.type = .refund ∧
        p.row.direction = .debit).map (·.row.userId) ↔ Repaid db.transactions gameId userId := by
    simp only [List.mem_map, List.mem_filter, decide_eq_true_eq, Repaid, Releases]
    grind
  -- the amount of a player with no leg would be zero
  have hstaked : 0 < credited db.transactions gameId userId →
      some userId ∈ (db.transactions.filter fun p => p.row.gameId = some gameId ∧
        p.row.poolAccountId = .escrow gameId ∧ p.row.type = .entryFee ∧
          p.row.direction = .credit).map (·.row.userId) := by
    intro hpos
    by_contra hnone
    refine hpos.ne' (credited_eq_zero fun p hp hs => hnone ?_)
    obtain ⟨hgame, haccount, htype, hdirection, huser⟩ := hs
    exact List.mem_map.mpr ⟨p, List.mem_filter.mpr ⟨hp, by simp [*]⟩, huser⟩
  simp only [Database.owed, List.mem_filterMap, List.mem_eraseDups]
  constructor
  · rintro ⟨_ | userId', -, h⟩
    · cases h
    · dsimp only at h
      split at h
      · cases h
      next hn =>
        obtain ⟨rfl, rfl⟩ := Prod.mk.inj (Option.some.inj h)
        rw [hamount, hrepaid] at hn
        rw [hamount]
        exact ⟨rfl, not_le.mp fun hle => hn (.inl hle), fun hr => hn (.inr hr)⟩
  · rintro ⟨rfl, hpos, hunpaid⟩
    refine ⟨some userId, hstaked hpos, ?_⟩
    dsimp only
    rw [hamount]
    refine (if_neg ?_).trans rfl
    rintro (hle | hr)
    · exact absurd hpos (not_lt.mpr hle)
    · exact hunpaid (hrepaid.mp hr)

theorem owed_users (db : Database) (gameId : ℕ) : UniqueKeys Prod.fst (db.owed gameId) := by
  refine UniqueKeys.filterMap (nodup_eraseDups _) (g := some) fun userId x hx => ?_
  rcases userId with _ | userId
  · cases hx
  · dsimp only at hx
    split at hx
    · cases hx
    · obtain rfl := Option.some.inj hx
      rfl

/-! ### What the loop does -/

/-- A player's custody account, or the one that is created. -/
def custodyOf (db : Database) (userId : ℕ) : PoolAccount :=
  (db.poolAccounts.get (.custody userId)).getD ⟨.userCustody, 0, 0, 0⟩

/-- A custody account after a refund. -/
def repaid (lamports : ℤ) (a : PoolAccount) : PoolAccount where
  kind := a.kind
  balanceLamports := a.balanceLamports + lamports
  reservedLamports := a.reservedLamports
  version := a.version + 1

/-- Two legs: the stake leaves the escrow in the player's name, and the player's custody is
credited with it. -/
def RefundPair (gameId : ℕ) (x : ℕ × ℤ) (legs : List Posting) : Prop :=
  ∃ entryGroupId custodyAfter escrowAfter,
    legs = transfer .refund x.2 entryGroupId gameId
      ⟨.refund gameId x.1 true, .escrow gameId, escrowAfter, x.1⟩
      ⟨.refund gameId x.1 false, .custody x.1, custodyAfter, x.1⟩

/-- What the loop did, from `db` to `r`. -/
structure Refunds (gameId : ℕ) (owed : List (ℕ × ℤ)) (escrowBalance : ℤ) (db : Database)
    (r : ℤ × Database) : Prop where
  escrowBalance : r.1 = escrowBalance - refundTotal owed
  paid : ∀ x ∈ owed,
    r.2.poolAccounts.get (.custody x.1) = some (repaid x.2 (custodyOf db x.1))
  others : ∀ name, (∀ x ∈ owed, name ≠ .custody x.1) →
    r.2.poolAccounts.get name = db.poolAccounts.get name
  legs : ∃ pairs, r.2.transactions = db.transactions ++ pairs.flatten ∧
    List.Forall₂ (RefundPair gameId) owed pairs
  rest : r.2.stakeReservations = db.stakeReservations ∧ r.2.withdrawals = db.withdrawals ∧
    r.2.games = db.games

/-- The account is there afterwards, and nothing else has changed. -/
theorem getCustodyAccount_ok (db : Database) (userId : ℕ) : ∃ created db',
    getCustodyAccount db userId = .ok ((custodyOf db userId, created), db') ∧
      db'.poolAccounts.get (.custody userId) = some (custodyOf db userId) ∧
      (∀ name, name ≠ .custody userId → db'.poolAccounts.get name = db.poolAccounts.get name) ∧
      db' = { db with poolAccounts := db'.poolAccounts } := by
  rw [getCustodyAccount, custodyOf]
  cases hget : db.poolAccounts.get (.custody userId) with
  | some a => exact ⟨false, db, rfl, hget, fun _ _ => rfl, rfl⟩
  | none =>
      refine ⟨true, { db with
        poolAccounts := db.poolAccounts.upd (.custody userId) ⟨.userCustody, 0, 0, 0⟩ }, ?_,
        Table.get_upd_same _ _ _, fun name hne => Table.get_upd_other hne, rfl⟩
      have hcreate : write (.createAccount (.custody userId)) db = .ok { db with
          poolAccounts := db.poolAccounts.upd (.custody userId) ⟨.userCustody, 0, 0, 0⟩ } := by
        rw [write_eq_ok]
        simp only [Database.exec, hget]
        rfl
      simp only [hcreate]
      rfl

/-- The loop pays each player that is owed, when none has a refund of the game yet. -/
theorem refundLoop_ok {gameId : ℕ} {randomUUID : ℕ → ℕ} {owed : List (ℕ × ℤ)} :
    ∀ {n : ℕ} {escrowBalance : ℤ} {db : Database}, UniqueKeys Prod.fst owed →
    (∀ x ∈ owed, ∀ escrow, ∀ p ∈ db.transactions,
      p.idempotencyKey ≠ .refund gameId x.1 escrow) →
    ∃ r, refundLoop gameId randomUUID owed n escrowBalance db = .ok r ∧
      Refunds gameId owed escrowBalance db r := by
  induction owed with
  | nil =>
      intro n escrowBalance db _ _
      exact ⟨_, rfl, by simp [refundTotal], nofun, fun _ _ => rfl, ⟨[], by simp, .nil⟩, rfl, rfl,
        rfl⟩
  | cons x owed ih =>
      intro n escrowBalance db hunique hfresh
      obtain ⟨userId, lamports⟩ := x
      have hothers : ∀ y ∈ owed, y.1 ≠ userId := hunique.tail
      obtain ⟨created, db₁, haccount, hget₁, hsame₁, hdb₁⟩ := getCustodyAccount_ok db userId
      let x : Payment := ⟨userId, lamports, custodyOf db userId, created, randomUUID n⟩
      let a' := repaid lamports (custodyOf db userId)
      let db₂ : Database := { db₁ with poolAccounts := db₁.poolAccounts.upd (.custody userId) a' }
      let legs := x.refundLegs gameId (escrowBalance - lamports)
      let db₃ : Database := { db₂ with transactions := db₂.transactions ++ legs }
      have hupdate : write x.update db₁ = .ok db₂ := by
        rw [write_eq_ok, Payment.update]
        simp only [Database.exec, hget₁, x, ↓reduceIte]
        rfl
      have htransactions : db₂.transactions = db.transactions := by
        show db₁.transactions = _
        rw [hdb₁]
      have hcreate : write (.createTransactions legs) db₂ = .ok db₃ := by
        rw [write_eq_ok, createTransactions_eq_ok]
        refine ⟨fun p hp q hq => ?_, rfl⟩
        rw [htransactions] at hq
        have hp : p.idempotencyKey = .refund gameId userId true ∨
            p.idempotencyKey = .refund gameId userId false := by
          simp only [legs, Payment.refundLegs, Payment.legs, transfer, Side.posting, List.mem_cons,
            List.not_mem_nil, or_false] at hp
          rcases hp with rfl | rfl
          · exact .inl rfl
          · exact .inr rfl
        rcases hp with hp | hp
        · exact hp ▸ hfresh _ List.mem_cons_self true q hq
        · exact hp ▸ hfresh _ List.mem_cons_self false q hq
      -- the next player's account, and what it was paid, are as before
      have hget : ∀ name, name ≠ .custody userId →
          db₃.poolAccounts.get name = db.poolAccounts.get name :=
        fun name hne => (Table.get_upd_other hne).trans (hsame₁ name hne)
      have hne : ∀ y ∈ owed, PoolAccountName.custody y.1 ≠ .custody userId :=
        fun y hy e => hothers y hy (PoolAccountName.custody.inj e)
      obtain ⟨r, hr, hrest⟩ := @ih (n + 1) (escrowBalance - lamports) db₃
        (List.nodup_cons.mp hunique).2 (fun y hy escrow p hp => by
          rcases List.mem_append.mp hp with hp | hp
          · exact hfresh y (List.mem_cons_of_mem _ hy) escrow p (htransactions ▸ hp)
          · simp only [legs, Payment.refundLegs, Payment.legs, transfer, Side.posting,
              List.mem_cons, List.not_mem_nil, or_false] at hp
            rcases hp with rfl | rfl
            · exact fun e => hothers y hy (IdempotencyKey.refund.inj e).2.1.symm
            · exact fun e => hothers y hy (IdempotencyKey.refund.inj e).2.1.symm)
      have hcustody : ∀ y ∈ owed, custodyOf db₃ y.1 = custodyOf db y.1 := fun y hy => by
        rw [custodyOf, hget _ (hne y hy), custodyOf]
      refine ⟨r, ?_, ?_, ?_, ?_, ?_, ?_⟩
      · simp only [refundLoop, haccount, bind, Except.bind]
        have hupdate' := hupdate
        have hcreate' := hcreate
        simp only [x, legs] at hupdate' hcreate'
        simp only [hupdate', hcreate', hr]
      · rw [hrest.escrowBalance, refundTotal, refundTotal, List.map_cons, List.sum_cons, sub_sub]
      · intro y hy
        rcases List.mem_cons.mp hy with rfl | hy
        · rw [hrest.others _ fun y hy => (hne y hy).symm]
          exact Table.get_upd_same _ _ _
        · rw [hrest.paid y hy, hcustody y hy]
      · intro name hname
        rw [hrest.others name fun y hy => hname y (List.mem_cons_of_mem _ hy)]
        exact hget name (hname (userId, lamports) List.mem_cons_self)
      · obtain ⟨pairs, hpairs, hlegs⟩ := hrest.legs
        refine ⟨legs :: pairs, ?_, .cons ⟨_, _, _, rfl⟩ hlegs⟩
        rw [hpairs, List.flatten_cons, ← List.append_assoc]
        show db₂.transactions ++ _ ++ _ = _
        rw [htransactions]
      · obtain ⟨hstakes, hwithdrawals, hgames⟩ := hrest.rest
        refine ⟨hstakes.trans ?_, hwithdrawals.trans ?_, hgames.trans ?_⟩
        · show db₁.stakeReservations = _
          rw [hdb₁]
        · show db₁.withdrawals = _
          rw [hdb₁]
        · show db₁.games = _
          rw [hdb₁]

/-! ### What the call does -/

/-- The call goes through. -/
structure Refundable (params : CancelGameParams) (db : Database) : Prop where
  game : ∃ game, db.games.get params.gameId = some game ∧ game.status ≠ .completed
  unpaid : (db.poolAccounts.get (.escrow params.gameId)).isSome = true →
    paidOut db params.gameId = false
  covered : ∀ escrow, db.poolAccounts.get (.escrow params.gameId) = some escrow →
    refundTotal (db.owed params.gameId) ≤ escrow.balanceLamports
  audit : params.audit = none

/-- A call that goes through, from `db` to `db'`. -/
structure Repays (gameId : ℕ) (db : Database) (result : CancelGameResult) (db' : Database) :
    Prop where
  refunds : (db.poolAccounts.get (.escrow gameId)).isSome = true → result.refunds = db.owed gameId
  free : db.poolAccounts.get (.escrow gameId) = none → result.refunds = []
  total : result.totalLamports = refundTotal result.refunds
  escrow : ∀ a, db.poolAccounts.get (.escrow gameId) = some a →
    ∃ a', db'.poolAccounts.get (.escrow gameId) = some a' ∧
      a'.balanceLamports = a.balanceLamports - result.totalLamports ∧
      a'.reservedLamports = a.reservedLamports
  paid : ∀ x ∈ result.refunds,
    db'.poolAccounts.get (.custody x.1) = some (repaid x.2 (custodyOf db x.1))
  others : ∀ name, (name = .escrow gameId → db.poolAccounts.get (.escrow gameId) = none) →
    (∀ x ∈ result.refunds, name ≠ .custody x.1) →
    db'.poolAccounts.get name = db.poolAccounts.get name
  legs : ∃ pairs, db'.transactions = db.transactions ++ pairs.flatten ∧
    List.Forall₂ (RefundPair gameId) result.refunds pairs
  cancelled : ∃ game, db'.games.get gameId = some game ∧ game.status = .cancelled
  rest : db'.stakeReservations = db.stakeReservations ∧ db'.withdrawals = db.withdrawals

theorem write_cancelGame {db : Database} {gameId : ℕ} {game : Game} (reason : String)
    (h : db.games.get gameId = some game) : ∃ games, write (.cancelGame gameId reason) db
      = .ok { db with games } ∧ ∃ game, games.get gameId = some game ∧
        game.status = .cancelled := by
  have hwrite : ∃ game', write (.cancelGame gameId reason) db
      = .ok { db with games := db.games.upd gameId game' } ∧ game'.status = .cancelled := by
    simp only [write_eq_ok, Database.exec, h]
    exact ⟨_, rfl, rfl⟩
  obtain ⟨game', hwrite, hstatus⟩ := hwrite
  exact ⟨_, hwrite, game', Table.get_upd_same _ _ _, hstatus⟩

theorem refundable_of_ok {params : CancelGameParams} {randomUUID : ℕ → ℕ} {db : Database}
    {r : CancelGameResult × Database} (h : cancelTransaction params randomUUID db = .ok r) :
    Refundable params db := by
  have haudit : ∀ {u}, runAudit params = .ok u → params.audit = none := by
    intro u hu
    unfold runAudit at hu
    split at hu
    · assumption
    · cases hu
  unfold cancelTransaction at h
  dsimp only at h
  split at h
  · cases h
  next game hgame =>
  split at h
  · cases h
  next hcompleted =>
  split at h
  · next hnone =>
      simp only [bind_eq_ok] at h
      obtain ⟨_, -, _, hu, -⟩ := h
      refine ⟨⟨game, hgame, hcompleted⟩, fun hsome => ?_, fun escrow hsome => ?_, haudit hu⟩
      · rw [hnone] at hsome
        cases hsome
      · cases hnone.symm.trans hsome
  · next escrow hescrow =>
      split at h
      · cases h
      next hunpaid =>
      split at h
      · cases h
      next hcovered =>
      have hu : ∃ u, runAudit params = .ok u := by
        obtain ⟨_, -, h⟩ := bind_eq_ok.mp h
        split_ifs at h
        · obtain ⟨_, -, h⟩ := bind_eq_ok.mp h
          obtain ⟨_, -, h⟩ := bind_eq_ok.mp h
          obtain ⟨u, hu, -⟩ := bind_eq_ok.mp h
          exact ⟨u, hu⟩
        · obtain ⟨_, -, h⟩ := bind_eq_ok.mp h
          obtain ⟨_, -, h⟩ := bind_eq_ok.mp h
          obtain ⟨u, hu, -⟩ := bind_eq_ok.mp h
          exact ⟨u, hu⟩
      refine ⟨⟨game, hgame, hcompleted⟩, fun _ => by simpa using hunpaid, fun a ha => ?_,
        haudit hu.choose_spec⟩
      obtain rfl := Option.some.inj (hescrow.symm.trans ha)
      exact not_lt.mp hcovered

theorem cancelTransaction_ok {params : CancelGameParams} {db : Database}
    (h : Refundable params db) (randomUUID : ℕ → ℕ)
    (hfresh : ∀ x ∈ db.owed params.gameId, ∀ escrow, ∀ p ∈ db.transactions,
      p.idempotencyKey ≠ .refund params.gameId x.1 escrow) :
    ∃ result db', cancelTransaction params randomUUID db = .ok (result, db') ∧
      Repays params.gameId db result db' := by
  obtain ⟨game, hgame, hcompleted⟩ := h.game
  have haudit : runAudit params = .ok () := by rw [runAudit, h.audit]
  unfold cancelTransaction
  dsimp only
  rw [hgame]
  dsimp only
  rw [if_neg hcompleted]
  cases hescrow : db.poolAccounts.get (.escrow params.gameId) with
  | none =>
      obtain ⟨games, hcancel, hcancelled⟩ := write_cancelGame params.reason hgame
      refine ⟨⟨params.gameId, decide (game.status ≠ .cancelled), [], 0, 0⟩, { db with games }, ?_,
        fun hsome => ?_, fun _ => rfl, rfl, fun a ha => ?_, List.forall_mem_nil _,
        fun _ _ _ => rfl, ⟨[], by simp, .nil⟩, hcancelled, rfl, rfl⟩
      · simp only [hcancel, haudit, bind, Except.bind]
      · rw [hescrow] at hsome
        cases hsome
      · cases hescrow.symm.trans ha
  | some escrow =>
      have hunpaid := h.unpaid (by rw [hescrow]; rfl)
      have hcovered := h.covered escrow hescrow
      dsimp only
      rw [if_neg (by simp [hunpaid]), if_neg (not_lt.mpr hcovered)]
      obtain ⟨⟨escrowBalance, db₁⟩, hloop, hrefunds⟩ := @refundLoop_ok params.gameId randomUUID
        (db.owed params.gameId) 0 escrow.balanceLamports db (owed_users db _) hfresh
      have hkept : db₁.poolAccounts.get (.escrow params.gameId) = some escrow :=
        (hrefunds.others (.escrow params.gameId) (by rintro _ _ ⟨⟩)).trans hescrow
      have hbalance : escrowBalance
          = escrow.balanceLamports - refundTotal (db.owed params.gameId) := hrefunds.escrowBalance
      -- the escrow is written when something was owed
      have hupdate : ∃ accounts a', (if (db.owed params.gameId).isEmpty = true then .ok db₁
            else write (updateEscrow params.gameId escrow escrowBalance) db₁)
            = .ok { db₁ with poolAccounts := accounts } ∧
          accounts.get (.escrow params.gameId) = some a' ∧ a'.balanceLamports = escrowBalance ∧
          a'.reservedLamports = escrow.reservedLamports ∧
          ∀ name, name ≠ .escrow params.gameId →
            accounts.get name = db₁.poolAccounts.get name := by
        by_cases hempty : (db.owed params.gameId).isEmpty = true
        · refine ⟨db₁.poolAccounts, escrow, if_pos hempty, hkept, ?_, rfl, fun _ _ => rfl⟩
          rw [hbalance, List.isEmpty_iff.mp hempty]
          simp [refundTotal]
        · let a' : PoolAccount := (AccountData.mk (some escrowBalance) none).write escrow
          refine ⟨db₁.poolAccounts.upd (.escrow params.gameId) a', a',
            (if_neg hempty).trans (write_eq_ok.mpr ?_), Table.get_upd_same _ _ _, rfl, rfl,
            fun name hne => Table.get_upd_other hne⟩
          simp only [Database.exec, updateEscrow, hkept, ↓reduceIte, a']
      obtain ⟨accounts, a', hupdate, ha', hbalance', hreserved, hsame⟩ := hupdate
      obtain ⟨game₁, hgame₁⟩ : ∃ game, db₁.games.get params.gameId = some game :=
        ⟨game, by rw [hrefunds.rest.2.2, hgame]⟩
      obtain ⟨games, hcancel, hcancelled⟩ :=
        @write_cancelGame { db₁ with poolAccounts := accounts } _ _ params.reason hgame₁
      refine ⟨⟨params.gameId, decide (game.status ≠ .cancelled), db.owed params.gameId,
        refundTotal (db.owed params.gameId), (alreadyRefunded db params.gameId).length⟩,
        { db₁ with poolAccounts := accounts, games := games }, ?_, fun _ => rfl, fun hnone => ?_,
        rfl, fun a ha => ?_, fun x hx => ?_, fun name hname hrefunds' => ?_, hrefunds.legs,
        hcancelled, hrefunds.rest.1, hrefunds.rest.2.1⟩
      · rw [bind_eq_ok]
        refine ⟨_, hloop, ?_⟩
        dsimp only
        split_ifs at hupdate ⊢
        · rw [bind_eq_ok]
          refine ⟨_, hupdate, ?_⟩
          simp only [hcancel, haudit, bind, Except.bind]
        · rw [bind_eq_ok]
          refine ⟨_, hupdate, ?_⟩
          simp only [hcancel, haudit, bind, Except.bind]
      · cases hescrow.symm.trans hnone
      · obtain rfl := Option.some.inj (hescrow.symm.trans ha)
        exact ⟨a', ha', hbalance'.trans hbalance, hreserved⟩
      · exact (hsame (.custody x.1) (by rintro ⟨⟩)).trans (hrefunds.paid x hx)
      · refine (hsame name fun e => ?_).trans (hrefunds.others name hrefunds')
        cases hescrow.symm.trans (hname e)

end SnakeArena.Db
