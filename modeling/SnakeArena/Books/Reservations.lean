import SnakeArena.Books.Walks
import SnakeArena.Library.Rows

/-!
# Books — reservations are accounted

What a custody account reserves is what its player's stakes and open withdrawals reserve
(`Database.reserved`, `staked`, `withdrawing`).  A withdrawal is closed in one commit and its
reservation is given back in another, so that a running call can have done one of the two.

Six operations write the one counter, and `Finds` says what a commit has to find for it to be
right: the reservation that was read, since not every writer bumps the version; the rows that
were read; and no less than what it gives back, or the clamp at zero hides it.
-/

namespace SnakeArena.Books
open SnakeArena.Library SnakeArena.Db SnakeArena.Gateway Database
open SnakeArena.Library.Calls (Trusted)

/-- What the row reserves of a player. -/
def StakeReservation.of (userId : ℕ) (row : StakeReservation) : ℤ :=
  if row.userId = userId then row.lamports else 0

def StakeReservation.key (row : StakeReservation) : ℕ × String := (row.userId, row.tierId)

/-- The gross amount of a player's open withdrawal. -/
def Withdrawal.of (userId : ℕ) (w : Withdrawal) : ℤ :=
  if w.userId = userId ∧ w.status.isOpen = true then w.amountLamports else 0

namespace Database

def reserved (db : Database) (userId : ℕ) : ℤ :=
  (db.poolAccounts.get (.custody userId)).elim 0 (·.reservedLamports)

def staked (db : Database) (userId : ℕ) : ℤ :=
  (db.stakeReservations.map (StakeReservation.of userId)).sum

def withdrawing (db : Database) (userId : ℕ) : ℤ := (db.withdrawals.map (Withdrawal.of userId)).sum

/-- What is reserved for no row. -/
def unaccounted (db : Database) (userId : ℕ) : ℤ :=
  db.reserved userId - db.staked userId - db.withdrawing userId

end Database

/-- The rows are under their keys, and a stake is of a player with a custody account. -/
structure Rows (db : Database) : Prop where
  stakes : UniqueKeys StakeReservation.key db.stakeReservations
  withdrawals : UniqueKeys Withdrawal.id db.withdrawals
  custody : ∀ row ∈ db.stakeReservations, db.poolAccounts.get (.custody row.userId) ≠ none

/-- How far each player's counter and rows moved. -/
structure Moves (db view : Database) (reserved staked withdrawing : ℕ → ℤ) : Prop where
  reserved : ∀ userId, view.reserved userId = db.reserved userId + reserved userId
  staked : ∀ userId, view.staked userId = db.staked userId + staked userId
  withdrawing : ∀ userId, view.withdrawing userId = db.withdrawing userId + withdrawing userId

/-- `n` of one player. -/
def single (userId : ℕ) (n : ℤ) (userId' : ℕ) : ℤ := if userId = userId' then n else 0

/-- What two commits move adds up. -/
theorem Moves.trans {db view view' : Database} {r r' s s' w w' : ℕ → ℤ} (h : Moves db view r s w)
    (h' : Moves view view' r' s' w') : Moves db view' (r + r') (s + s') (w + w') where
  reserved userId := by rw [h'.reserved, h.reserved, add_assoc]; rfl
  staked userId := by rw [h'.staked, h.staked, add_assoc]; rfl
  withdrawing userId := by rw [h'.withdrawing, h.withdrawing, add_assoc]; rfl

/-- What is reserved without a reason moves by the difference. -/
theorem Moves.unaccounted {db view : Database} {r s w : ℕ → ℤ} (h : Moves db view r s w)
    (userId : ℕ) :
    view.unaccounted userId = db.unaccounted userId + r userId - s userId - w userId := by
  rw [Database.unaccounted, h.reserved, h.staked, h.withdrawing, Database.unaccounted]
  omega

/-! ### Statements -/

section Statements
variable {db view : Database} {userId : ℕ}

/-- A reservation is written where it is written. -/
theorem reserved_upd (db : Database) (name : PoolAccountName) (a : PoolAccount) (userId : ℕ) :
    ({ db with poolAccounts := db.poolAccounts.upd name a } : Database).reserved userId =
      if name = .custody userId then a.reservedLamports else db.reserved userId := by
  simp only [Database.reserved, Table.get_upd, eq_comm]
  split <;> rfl

/-- A custody account whose reservation is written. -/
theorem Moves.custody {a : PoolAccount} (ha : db.poolAccounts.get (.custody userId) = some a)
    (a' : PoolAccount) :
    Moves db { db with poolAccounts := db.poolAccounts.upd (.custody userId) a' }
      (single userId (a'.reservedLamports - a.reservedLamports)) 0 0 where
  reserved userId' := by
    rw [reserved_upd]
    simp only [PoolAccountName.custody.injEq, single]
    split
    case isTrue e =>
        subst e
        simp [Database.reserved, ha]
    case isFalse => rw [add_zero]
  staked _ := (add_zero _).symm
  withdrawing _ := (add_zero _).symm

/-- An update of a custody account writes what it reserves. -/
theorem Moves.update {read : PoolAccount} {data : AccountData} {reserved : ℤ}
    (hexec : exec (.updateAccount (.custody userId) read data) db = .ok view)
    (hdata : data.reservedLamports = some reserved) :
    Moves db view (single userId (reserved - db.reserved userId)) 0 0 := by
  obtain ⟨a, ha, -, rfl⟩ := writes hexec
  have h := Moves.custody ha (data.write a)
  simpa [AccountData.write, hdata, Database.reserved, ha] using h

/-- So does the write that no version guards. -/
theorem Moves.setReserved {reserved : ℤ}
    (hexec : exec (.setReserved (.custody userId) reserved) db = .ok view) :
    Moves db view (single userId (reserved - db.reserved userId)) 0 0 := by
  obtain ⟨a, ha, rfl⟩ := writes hexec
  have h := Moves.custody ha { a with reservedLamports := reserved }
  simpa [Database.reserved, ha] using h

/-- The statements that move no reservation. -/
def Statement.idle : Statement → Bool
  | .updateAccount _ _ data => data.reservedLamports.isNone
  | .createAccount _ | .createTransactions _ | .cancelGame _ _ => true
  | _ => false

/-- A statement that neither reserves nor is reserved for. -/
theorem Moves.idle {statement : Statement} (hidle : statement.idle = true)
    (hexec : exec statement db = .ok view) : Moves db view 0 0 0 := by
  have hw := writes hexec
  cases statement with
  | updateAccount name read data =>
      obtain ⟨a, ha, -, rfl⟩ := hw
      refine ⟨fun userId => ?_, fun _ => (add_zero _).symm, fun _ => (add_zero _).symm⟩
      rw [reserved_upd]
      split
      case isTrue e =>
          subst e
          have hdata : data.reservedLamports = none := by simpa [Statement.idle] using hidle
          simp [Database.reserved, ha, AccountData.write, hdata]
      case isFalse => exact (add_zero _).symm
  | createAccount name =>
      obtain ⟨hnone, rfl⟩ := hw
      refine ⟨fun userId => ?_, fun _ => (add_zero _).symm, fun _ => (add_zero _).symm⟩
      rw [reserved_upd]
      split
      case isTrue e =>
          subst e
          simp [Database.reserved, hnone]
      case isFalse => exact (add_zero _).symm
  | createTransactions rows =>
      simp only [exec] at hexec
      split at hexec
      · cases hexec
      · obtain rfl := Except.ok.inj hexec
        exact ⟨fun _ => (add_zero _).symm, fun _ => (add_zero _).symm, fun _ => (add_zero _).symm⟩
  | cancelGame gameId reason =>
      simp only [exec] at hexec
      split at hexec
      · cases hexec
      · obtain rfl := Except.ok.inj hexec
        exact ⟨fun _ => (add_zero _).symm, fun _ => (add_zero _).symm, fun _ => (add_zero _).symm⟩
  | setReserved | createReservation | deleteReservation | deleteReservations | createWithdrawal
  | updateWithdrawal => cases hidle

/-- Any number of them. -/
theorem Moves.idles {statements : List Statement} : ∀ {db view : Database},
    (∀ b ∈ statements, b.idle = true) → runAll exec statements db = .ok view →
      Moves db view 0 0 0 := by
  induction statements with
  | nil =>
      intro db view _ hrun
      obtain rfl := Except.ok.inj hrun
      exact ⟨fun _ => (add_zero _).symm, fun _ => (add_zero _).symm, fun _ => (add_zero _).symm⟩
  | cons b statements ih =>
      intro db view hidle hrun
      obtain ⟨u, hu, hrest⟩ := runAll_cons.mp hrun
      have h := (Moves.idle (hidle b List.mem_cons_self) hu).trans
        (ih (fun b' hb' => hidle b' (List.mem_cons_of_mem _ hb')) hrest)
      simpa using h

/-- A stake is reserved for. -/
theorem Moves.createReservation {row : StakeReservation}
    (hexec : exec (.createReservation row) db = .ok view) :
    Moves db view 0 (single row.userId row.lamports) 0 := by
  simp only [exec] at hexec
  split at hexec
  · cases hexec
  obtain rfl := Except.ok.inj hexec
  refine ⟨fun _ => (add_zero _).symm, fun userId => ?_, fun _ => (add_zero _).symm⟩
  simp [Database.staked, StakeReservation.of, single]

/-- A stake is reserved for no more. -/
theorem Moves.deleteReservation {row : StakeReservation} (hrows : Rows db)
    (hrow : db.reservation row.userId row.tierId = some row)
    (hexec : exec (.deleteReservation row.userId row.tierId) db = .ok view) :
    Moves db view 0 (single row.userId (-row.lamports)) 0 := by
  simp only [exec] at hexec
  split at hexec
  · cases hexec
  obtain rfl := Except.ok.inj hexec
  refine ⟨fun _ => (add_zero _).symm, fun userId => ?_, fun _ => (add_zero _).symm⟩
  have hsum := sum_delete (StakeReservation.of userId) hrows.stakes (List.mem_of_find?_eq_some hrow)
  simp only [StakeReservation.key, ne_eq, Prod.mk.injEq] at hsum
  have hof : StakeReservation.of userId row = single row.userId row.lamports userId := rfl
  rw [hof] at hsum
  have hneg : single row.userId (-row.lamports) userId =
      -single row.userId row.lamports userId := by
    simp only [single]
    split <;> simp
  simp only [Database.staked, hneg]
  omega

/-- The stakes of a tier, all at once. -/
theorem Moves.deleteReservations {tierId : String}
    (hexec : exec (.deleteReservations tierId) db = .ok view) :
    Moves db view 0 (fun userId =>
      -((db.stakeReservations.filter (·.tierId = tierId)).map
        (StakeReservation.of userId)).sum) 0 := by
  obtain rfl := Except.ok.inj hexec
  refine ⟨fun _ => (add_zero _).symm, fun userId => ?_, fun _ => (add_zero _).symm⟩
  have hsum := sum_filter_not (StakeReservation.of userId) (·.tierId = tierId) db.stakeReservations
  simp only [← decide_not] at hsum
  simp only [Database.staked, ne_eq]
  omega

/-- A withdrawal is reserved for while it is open. -/
theorem Moves.createWithdrawal {row : Withdrawal} (hopen : row.status.isOpen = true)
    (hexec : exec (.createWithdrawal row) db = .ok view) :
    Moves db view 0 0 (single row.userId row.amountLamports) := by
  simp only [exec] at hexec
  split at hexec
  · cases hexec
  obtain rfl := Except.ok.inj hexec
  refine ⟨fun _ => (add_zero _).symm, fun _ => (add_zero _).symm, fun userId => ?_⟩
  simp [Database.withdrawing, Withdrawal.of, single, hopen]

/-- An open withdrawal is written: it stays open, or is closed. -/
theorem Moves.updateWithdrawal {row : Withdrawal} {data : WithdrawalData} (hrows : Rows db)
    (hrow : db.withdrawal row.id = some row) (hopen : row.status.isOpen = true)
    (hexec : exec (.updateWithdrawal row.id data) db = .ok view) :
    Moves db view 0 0
      (if data.status.isOpen then 0 else single row.userId (-row.amountLamports)) := by
  simp only [exec] at hexec
  split at hexec
  · cases hexec
  split at hexec
  · cases hexec
  obtain rfl := Except.ok.inj hexec
  refine ⟨fun _ => (add_zero _).symm, fun _ => (add_zero _).symm, fun userId => ?_⟩
  have hsum := sum_modify (Withdrawal.of userId) data.write hrows.withdrawals
    (List.mem_of_find?_eq_some hrow)
  have hbefore : row.of userId = single row.userId row.amountLamports userId := by
    simp [Withdrawal.of, single, hopen]
  have hafter : (data.write row).of userId =
      if data.status.isOpen then single row.userId row.amountLamports userId else 0 := by
    simp only [Withdrawal.of, WithdrawalData.write, single]
    by_cases hstatus : data.status.isOpen = true <;> simp [hstatus]
  rw [hbefore, hafter] at hsum
  simp only [Database.withdrawing]
  split_ifs at hsum ⊢ with hstatus
  · simpa using hsum
  · simp only [single] at hsum ⊢
    split_ifs at hsum ⊢ <;> omega

end Statements

/-! ### Rows -/

section Rows
variable {db view : Database}

/-- An account is not deleted. -/
theorem custody_kept (hl : Later db view) {name : PoolAccountName}
    (h : db.poolAccounts.get name ≠ none) : view.poolAccounts.get name ≠ none := by
  obtain ⟨a, ha⟩ := Option.ne_none_iff_exists'.mp h
  obtain ⟨a', ha', -⟩ := hl name a ha
  rw [ha']
  exact nofun

/-- Where neither stakes nor withdrawals changed. -/
theorem Rows.of_eq (h : Rows db) (hl : Later db view)
    (hstakes : view.stakeReservations = db.stakeReservations)
    (hwithdrawals : view.withdrawals = db.withdrawals) : Rows view where
  stakes := hstakes ▸ h.stakes
  withdrawals := hwithdrawals ▸ h.withdrawals
  custody row hrow := custody_kept hl (h.custody row (hstakes ▸ hrow))

/-- Every statement keeps the rows in order, when a stake is of an account that is there. -/
theorem Rows.exec (h : Rows db) {statement : Statement}
    (hexec : exec statement db = .ok view)
    (hstake : ∀ row, statement = .createReservation row →
      db.poolAccounts.get (.custody row.userId) ≠ none) : Rows view := by
  have hl := exec_later hexec
  have hw := writes hexec
  cases statement with
  | updateAccount name read data =>
      obtain ⟨a, -, -, rfl⟩ := hw
      exact h.of_eq hl rfl rfl
  | setReserved name reserved =>
      obtain ⟨a, -, rfl⟩ := hw
      exact h.of_eq hl rfl rfl
  | createAccount name =>
      obtain ⟨-, rfl⟩ := hw
      exact h.of_eq hl rfl rfl
  | createTransactions rows =>
      simp only [Database.exec] at hexec
      split at hexec
      · cases hexec
      · obtain rfl := Except.ok.inj hexec
        exact h.of_eq hl rfl rfl
  | createReservation row =>
      simp only [Database.exec] at hexec
      split at hexec
      · cases hexec
      next hnone =>
          obtain rfl := Except.ok.inj hexec
          refine ⟨h.stakes.append fun y hy e => ?_, h.withdrawals, fun row' hrow' => ?_⟩
          · simp only [StakeReservation.key, Prod.mk.injEq] at e
            have hnone : ∀ y ∈ db.stakeReservations, y.userId = row.userId →
                ¬y.tierId = row.tierId := by
              simpa [Database.reservation] using hnone
            exact hnone y hy e.1 e.2
          · obtain hrow' | hrow' := List.mem_append.mp hrow'
            · exact h.custody row' hrow'
            · obtain rfl := List.mem_singleton.mp hrow'
              exact hstake _ rfl
  | deleteReservation userId tierId =>
      simp only [Database.exec] at hexec
      split at hexec
      · cases hexec
      · obtain rfl := Except.ok.inj hexec
        exact ⟨h.stakes.filter _, h.withdrawals, fun row hrow =>
          h.custody row (List.mem_filter.mp hrow).1⟩
  | deleteReservations tierId =>
      obtain rfl := Except.ok.inj hexec
      exact ⟨h.stakes.filter _, h.withdrawals, fun row hrow =>
        h.custody row (List.mem_filter.mp hrow).1⟩
  | createWithdrawal row =>
      simp only [Database.exec] at hexec
      split at hexec
      · cases hexec
      next hnone =>
          obtain rfl := Except.ok.inj hexec
          refine ⟨h.stakes, h.withdrawals.append fun y hy e => ?_, h.custody⟩
          have hnone : ∀ y ∈ db.withdrawals, ¬y.id = row.id := by
            simpa [Database.withdrawal] using hnone
          exact hnone y hy e
  | updateWithdrawal id data =>
      simp only [Database.exec] at hexec
      split at hexec
      · cases hexec
      split at hexec
      · cases hexec
      obtain rfl := Except.ok.inj hexec
      refine ⟨h.stakes, h.withdrawals.map fun w => ?_, h.custody⟩
      split <;> rfl
  | cancelGame gameId reason =>
      simp only [Database.exec] at hexec
      split at hexec
      · cases hexec
      · obtain rfl := Except.ok.inj hexec
        exact h.of_eq hl rfl rfl

def Statement.stakes : Statement → Bool
  | .createReservation _ => true
  | _ => false

/-- A commit that leaves the stakes. -/
theorem Rows.run {statements : List Statement} : ∀ {db view : Database}, Rows db →
    (∀ b ∈ statements, b.stakes = false) → runAll Database.exec statements db = .ok view →
      Rows view := by
  induction statements with
  | nil =>
      intro db view h _ hrun
      exact Except.ok.inj hrun ▸ h
  | cons b statements ih =>
      intro db view h hstakes hrun
      obtain ⟨u, hu, hrest⟩ := runAll_cons.mp hrun
      refine ih (h.exec hu ?_) (fun b' hb' => hstakes b' (List.mem_cons_of_mem _ hb')) hrest
      rintro row rfl
      cases hstakes _ List.mem_cons_self

end Rows

/-! ### What a commit has to find -/

/-- The custody account has the reservation that was read. -/
def AsRead (db : Database) (userId : ℕ) (read : Option PoolAccount) : Prop :=
  (db.poolAccounts.get (.custody userId)).map (·.reservedLamports) = read.map (·.reservedLamports)

instance (db : Database) (userId : ℕ) (read : Option PoolAccount) :
    Decidable (AsRead db userId read) :=
  inferInstanceAs (Decidable (_ = _))

def Finds (db : Database) : Commit → Prop
  | .reserve row account => AsRead db row.userId (some account)
  | .release row custody =>
      AsRead db row.userId custody ∧ db.reservation row.userId row.tierId = some row ∧
        ∀ a ∈ custody, row.lamports ≤ a.reservedLamports
  | .consume tierId _ stakes _ =>
      db.stakeReservations.filter (·.tierId = tierId) = stakes.map (·.row) ∧
        ∀ x ∈ stakes, AsRead db x.row.userId (some x.custody) ∧
          x.row.lamports ≤ x.custody.reservedLamports
  | .intent row custody => AsRead db row.userId (some custody)
  | .unreserve withdrawal custody =>
      AsRead db withdrawal.userId (some custody) ∧
        withdrawal.amountLamports ≤ custody.reservedLamports
  | .updateWithdrawal withdrawal _ =>
      (db.withdrawal withdrawal.id).any fun w =>
        w.status.isOpen ∧ w.userId = withdrawal.userId ∧
          w.amountLamports = withdrawal.amountLamports
  | _ => True

instance (db : Database) (t : Commit) : Decidable (Finds db t) := by
  unfold Finds
  rcases t <;> dsimp only <;> infer_instance

/-- The withdrawal whose reservation the commit gives back. -/
def Commit.frees : Commit → Option Withdrawal
  | .unreserve withdrawal _ => some withdrawal
  | _ => none

/-- The withdrawal that the commit closes. -/
def Commit.closes : Commit → Option Withdrawal
  | .updateWithdrawal withdrawal data => if data.status.isOpen then none else some withdrawal
  | _ => none

/-- What the withdrawal of a commit weighs for a player. -/
def weighs (f : Commit → Option Withdrawal) (userId : ℕ) (t : Commit) : ℕ :=
  (f t).elim 0 fun w => if w.userId = userId then w.amountLamports.toNat else 0

/-- A call that is not between the two writes of a withdrawal. -/
def Settled (p : Call) : Prop :=
  (p.committed.filterMap Commit.frees).Perm (p.committed.filterMap Commit.closes)

instance : DecidablePred Settled := fun _ => inferInstanceAs (Decidable (List.Perm _ _))

section Commits
variable {good : ℤ → ℤ → Prop} {db view : Database}

/-- What was read is what is reserved. -/
theorem AsRead.reserved {userId : ℕ} {a : PoolAccount} (h : AsRead db userId (some a)) :
    db.reserved userId = a.reservedLamports := by
  obtain ⟨b, hb, e⟩ := Option.map_eq_some_iff.mp h
  simp only [Database.reserved, hb, Option.elim_some, e]

/-- The loop over the stakes gives back what each reserved. -/
theorem Moves.stakes {gameId : ℕ} {stakes : List Stake} :
    ∀ {escrowBalance : ℤ} {db view : Database}, (stakes.map (·.row.userId)).Nodup →
      (∀ x ∈ stakes, AsRead db x.row.userId (some x.custody) ∧
        x.row.lamports ≤ x.custody.reservedLamports) →
      runAll exec (stakeStatements gameId escrowBalance stakes) db = .ok view →
      Moves db view
        (fun userId => -((stakes.map (·.row)).map (StakeReservation.of userId)).sum) 0 0 := by
  induction stakes with
  | nil =>
      intro _ db view _ _ hrun
      obtain rfl := Except.ok.inj hrun
      exact ⟨fun _ => (add_zero _).symm, fun _ => (add_zero _).symm, fun _ => (add_zero _).symm⟩
  | cons x xs ih =>
      intro escrowBalance db view hnodup hfinds hrun
      obtain ⟨u, hu, hrest⟩ := runAll_append.mp hrun
      obtain ⟨v, hupdate, hcreate⟩ := runAll_cons.mp hu
      obtain ⟨hread, hle⟩ := hfinds x List.mem_cons_self
      have hstep := (Moves.update hupdate rfl).trans (Moves.idle rfl (runAll_one.mp hcreate))
      obtain ⟨hx, hnodup⟩ := List.nodup_cons.mp hnodup
      have hothers : ∀ y ∈ xs, AsRead u y.row.userId (some y.custody) ∧
          y.row.lamports ≤ y.custody.reservedLamports := by
        intro y hy
        obtain ⟨hy', hle'⟩ := hfinds y (List.mem_cons_of_mem _ hy)
        have haccounts : u.poolAccounts = v.poolAccounts := writes (runAll_one.mp hcreate)
        obtain ⟨a, -, -, rfl⟩ := writes hupdate
        have hne : y.row.userId ≠ x.row.userId := fun e => hx (List.mem_map.mpr ⟨y, hy, e⟩)
        refine ⟨?_, hle'⟩
        rw [AsRead, haccounts, Table.get_upd_other (by simpa using hne)]
        exact hy'
      have h := hstep.trans (ih hnodup hothers hrest)
      have hpos := x.row.pos
      have hreleased : released x.custody.reservedLamports x.row.lamports =
          x.custody.reservedLamports - x.row.lamports := by
        simp only [released]
        split <;> omega
      rw [hread.reserved, hreleased] at h
      refine ⟨fun userId => ?_, fun userId => by simpa using h.staked userId,
        fun userId => by simpa using h.withdrawing userId⟩
      rw [h.reserved]
      simp only [Pi.add_apply, Pi.zero_apply, single, List.map_cons, List.sum_cons,
        StakeReservation.of]
      split <;> omega

/-- Taking the stakes deletes no row. -/
theorem stakes_kept {gameId : ℕ} {stakes : List Stake} :
    ∀ {escrowBalance : ℤ} {db view : Database},
      runAll exec (stakeStatements gameId escrowBalance stakes) db = .ok view →
      view.stakeReservations = db.stakeReservations := by
  induction stakes with
  | nil =>
      intro _ db view hrun
      obtain rfl := Except.ok.inj hrun
      rfl
  | cons x xs ih =>
      intro escrowBalance db view hrun
      obtain ⟨u, hu, hrest⟩ := runAll_append.mp hrun
      obtain ⟨v, hupdate, hcreate⟩ := runAll_cons.mp hu
      obtain ⟨_, -, -, rfl⟩ := writes hupdate
      rw [ih hrest]
      have hcreate := runAll_one.mp hcreate
      simp only [exec] at hcreate
      split at hcreate
      · cases hcreate
      · obtain rfl := Except.ok.inj hcreate
        rfl

/-- Rows of one tier are of different players. -/
theorem Rows.users (h : Rows db) {tierId : String} {rows : List StakeReservation}
    (hrows : db.stakeReservations.filter (·.tierId = tierId) = rows) :
    (rows.map (·.userId)).Nodup := by
  have hkeys : (rows.map StakeReservation.key).Nodup := hrows ▸ h.stakes.filter _
  have htier : rows.map StakeReservation.key =
      (rows.map (·.userId)).map fun userId => (userId, tierId) := by
    rw [List.map_map]
    refine List.map_congr_left fun row hrow => ?_
    have := (List.mem_filter.mp (hrows ▸ hrow)).2
    simp only [decide_eq_true_eq] at this
    simp [StakeReservation.key, this]
  exact List.Nodup.of_map _ (htier ▸ hkeys)

/-- The commits that neither reserve nor give back. -/
def Commit.idle : Commit → Bool
  | .cancel .. | .refund .. => true
  | t => t.money

/-- Moving balances reserves nothing. -/
theorem Statement.money_idle {b : Statement} (h : b.money = true) :
    b.idle = true ∧ b.stakes = false := by
  cases b with
  | updateAccount => exact ⟨h, rfl⟩
  | createAccount | createTransactions => exact ⟨rfl, rfl⟩
  | setReserved | createReservation | deleteReservation | deleteReservations | createWithdrawal
  | updateWithdrawal | cancelGame => cases h

/-- The commits that are idle run idle statements only. -/
theorem Commit.idle_statements {t : Commit} (h : t.idle = true) :
    ∀ b ∈ t.statements, b.idle = true ∧ b.stakes = false := by
  cases t with
  | createAccount | entry | settle | adjust =>
      exact fun b hb => Statement.money_idle (Commit.statements_money rfl b hb)
  | cancel =>
      intro b hb
      obtain rfl := List.mem_singleton.mp hb
      exact ⟨rfl, rfl⟩
  | refund gameId reason payments escrow =>
      intro b hb
      obtain hb | rfl := refundStatements_money b hb
      · exact Statement.money_idle hb
      · exact ⟨rfl, rfl⟩
  | reserve | release | consume | intent | unreserve | updateWithdrawal => cases h

/-- A commit that closes no withdrawal and gives back none. -/
theorem Moves.accounted {t : Commit} {r s w : ℕ → ℤ} (h : Moves db view r s w)
    (hzero : ∀ userId, r userId = s userId + w userId) (hfrees : t.frees = none)
    (hcloses : t.closes = none) (userId : ℕ) :
    view.unaccounted userId + weighs Commit.frees userId t =
      db.unaccounted userId + weighs Commit.closes userId t := by
  have := hzero userId
  simp only [h.unaccounted, weighs, hfrees, hcloses, Option.elim_none]
  omega

/-- **What a commit leaves unaccounted** when it finds what it read: what it gives back, and what
it closes. -/
theorem Commit.accounted {t : Commit} (hrows : Rows db) (hchecked : t.Checked good)
    (hfinds : Finds db t) (hrun : runAll exec t.statements db = .ok view) (userId : ℕ) :
    view.unaccounted userId + weighs Commit.frees userId t =
      db.unaccounted userId + weighs Commit.closes userId t := by
  have hidle : t.idle = true → Moves db view 0 0 0 := fun h =>
    Moves.idles (fun b hb => (Commit.idle_statements h b hb).1) hrun
  cases t with
  | createAccount | entry | cancel | refund | settle | adjust =>
      exact (hidle rfl).accounted (fun _ => rfl) rfl rfl userId
  | reserve row account =>
      obtain ⟨u, hu, hrest⟩ := runAll_cons.mp hrun
      have h := (Moves.update hu rfl).trans (Moves.createReservation (runAll_one.mp hrest))
      refine h.accounted (fun userId' => ?_) rfl rfl userId
      rw [hfinds.reserved]
      simp [single]
  | release row custody =>
      obtain ⟨hread, hrow, hle⟩ := hfinds
      cases custody with
      | none =>
          have hnone : db.poolAccounts.get (.custody row.userId) = none := by
            simpa [AsRead] using hread
          exact absurd hnone (hrows.custody row (List.mem_of_find?_eq_some hrow))
      | some custody =>
          obtain ⟨u, hu, hrest⟩ := runAll_cons.mp hrun
          have hu' := hrows.exec hu nofun
          have hrow' : u.reservation row.userId row.tierId = some row := by
            obtain ⟨_, -, -, rfl⟩ := writes hu
            exact hrow
          have h := (Moves.update hu rfl).trans
            (Moves.deleteReservation hu' hrow' (runAll_one.mp hrest))
          have hle := hle custody rfl
          refine h.accounted (fun userId' => ?_) rfl rfl userId
          rw [hread.reserved]
          simp only [Pi.add_apply, Pi.zero_apply, single, released]
          have := row.pos
          split_ifs <;> omega
  | consume tierId gameId stakes escrow =>
      obtain ⟨htier, hstakes⟩ := hfinds
      obtain ⟨u, hu, hrest⟩ := runAll_append.mp hrun
      obtain ⟨v, hv, hdelete⟩ := runAll_cons.mp hrest
      have hnodup := hrows.users htier
      rw [List.map_map] at hnodup
      have hloop := Moves.stakes hnodup hstakes hu
      have h := (hloop.trans (Moves.idle rfl hv)).trans
        (Moves.deleteReservations (runAll_one.mp hdelete))
      have hsame : v.stakeReservations = db.stakeReservations := by
        obtain ⟨_, -, -, rfl⟩ := writes hv
        exact (stakes_kept hu : u.stakeReservations = db.stakeReservations)
      refine h.accounted (fun userId' => ?_) rfl rfl userId
      simp only [hsame, htier, Pi.add_apply, Pi.zero_apply]
      omega
  | intent row custody =>
      obtain ⟨u, hu, hrest⟩ := runAll_cons.mp hrun
      have h := (Moves.update hu rfl).trans
        (Moves.createWithdrawal hchecked.2.2 (runAll_one.mp hrest))
      refine h.accounted (fun userId' => ?_) rfl rfl userId
      rw [hfinds.reserved]
      simp [single]
  | unreserve withdrawal custody =>
      obtain ⟨hread, hle⟩ := hfinds
      have h := Moves.setReserved (runAll_one.mp hrun)
      rw [hread.reserved] at h
      have := withdrawal.pos
      simp only [h.unaccounted, weighs, Commit.frees, Commit.closes, Option.elim_some,
        Option.elim_none, Pi.zero_apply, single, released]
      split_ifs <;> omega
  | updateWithdrawal withdrawal data =>
      obtain ⟨w, hw, hopen⟩ := (Option.any_eq_true _ _).mp hfinds
      simp only [decide_eq_true_eq] at hopen
      obtain ⟨hopen, huser, hamount⟩ := hopen
      have hid : w.id = withdrawal.id := by simpa using List.find?_some hw
      have hexec := runAll_one.mp hrun
      rw [← hid] at hw hexec
      have h := Moves.updateWithdrawal hrows hw hopen hexec
      have := withdrawal.pos
      simp only [h.unaccounted, weighs, Commit.frees, Commit.closes, Option.elim_none,
        Pi.zero_apply]
      cases data.status.isOpen with
      | true => simp
      | false =>
          simp only [Bool.false_eq_true, if_false, Option.elim_some, single, huser, hamount]
          split_ifs <;> omega

theorem Statement.stakes_aside {b : Statement} (h : b.aside = false) : b.stakes = false := by
  cases b with
  | updateAccount | setReserved | createAccount | createTransactions => rfl
  | createReservation | deleteReservation | deleteReservations | createWithdrawal
  | updateWithdrawal | cancelGame => cases h

/-- A commit keeps one row for each reservation. -/
theorem Commit.rows {t : Commit} (hrows : Rows db) (hrun : runAll exec t.statements db = .ok view) :
    Rows view := by
  cases t with
  | createAccount | entry | cancel | refund | settle | adjust =>
      exact hrows.run (fun b hb => (Commit.idle_statements rfl b hb).2) hrun
  | reserve row account =>
      obtain ⟨u, hu, hrest⟩ := runAll_cons.mp hrun
      refine (hrows.exec hu (by rintro _ ⟨⟩)).exec (runAll_one.mp hrest) ?_
      rintro row' ⟨⟩
      obtain ⟨a, -, -, rfl⟩ := writes hu
      rw [Table.get_upd_same]
      rintro ⟨⟩
  | release row custody =>
      cases custody with
      | none | some =>
          refine hrows.run (fun b hb => ?_) hrun
          simp only [Commit.statements, List.mem_cons, List.not_mem_nil, or_false] at hb
          obtain rfl | rfl := hb <;> rfl
  | consume tierId gameId stakes escrow =>
      refine hrows.run (fun b hb => ?_) hrun
      simp only [Commit.statements, List.mem_append, List.mem_cons, List.not_mem_nil,
        or_false] at hb
      obtain hb | rfl | rfl := hb
      · exact Statement.stakes_aside (stakeStatements_aside b hb)
      · rfl
      · rfl
  | intent row custody =>
      obtain ⟨u, hu, hrest⟩ := runAll_cons.mp hrun
      exact (hrows.exec hu (by rintro _ ⟨⟩)).exec (runAll_one.mp hrest) (by rintro _ ⟨⟩)
  | unreserve | updateWithdrawal =>
      exact hrows.exec (runAll_one.mp hrun) (by intro _ h; cases h)

end Commits

/-! ### Runs -/

/-- Each commit finds what it read, and no call ends between the two writes of a withdrawal. -/
def InOrder (s : System Database Call) (a : Act Call Answer Outside) : Prop :=
  Calls.Allows Finds s a ∧ Calls.EndsDone calls Settled s a

instance (s : System Database Call) (a : Act Call Answer Outside) : Decidable (InOrder s a) :=
  inferInstanceAs (Decidable (_ ∧ _))

/-- Every reservation accounted, and no call running. -/
structure Accounted (s : System Database Call) : Prop where
  rows : Rows s.store
  reserved : ∀ userId, s.store.unaccounted userId = 0
  procs : s.procs = Table.empty

/-- The rule's invariant: one row for each reservation. -/
theorem rows_keeps {G : Database → Commit → Prop} : calls.processes.Keeps (Calls.Allows G) Rows
    (fun s _ p => Calls.Knows calls Rows Later Trust (Spec fun _ _ => True) s p)
    fun _ _ => True :=
  calls_keep ⟨fun _ _ _ _ _ => trivial, fun _ _ _ _ _ _ => trivial⟩
    (fun _ _ _ hI _ _ _ hrun => Commit.rows hI hrun)
    fun _ _ hI => ⟨hI.stakes, hI.withdrawals, hI.custody⟩

/-- A sum over the commits that are of a withdrawal. -/
theorem sum_elim (f : Commit → Option Withdrawal) (g : Withdrawal → ℕ) (ts : List Commit) :
    (ts.map fun t => (f t).elim 0 g).sum = ((ts.filterMap f).map g).sum := by
  induction ts with
  | nil => rfl
  | cons t ts ih =>
      rw [List.map_cons, List.sum_cons, ih]
      cases h : f t with
      | none => rw [List.filterMap_cons_none h, Option.elim_none, zero_add]
      | some w => rw [List.filterMap_cons_some h, List.map_cons, List.sum_cons, Option.elim_some]

/-- A call that has settled weighs the same on both sides. -/
theorem Settled.weight {p : Call} (h : Settled p) (userId : ℕ) :
    Calls.weight (weighs Commit.frees userId) p = Calls.weight (weighs Commit.closes userId) p := by
  unfold Calls.weight weighs
  rw [sum_elim, sum_elim]
  exact (h.map _).sum_eq

/-- The counters are off by what the running calls have done by halves. -/
theorem unaccounted_run {s : System Database Call}
    (hs : Reachable (Guarded calls.processes.Step InOrder) Accounted s) (userId : ℕ) :
    s.store.unaccounted userId + Calls.tally (weighs Commit.frees userId) s =
      Calls.tally (weighs Commit.closes userId) s := by
  refine (hs.invariant (I := fun s => Processes.Holds Rows
      (fun s _ p => Calls.Knows calls Rows Later Trust (Spec fun _ _ => True) s p)
        (fun _ _ => True) s ∧
    s.store.unaccounted userId + Calls.tally (weighs Commit.frees userId) s =
      Calls.tally (weighs Commit.closes userId) s) (fun s h₀ => ?_) ?_).2
  · refine ⟨⟨h₀.rows, ?_, fun _ _ _ _ _ _ _ => trivial⟩, ?_⟩
    · rw [h₀.procs]
      exact Table.All.empty
    · simp [h₀.reserved, Calls.tally, h₀.procs]
  · rintro s a s' ⟨hholds, heq⟩ ⟨hstep, hallows, hends⟩
    refine ⟨rows_keeps.step hholds ⟨hstep, hallows⟩, ?_⟩
    refine Calls.tallied (G := Finds) (X := fun db => db.unaccounted userId)
      (fun p hp => hp.weight userId) ?_ ?_
      hholds Later.refl hstep hallows hends heq
    · rintro s t _ s' hI ⟨rfl, hchecked⟩ - hfinds hrun
      exact Commit.accounted hI hchecked hfinds hrun userId
    · rintro s ⟨gameId, row⟩ s' he
      obtain rfl := Option.some.inj he
      rfl

/-- **Reservations are accounted.**  When no running call is between the two writes of a
withdrawal, each counter is the sum of the player's stakes and open withdrawals. -/
theorem reservations_accounted {s : System Database Call}
    (hs : Reachable (Guarded calls.processes.Step InOrder) Accounted s)
    (hsettled : ∀ r p, s.procs.get r = some p → Settled p) (userId : ℕ) :
    s.store.reserved userId = s.store.staked userId + s.store.withdrawing userId := by
  have h := unaccounted_run hs userId
  have hsame : Calls.tally (weighs Commit.frees userId) s =
      Calls.tally (weighs Commit.closes userId) s :=
    Table.total_congr fun r p hp => (hsettled r p hp).weight userId
  simp only [Database.unaccounted] at h
  omega

/-- A deposit of 100000 lamports. -/
def deposited (userId : ℕ) : List (Act Call Answer Outside) :=
  callOnce (.createAccount (.custody userId)) 6 ++
    callOnce (.postEntry ⟨.deposit,
      [⟨.external, none, .debit, 100000⟩, ⟨.custody userId, some userId, .credit, 100000⟩],
        .deposit userId, none, some userId, none⟩ userId) 9

/-- A withdrawal asked for, from a verified wallet. -/
def intended (id : ℕ) (amount : ℤ) : List (Act Call Answer Outside) :=
  .start 0 (.call (.createWithdrawalIntent 1 amount 0)) ::
    (List.replicate 4 (Answer.wallet true) ++ List.replicate 4 (Answer.uuid id)).map (.resume 0)

/-- A stake consumed, a withdrawal that expired and one that is open. -/
def withdrawn : List (Act Call Answer Outside) :=
  callOnce (.createAccount .external) 6 ++ callOnce (.createAccount (.escrow 5)) 6 ++ deposited 1 ++
    callOnce (.reserveEntryFee 1 "bronze" 40) 8 ++ intended 3 20000 ++ intended 4 15000 ++
    callOnce (.consumeReservations "bronze" 5 (some 40)) 11 ++
    callOnce (.expireStaleWithdrawals (· = 3)) 8

theorem reservations_accounted_withdrawn : ∃ s,
    Reachable (Guarded calls.processes.Step InOrder) Accounted s ∧
      s.store.reserved 1 = 15000 ∧
      s.store.reserved 1 = s.store.staked 1 + s.store.withdrawing 1 := by
  have hinit : Accounted emptyDatabase :=
    ⟨⟨List.nodup_nil, List.nodup_nil, nofun⟩, fun _ => rfl, rfl⟩
  have hrun : (calls.processes.actsWhen InOrder emptyDatabase withdrawn).any (fun s =>
      s.store.reserved 1 = 15000 ∧ ∀ r < 1, s.procs.get r = none) = true := by decide
  obtain ⟨s, hs, htest⟩ := (Option.any_eq_true _ _).mp hrun
  simp only [decide_eq_true_eq] at htest
  have hrun := calls.processes.run_of_actsWhen hs
  have hreach : Reachable (Guarded calls.processes.Step InOrder) Accounted s := ⟨_, _, hinit, hrun⟩
  have hended := calls.processes.run_ended hrun.of_guarded rfl (by decide) htest.2
  exact ⟨s, hreach, htest.1,
    reservations_accounted hreach (fun r p hp => nomatch (hended r).symm.trans hp) 1⟩

/-- Player 2 stakes between the read of the tier's rows and their deletion. -/
def caughtStake : List (Act Call Answer Outside) :=
  let consume := callOnce (.consumeReservations "bronze" 5 (some 40)) 11
  let reserve : List (Act Call Answer Outside) :=
    .start 1 (.call (.reserveEntryFee 2 "bronze" 40)) :: List.replicate 8 (.resume 1 (.uuid 7))
  callOnce (.createAccount .external) 6 ++ callOnce (.createAccount (.escrow 5)) 6 ++ deposited 1 ++
    deposited 2 ++ callOnce (.reserveEntryFee 1 "bronze" 40) 8 ++ consume.take 3 ++ reserve ++
    consume.drop 3

/-- The stake is reserved and no row says so. -/
theorem reservations_accounted_caught :
    ¬∀ s, Reachable calls.processes.Step (emptyDatabase = ·) s → (∀ r, s.procs.get r = none) →
      ∀ userId, s.store.reserved userId = s.store.staked userId + s.store.withdrawing userId := by
  intro h
  have hrun : (calls.processes.acts emptyDatabase caughtStake).any (fun s =>
      s.store.reserved 2 ≠ s.store.staked 2 + s.store.withdrawing 2 ∧
        ∀ r < 2, s.procs.get r = none) = true := by decide
  obtain ⟨s, hs, htest⟩ := (Option.any_eq_true _ _).mp hrun
  simp only [decide_eq_true_eq] at htest
  have hrun := calls.processes.run_of_acts hs
  exact htest.1 (h s ⟨_, _, rfl, hrun⟩ (calls.processes.run_ended hrun rfl (by decide) htest.2) 2)

end SnakeArena.Books
