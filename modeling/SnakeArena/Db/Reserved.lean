import SnakeArena.Books.Sound
import SnakeArena.Db.Stake

/-!
# Db — reservations are consumed exactly

What the players' stakes reserve is reserved, and no more is reserved than there is (`Backed`).
Reserving, releasing and consuming keep this, so a call never meets a player without an account
or a balance that is short, and the clamp at zero of the reserved amount is never met.  With the
keys of the stakes that stay in the ledger, `consumeReservations_exact`.
-/

namespace SnakeArena.Db
open SnakeArena.Library SnakeArena.Books Database

/-! ### Reservations are backed -/

/-- What the players' stakes reserve is reserved, and no more is reserved than there is. -/
structure Backed (db : Database) : Prop where
  stakes : UniqueKeys StakeReservation.key db.stakeReservations
  custody : ∀ row ∈ db.stakeReservations, db.poolAccounts.get (.custody row.userId) ≠ none
  reserved : ∀ userId a, db.poolAccounts.get (.custody userId) = some a →
    db.staked userId ≤ a.reservedLamports ∧ a.reservedLamports ≤ a.balanceLamports

/-- A stake is not negative. -/
theorem StakeReservation.of_nonneg (userId : ℕ) (row : StakeReservation) : 0 ≤ row.of userId := by
  unfold StakeReservation.of
  split
  · exact row.pos.le
  · exact le_rfl

/-- A stake is among those of its player. -/
theorem lamports_le_of {row : StakeReservation} {rows : List StakeReservation} (h : row ∈ rows) :
    row.lamports ≤ (rows.map (StakeReservation.of row.userId)).sum := by
  have hrow : row.of row.userId = row.lamports := if_pos rfl
  rw [← hrow]
  refine List.single_le_sum (fun n hn => ?_) _ (List.mem_map_of_mem h)
  obtain ⟨row', -, rfl⟩ := List.mem_map.mp hn
  exact StakeReservation.of_nonneg _ _

/-- A reservation is no more than what its account reserves. -/
theorem Backed.covers {db : Database} (h : Backed db) {row : StakeReservation}
    (hrow : row ∈ db.stakeReservations) {a : PoolAccount}
    (ha : db.poolAccounts.get (.custody row.userId) = some a) : row.lamports ≤ a.reservedLamports :=
  (lamports_le_of hrow).trans (h.reserved _ a ha).1

/-- Writing a custody account keeps the reservations backed when it is backed itself. -/
theorem Backed.write {db db' : Database} (h : Backed db) {userId : ℕ} {a : PoolAccount}
    (haccounts : db'.poolAccounts = db.poolAccounts.upd (.custody userId) a)
    (hstakes : UniqueKeys StakeReservation.key db'.stakeReservations)
    (hcustody : ∀ row ∈ db'.stakeReservations, row ∈ db.stakeReservations ∨ row.userId = userId)
    (hstaked : ∀ userId', userId' ≠ userId → db'.staked userId' ≤ db.staked userId')
    (ha : db'.staked userId ≤ a.reservedLamports ∧ a.reservedLamports ≤ a.balanceLamports) :
    Backed db' where
  stakes := hstakes
  custody row hrow := by
    rw [haccounts, Table.get_upd]
    split
    · exact nofun
    · next hne =>
        rcases hcustody row hrow with hrow | rfl
        · exact h.custody row hrow
        · exact absurd rfl hne
  reserved userId' a' ha' := by
    rw [haccounts, Table.get_upd] at ha'
    split at ha'
    · next e =>
        obtain rfl := PoolAccountName.custody.inj e
        obtain rfl := Option.some.inj ha'
        exact ha
    · next hne =>
        have hne : userId' ≠ userId := fun e => hne (e ▸ rfl)
        exact ⟨(hstaked userId' hne).trans (h.reserved _ _ ha').1, (h.reserved _ _ ha').2⟩

/-- The stakes of a tier are consumed with what they reserved. -/
theorem Backed.consumes {params : ConsumeParams} {db db' : Database} {result : Consumed}
    (h : Backed db)
    (hc : Consumes params (reservationsForTier db params.tierId) db result db') : Backed db' where
  stakes := hc.reservations ▸ h.stakes.filter _
  custody row hrow := by
    rw [hc.reservations] at hrow
    have hrow := (List.mem_filter.mp hrow).1
    by_cases htaken : ∃ row' ∈ reservationsForTier db params.tierId, row'.userId = row.userId
    · obtain ⟨row', hrow', e⟩ := htaken
      obtain ⟨a, -, -, hafter⟩ := hc.taken row' hrow'
      rw [← e, hafter]
      rintro ⟨⟩
    · rw [hc.others (.custody row.userId) (by rintro ⟨⟩) fun row' hrow' e =>
        htaken ⟨row', hrow', (PoolAccountName.custody.inj e).symm⟩]
      exact h.custody row hrow
  reserved userId a ha := by
    have hsplit := sum_filter_not (StakeReservation.of userId) (·.tierId = params.tierId)
      db.stakeReservations
    simp only [← decide_not] at hsplit
    have hstaked : db'.staked userId
        + ((reservationsForTier db params.tierId).map (StakeReservation.of userId)).sum
        = db.staked userId := by
      rw [Database.staked, hc.reservations, Database.staked, reservationsForTier]
      simp only [ne_eq]
      omega
    have hnonneg : 0 ≤ ((reservationsForTier db params.tierId).map
        (StakeReservation.of userId)).sum :=
      List.sum_nonneg fun n hn => by
        obtain ⟨row, -, rfl⟩ := List.mem_map.mp hn
        exact StakeReservation.of_nonneg _ _
    by_cases htaken : ∃ row ∈ reservationsForTier db params.tierId, row.userId = userId
    · obtain ⟨row, hrow, rfl⟩ := htaken
      obtain ⟨a₀, ha₀, hle, hafter⟩ := hc.taken row hrow
      obtain rfl := Option.some.inj (hafter.symm.trans ha)
      have hof := lamports_le_of hrow
      have hbefore := h.reserved _ _ ha₀
      have hreleased := @released_bounds a₀.reservedLamports row.lamports row.pos
      simp only [debited]
      omega
    · rw [hc.others (.custody userId) (by rintro ⟨⟩) fun row hrow e =>
        htaken ⟨row, hrow, (PoolAccountName.custody.inj e).symm⟩] at ha
      have hbefore := h.reserved _ _ ha
      omega

/-! ### Reserving and releasing -/

/-- The account that is there, or the one that is created. -/
theorem leaves_getOrCreateAccount {answer : ℕ → Answer} {db : Database} {n : ℕ}
    (name : PoolAccountName) (k : PoolAccount → Books.Prog) :
    leaves answer (getOrCreateAccount name k) db db n =
      match db.poolAccounts.get name with
      | some a => leaves answer (k a) db db n
      | none =>
          let created : Database :=
            { db with poolAccounts := db.poolAccounts.upd name ⟨name.kind, 0, 0, 0⟩ }
          leaves answer (k ⟨name.kind, 0, 0, 0⟩) created created n := by
  rw [getOrCreateAccount, leaves_findAccount]
  cases hget : db.poolAccounts.get name with
  | some a => rfl
  | none =>
      have hcreate : Database.exec (.createAccount name) db
          = .ok { db with poolAccounts := db.poolAccounts.upd name ⟨name.kind, 0, 0, 0⟩ } := by
        simp only [Database.exec, hget]
      dsimp only
      rw [leaves, Library.Prog.alone, hcreate]
      dsimp only [Library.Prog.alone]
      change leaves answer (findAccount name _) _ _ n = _
      rw [leaves_findAccount, Table.get_upd_same]

/-- A new account backs what it has reserved: nothing. -/
theorem Backed.created {db : Database} (h : Backed db) {userId : ℕ}
    (hnone : db.poolAccounts.get (.custody userId) = none) :
    Backed { db with
      poolAccounts := db.poolAccounts.upd (.custody userId) ⟨.userCustody, 0, 0, 0⟩ } := by
  refine h.write rfl h.stakes (fun row hrow => .inl hrow) (fun _ _ => le_rfl) ⟨?_, le_rfl⟩
  refine (List.sum_eq_zero fun n hn => ?_).le
  obtain ⟨row, hrow, rfl⟩ := List.mem_map.mp hn
  refine if_neg fun e => h.custody row hrow ?_
  rw [e, hnone]

/-- Making sure of an account. -/
theorem Backed.getOrCreateAccount {db : Database} (h : Backed db) {answer : ℕ → Answer}
    {userId : ℕ} {k : PoolAccount → Prog}
    (hk : ∀ db account, Backed db → Backed (leaves answer (k account) db db 0)) :
    Backed (leaves answer (Books.getOrCreateAccount (.custody userId) k) db db 0) := by
  rw [leaves_getOrCreateAccount]
  cases hget : db.poolAccounts.get (.custody userId) with
  | some a => exact hk db a h
  | none => exact hk _ _ (h.created hget)

/-- **A reservation is backed**: the counter and the row are written in one commit. -/
theorem Backed.reserve {db : Database} (h : Backed db) (answer : ℕ → Answer) (userId : ℕ)
    (tierId : String) (lamports : ℤ) :
    Backed (leaves answer (Books.reserveEntryFee userId tierId lamports) db db 0) := by
  unfold Books.reserveEntryFee
  split_ifs with hneg hzero hpos
  · exact h
  · exact h.getOrCreateAccount fun _ _ h => h
  · refine h.getOrCreateAccount fun db _ hdb => ?_
    rw [leaves_read]
    cases hnone : db.reservation userId tierId with
    | some existing => exact hdb
    | none =>
        dsimp only
        rw [leaves_findAccount]
        cases ha : db.poolAccounts.get (.custody userId) with
        | none => exact hdb
        | some a =>
            dsimp only
            split
            · exact hdb
            next hcovered =>
            let row : StakeReservation := ⟨userId, tierId, lamports, hpos⟩
            let data : AccountData := ⟨none, some (a.reservedLamports + lamports)⟩
            have hupdate : Database.exec (.updateAccount (.custody userId) a data) db = .ok
                { db with poolAccounts :=
                  db.poolAccounts.upd (.custody userId) (data.write a) } := by
              simp [Database.exec, ha]
            have hcreate : Database.exec (.createReservation row)
                { db with poolAccounts := db.poolAccounts.upd (.custody userId) (data.write a) }
                = .ok { db with
                    poolAccounts := db.poolAccounts.upd (.custody userId) (data.write a)
                    stakeReservations := db.stakeReservations ++ [row] } := by
              simp only [Database.exec]
              rw [if_neg]
              rw [Database.reservation] at hnone ⊢
              rw [hnone]
              rintro ⟨⟩
            rw [leaves_run_ok hupdate, leaves_run_ok hcreate, leaves_commit, leaves_done]
            have hstaked : ∀ userId', Database.staked { db with
                poolAccounts := db.poolAccounts.upd (.custody userId) (data.write a)
                stakeReservations := db.stakeReservations ++ [row] } userId'
                = db.staked userId' + row.of userId' := by
              intro userId'
              simp [Database.staked]
            have hbefore := hdb.reserved _ _ ha
            refine hdb.write rfl (hdb.stakes.append fun y hy e => ?_) (fun row' hrow' => ?_)
              (fun userId' hne => ?_) ?_
            · simp only [StakeReservation.key, Prod.mk.injEq] at e
              exact List.find?_eq_none.mp hnone y hy (decide_eq_true e)
            · rcases List.mem_append.mp hrow' with hrow' | hrow'
              · exact .inl hrow'
              · exact .inr (List.mem_singleton.mp hrow' ▸ rfl)
            · rw [hstaked, StakeReservation.of, if_neg hne.symm, add_zero]
            · rw [hstaked, StakeReservation.of, if_pos rfl]
              simp only [spendable] at hcovered
              simp only [AccountData.write, Option.getD_some, Option.getD_none, data, row]
              split at hcovered <;> omega
  · exact h

/-- **A reservation given back leaves the others backed.**. -/
theorem Backed.release {db : Database} (h : Backed db) (answer : ℕ → Answer) (userId : ℕ)
    (tierId : String) : Backed (leaves answer (Books.releaseEntryFee userId tierId) db db 0) := by
  rw [Books.releaseEntryFee, leaves_read]
  cases hrow : db.reservation userId tierId with
  | none => exact h
  | some row =>
      have hmem := List.mem_of_find?_eq_some hrow
      obtain ⟨rfl, rfl⟩ : row.userId = userId ∧ row.tierId = tierId := by
        simpa using List.find?_some hrow
      dsimp only
      rw [leaves_findAccount]
      obtain ⟨a, ha⟩ := Option.ne_none_iff_exists'.mp (h.custody row hmem)
      rw [ha]
      dsimp only
      let data : AccountData := ⟨none, some (released a.reservedLamports row.lamports)⟩
      have hupdate : Database.exec (.updateAccount (.custody row.userId) a data) db = .ok
          { db with poolAccounts := db.poolAccounts.upd (.custody row.userId) (data.write a) } := by
        simp [Database.exec, ha]
      have hdelete : Database.exec (.deleteReservation row.userId row.tierId)
          { db with poolAccounts := db.poolAccounts.upd (.custody row.userId) (data.write a) }
          = .ok { db with
              poolAccounts := db.poolAccounts.upd (.custody row.userId) (data.write a)
              stakeReservations := db.stakeReservations.filter fun row' =>
                ¬(row'.userId = row.userId ∧ row'.tierId = row.tierId) } := by
        simp only [Database.exec]
        rw [if_neg]
        rw [Database.reservation] at hrow ⊢
        rw [hrow]
        rintro ⟨⟩
      rw [leaves_run_ok hupdate, leaves_run_ok hdelete, leaves_commit, leaves_done]
      have hstaked : ∀ userId, Database.staked { db with
          poolAccounts := db.poolAccounts.upd (.custody row.userId) (data.write a)
          stakeReservations := db.stakeReservations.filter fun row' =>
            ¬(row'.userId = row.userId ∧ row'.tierId = row.tierId) } userId + row.of userId
          = db.staked userId := by
        intro userId
        have hsum := sum_delete (StakeReservation.of userId) h.stakes hmem
        simp only [StakeReservation.key, ne_eq, Prod.mk.injEq] at hsum
        exact hsum
      have hbefore := h.reserved _ _ ha
      have hcovers := h.covers hmem ha
      have hpos := row.pos
      have hreleased := @released_bounds a.reservedLamports row.lamports row.pos
      refine h.write rfl (h.stakes.filter _) (fun row' hrow' => .inl (List.mem_filter.mp hrow').1)
        (fun userId hne => ?_) ?_
      · have := hstaked userId
        have := StakeReservation.of_nonneg userId row
        omega
      · have := hstaked row.userId
        rw [StakeReservation.of, if_pos rfl] at this
        have hafter : (data.write a).reservedLamports = released a.reservedLamports row.lamports ∧
          (data.write a).balanceLamports = a.balanceLamports := ⟨rfl, rfl⟩
        rw [hafter.1, hafter.2]
        omega

/-! ### Runs of operations -/

/-- The operations on reservations, each with what it is called with. -/
inductive Operation where
  | reserve (userId : ℕ) (tierId : String) (lamports : ℤ)
  | release (userId : ℕ) (tierId : String)
  | consume (params : ConsumeParams) (randomUUID : ℕ → ℕ)

/-- One call, with nobody beside it. -/
def Operation.exec (db : Database) : Operation → Database
  | .reserve userId tierId lamports =>
      leaves (uuids id) (Books.reserveEntryFee userId tierId lamports) db db 0
  | .release userId tierId => leaves (uuids id) (Books.releaseEntryFee userId tierId) db db 0
  | .consume params randomUUID => (consumeReservations params randomUUID db).2

/-- One operation after another. -/
def after (ops : List Operation) (db : Database) : Database := ops.foldl Operation.exec db

/-- Nothing is staked, and no custody account reserves more than it has. -/
structure Opening (db : Database) : Prop where
  stakes : db.stakeReservations = []
  custody : ∀ userId a, db.poolAccounts.get (.custody userId) = some a →
    0 ≤ a.reservedLamports ∧ a.reservedLamports ≤ a.balanceLamports

/-- Nothing is reserved yet. -/
theorem Opening.backed {db : Database} (h : Opening db) : Backed db where
  stakes := by
    rw [UniqueKeys, h.stakes]
    exact List.nodup_nil
  custody := by rw [h.stakes]; rintro _ ⟨⟩
  reserved userId a ha := by
    rw [Database.staked, h.stakes]
    exact h.custody userId a ha

/-- One operation more. -/
theorem Backed.operation {db : Database} (h : Backed db) (op : Operation) :
    Backed (op.exec db) := by
  cases op with
  | reserve userId tierId lamports => exact h.reserve _ _ _ _
  | release userId tierId => exact h.release _ _ _
  | consume params randomUUID =>
      cases hr : (consumeReservations params randomUUID db).1 with
      | ok result =>
          exact h.consumes (consumeTransaction_ok h.stakes h.custody (transaction_ok hr))
      | error e =>
          rw [Operation.exec, consumeReservations, transaction_error hr]
          exact h

/-- Any number of operations. -/
theorem Backed.after {db : Database} (h : Backed db) (ops : List Operation) :
    Backed (after ops db) := by
  induction ops generalizing db with
  | nil => exact h
  | cons op ops ih => exact ih (h.operation op)

/-- The legs that a statement posts. -/
def posted : Statement → List Posting
  | .createTransactions rows => rows
  | _ => []

/-- A statement adds the postings that it makes. -/
theorem exec_transactions {b : Statement} {db db' : Database} (h : Database.exec b db = .ok db') :
    db'.transactions = db.transactions ++ posted b := by
  cases b with
  | createTransactions rows =>
      obtain ⟨-, rfl⟩ := createTransactions_eq_ok.mp h
      rfl
  | updateAccount name read data =>
      obtain ⟨_, -, -, rfl⟩ := writes h
      exact (List.append_nil _).symm
  | setReserved name reserved =>
      obtain ⟨_, -, rfl⟩ := writes h
      exact (List.append_nil _).symm
  | createAccount name =>
      obtain ⟨-, rfl⟩ := writes h
      exact (List.append_nil _).symm
  | deleteReservations =>
      obtain rfl := Except.ok.inj h
      exact (List.append_nil _).symm
  | createReservation | deleteReservation | createWithdrawal | updateWithdrawal =>
      simp only [Database.exec] at h
      split_ifs at h
      obtain rfl := Except.ok.inj h
      exact (List.append_nil _).symm
  | cancelGame =>
      simp only [Database.exec] at h
      split at h
      · cases h
      · obtain rfl := Except.ok.inj h
        exact (List.append_nil _).symm

/-- Legs are only added. -/
theorem leaves_extends (answer : ℕ → Answer) (call : Books.Prog) (db : Database) :
    db.transactions <+: (leaves answer call db db 0).transactions :=
  Library.Prog.alone_keeps (I := fun db' => db.transactions <+: db'.transactions)
    (fun _ _ _ _ h hs => hs.trans ⟨_, (exec_transactions h).symm⟩) call.executes_any
    List.prefix_rfl List.prefix_rfl

/-- An operation deletes no posting. -/
theorem Backed.operation_extends {db : Database} (h : Backed db) (op : Operation) :
    db.transactions <+: (op.exec db).transactions := by
  cases op with
  | reserve | release => exact leaves_extends _ _ _
  | consume params randomUUID =>
      cases hr : (consumeReservations params randomUUID db).1 with
      | ok result =>
          obtain ⟨pairs, hpairs, -⟩ :=
            (consumeTransaction_ok h.stakes h.custody (transaction_ok hr)).legs
          rw [Operation.exec, consumeReservations, hpairs]
          exact List.prefix_append _ _
      | error e =>
          rw [Operation.exec, consumeReservations, transaction_error hr]

/-- Nor does a run. -/
theorem Backed.after_extends {db : Database} (h : Backed db) (ops : List Operation) :
    db.transactions <+: (Db.after ops db).transactions := by
  induction ops generalizing db with
  | nil => exact List.prefix_rfl
  | cons op ops ih => exact (h.operation_extends op).trans (ih (h.operation op))

/-! ### Exact and atomic -/

/-- A call that goes through takes the reservations of the tier, each player's from the player,
into the escrow. -/
structure Exact (params : ConsumeParams) (rows : List StakeReservation) (db : Database)
    (result : Consumed) (db' : Database) : Prop where
  consumed : result.consumed = rows.length
  total : result.totalLamports = stakesOf rows
  expected : ∀ expected, params.expectedLamports = some expected → expected = stakesOf rows
  players : UniqueKeys StakeReservation.userId rows
  escrow : rows ≠ [] → ∃ a a',
    db.poolAccounts.get (.escrow params.escrowAccountId) = some a ∧
    db'.poolAccounts.get (.escrow params.escrowAccountId) = some a' ∧
    a'.balanceLamports = a.balanceLamports + stakesOf rows
  custody : ∀ row ∈ rows, ∃ a a', db.poolAccounts.get (.custody row.userId) = some a ∧
    db'.poolAccounts.get (.custody row.userId) = some a' ∧
    a'.balanceLamports = a.balanceLamports - row.lamports ∧
    a'.reservedLamports = a.reservedLamports - row.lamports
  others : ∀ name, (name = .escrow params.escrowAccountId → rows = []) →
    (∀ row ∈ rows, name ≠ .custody row.userId) →
    db'.poolAccounts.get name = db.poolAccounts.get name
  legs : ∃ pairs, db'.transactions = db.transactions ++ pairs.flatten ∧
    List.Forall₂ (EntryFeePair params) rows pairs
  reservations : db'.stakeReservations = db.stakeReservations.filter (·.tierId ≠ params.tierId)
  rest : db'.withdrawals = db.withdrawals ∧ db'.games = db.games

/-- Each stake moves from its player to the escrow, exactly. -/
theorem Consumes.exact {params : ConsumeParams} {db db' : Database} {result : Consumed}
    (hdb : Backed db)
    (h : Consumes params (reservationsForTier db params.tierId) db result db') :
    Exact params (reservationsForTier db params.tierId) db result db' where
  consumed := h.result ▸ rfl
  total := h.result ▸ rfl
  expected := h.expected
  players := reservationsForTier_users _ hdb.stakes
  escrow hrows := by
    obtain ⟨a, ha⟩ := Option.isSome_iff_exists.mp (h.escrow hrows)
    obtain ⟨a', ha', hbalance, -⟩ := h.credited a ha
    exact ⟨a, a', ha, ha', hbalance⟩
  custody row hrow := by
    obtain ⟨a, ha, -, hafter⟩ := h.taken row hrow
    have hcovers := hdb.covers (List.mem_filter.mp hrow).1 ha
    refine ⟨a, _, ha, hafter, rfl, ?_⟩
    have := (@released_bounds a.reservedLamports row.lamports row.pos).2.2.1
    simp only [debited]
    omega
  others := h.others
  legs := h.legs
  reservations := h.reservations
  rest := h.rest

/-- Each stake taken leaves its key. -/
theorem Consumes.keyed {params : ConsumeParams} {rows : List StakeReservation} {db db' : Database}
    {result : Consumed} (h : Consumes params rows db result db') {row : StakeReservation}
    (hrow : row ∈ rows) :
    ∃ p ∈ db'.transactions, p.idempotencyKey = .stake params.gameId row.userId true := by
  obtain ⟨pairs, hpairs, hlegs⟩ := h.legs
  obtain ⟨i, hi, rfl⟩ := List.mem_iff_getElem.mp hrow
  have hi' : i < pairs.length := hlegs.length_eq ▸ hi
  obtain ⟨entryGroupId, custodyAfter, escrowAfter, hpair⟩ := List.Forall₂.get hlegs hi hi'
  let side : Side := ⟨.stake params.gameId rows[i].userId true, .escrow params.escrowAccountId,
    escrowAfter, rows[i].userId⟩
  refine ⟨side.posting .entryFee .credit rows[i].lamports entryGroupId params.gameId, ?_, rfl⟩
  rw [hpairs]
  refine List.mem_append_right _ (List.mem_flatten.mpr ⟨_, List.getElem_mem hi', ?_⟩)
  rw [List.get_eq_getElem, List.get_eq_getElem] at hpair
  rw [hpair, transfer]
  exact List.mem_cons_of_mem _ List.mem_cons_self

/-- A player once charged for a game is not charged for it again. -/
theorem Consumes.once {params params' : ConsumeParams} {rows rows' : List StakeReservation}
    {db db' db₁ db₁' : Database} {result result' : Consumed}
    (h : Consumes params rows db result db')
    (hlater : db'.transactions <+: db₁.transactions) (hgame : params'.gameId = params.gameId)
    (h' : Consumes params' rows' db₁ result' db₁') {row : StakeReservation} (hrow : row ∈ rows) :
    db₁'.poolAccounts.get (.custody row.userId) = db₁.poolAccounts.get (.custody row.userId) := by
  obtain ⟨p, hp, hkey⟩ := h.keyed hrow
  refine h'.others (.custody row.userId) nofun fun row' hrow' e => ?_
  have huser : row.userId = row'.userId := PoolAccountName.custody.inj e
  refine h'.fresh row' hrow' true p (hlater.subset hp) ?_
  rw [hkey, hgame, huser]

/-- **Consuming reservations is exact and atomic.**  After any operations on reservations: a call
whose reservations do not sum to what is expected throws, a call that throws changes nothing, and
one that goes through takes exactly the reservations of the tier.  However it goes on, no call for
the same game takes anything from one of these players again. -/
theorem consumeReservations_exact {db₀ : Database} (h₀ : Opening db₀) (ops : List Operation)
    (params : ConsumeParams) (randomUUID : ℕ → ℕ) {db : Database} (hdb : db = after ops db₀)
    {rows : List StakeReservation} (hrows : rows = reservationsForTier db params.tierId) :
    (∀ expected, params.expectedLamports = some expected → expected ≠ stakesOf rows →
      (consumeReservations params randomUUID db).1
        = .error (.stakeMismatch params.tierId (stakesOf rows) expected)) ∧
    (∀ e, (consumeReservations params randomUUID db).1 = .error e →
      (consumeReservations params randomUUID db).2 = db) ∧
    ∀ result, (consumeReservations params randomUUID db).1 = .ok result →
      Exact params rows db result (consumeReservations params randomUUID db).2 ∧
      ∀ ops' params' randomUUID' result',
        let db₁ := after ops' (consumeReservations params randomUUID db).2
        params'.gameId = params.gameId →
        (consumeReservations params' randomUUID' db₁).1 = .ok result' →
        ∀ row ∈ rows, (consumeReservations params' randomUUID' db₁).2.poolAccounts.get
          (.custody row.userId) = db₁.poolAccounts.get (.custody row.userId) := by
  subst hdb hrows
  have hbacked := h₀.backed.after ops
  refine ⟨?_, fun e => transaction_error, ?_⟩
  · intro expected he hne
    rw [consumeReservations, transaction, consumeTransaction]
    dsimp only
    rw [if_pos (by simpa [he] using hne.symm), he]
    rfl
  · intro result hok
    have hconsumes := consumeTransaction_ok hbacked.stakes hbacked.custody (transaction_ok hok)
    refine ⟨hconsumes.exact hbacked, fun ops' params' randomUUID' result' hgame hok' row hrow => ?_⟩
    have hbacked' : Backed (consumeReservations params randomUUID (after ops db₀)).2 :=
      hbacked.consumes hconsumes
    have hbacked₁ := hbacked'.after ops'
    exact hconsumes.once (hbacked'.after_extends ops') hgame
      (consumeTransaction_ok hbacked₁.stakes hbacked₁.custody (transaction_ok hok')) hrow

/-- Two players with custody accounts, and the escrow of a game. -/
def twoPlayers : Database where
  poolAccounts := ((Table.empty.upd (.custody 1) ⟨.userCustody, 500, 0, 3⟩).upd (.custody 2)
    ⟨.userCustody, 300, 50, 1⟩).upd (.escrow 9) ⟨.gameEscrow, 0, 0, 0⟩
  transactions := []
  stakeReservations := []
  withdrawals := []
  games := .empty

theorem twoPlayers_opening : Opening twoPlayers where
  stakes := rfl
  custody userId a ha := by
    simp only [twoPlayers, Table.get_upd, Table.get_empty, reduceCtorEq, ↓reduceIte,
      PoolAccountName.custody.injEq] at ha
    split_ifs at ha
    · obtain rfl := Option.some.inj ha
      decide
    · obtain rfl := Option.some.inj ha
      decide

/-- Both stake the room. -/
def bothStake : Database :=
  after [.reserve 1 "bronze" 100, .reserve 2 "bronze" 100] twoPlayers

/-- The match that the two players start. -/
def startsMatch : ConsumeParams := ⟨"bronze", 9, 9, some 200⟩

/-- The match starts with their stakes, and not with more. -/
theorem consumeReservations_exact_two :
    (consumeReservations startsMatch id bothStake).1 = .ok ⟨2, 200⟩ ∧
      Exact startsMatch (reservationsForTier bothStake "bronze") bothStake ⟨2, 200⟩
        (consumeReservations startsMatch id bothStake).2 ∧
      (consumeReservations { startsMatch with expectedLamports := some 300 } id bothStake).1 =
        .error (.stakeMismatch "bronze" 200 300) := by
  have hok : (consumeReservations startsMatch id bothStake).1 = .ok ⟨2, 200⟩ := by
    decide
  have hstakes : stakesOf (reservationsForTier bothStake "bronze") = 200 := by decide
  refine ⟨hok, ((consumeReservations_exact twoPlayers_opening _ startsMatch id rfl rfl).2.2 _
    hok).1, ?_⟩
  refine ((consumeReservations_exact twoPlayers_opening _
    { startsMatch with expectedLamports := some 300 } id rfl rfl).1 300 rfl (by decide)).trans ?_
  exact congrArg (fun n => Except.error (DbError.stakeMismatch "bronze" n 300)) hstakes

end SnakeArena.Db
