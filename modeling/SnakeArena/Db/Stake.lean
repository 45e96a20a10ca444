import SnakeArena.Books.Reservations

/-!
# Db — consuming reservations (`stake.ts`)

`consumeReservations` with what it returns and throws, for a call that nobody runs beside.  Its
statements are those of the call of the books, which it leaves the same database as
(`consumeReservations_leaves`).

The loop over the reservations skips a player without an account and stops at one whose balance
is short, and a repeated stage meets the unique key of the stakes it took.  `Consumes` is what a
call that goes through does, where the reservations are of players with accounts.
-/

namespace SnakeArena.Db
open SnakeArena.Library SnakeArena.Books Database

/-! ### The call -/

/-- `prisma.$transaction`: what throws is rolled back. -/
def transaction {σ ε α : Type} (tx : σ → Except ε (α × σ)) (s : σ) : Except ε α × σ :=
  match tx s with
  | .ok (a, s') => (.ok a, s')
  | .error e => (.error e, s)

theorem transaction_error {σ ε α : Type} {tx : σ → Except ε (α × σ)} {s : σ} {e : ε}
    (h : (transaction tx s).1 = .error e) : (transaction tx s).2 = s := by
  unfold transaction at h ⊢
  split
  · next hs => simp [hs] at h
  · rfl

theorem transaction_ok {σ ε α : Type} {tx : σ → Except ε (α × σ)} {s : σ} {a : α}
    (h : (transaction tx s).1 = .ok a) : tx s = .ok (a, (transaction tx s).2) := by
  unfold transaction at h ⊢
  split
  · next hs =>
      simp only [hs, Except.ok.injEq] at h
      rw [hs, h]
  · next hs => simp [hs] at h

/-- What `stake.ts` and `refund.ts` throw. -/
inductive DbError where
  /-- The staked total did not match the field about to play. -/
  | stakeMismatch (tierId : String) (staked expected : ℤ)
  | stakeExceedsBalance (userId : ℕ) (lamports balance : ℤ)
  | gameNotFound (gameId : ℕ)
  | gameAlreadySettled (gameId : ℕ)
  | refundShortfall (gameId : ℕ) (owed available : ℤ)
  | write (e : WriteError)
  /-- Of a callback. -/
  | callback (message : String)
deriving DecidableEq

def DbError.message : DbError → String
  | .stakeMismatch tierId staked expected =>
      s!"Staked total for {tierId} is {staked} lamports but the queued field is worth {expected}"
  | .stakeExceedsBalance userId lamports balance =>
      s!"Stake exceeds balance for user {userId}: {lamports} > {balance}"
  | .gameNotFound gameId => s!"Game {gameId} not found"
  | .gameAlreadySettled gameId =>
      s!"Game {gameId} has already been settled; refund would double-spend the pot"
  | .refundShortfall gameId owed available =>
      s!"Escrow for game {gameId} holds {available} lamports but {owed} is owed in refunds"
  | .callback message => message
  | .write .notFound => "P2025"
  | .write .unique => "P2002"

structure ConsumeParams where
  tierId : String
  gameId : ℕ
  /-- The game that the escrow account is of. -/
  escrowAccountId : ℕ
  /-- What the reservations must add up to, when the caller knows. -/
  expectedLamports : Option ℤ

structure Consumed where
  consumed : ℕ
  totalLamports : ℤ
deriving DecidableEq

/-- A statement that fails throws. -/
def write (b : Statement) (db : Database) : Except DbError Database :=
  (Database.exec b db).mapError .write

/-- Two legs summing to zero: the stake leaves the player and enters the pot. -/
def stakeLegs (params : ConsumeParams) (x : Stake) (escrowBalance : ℤ) : List Posting :=
  transfer .entryFee x.row.lamports x.entryGroupId params.gameId
    ⟨.stake params.gameId x.row.userId false, .custody x.row.userId, x.custodyAfter, x.row.userId⟩
    ⟨.stake params.gameId x.row.userId true, .escrow params.escrowAccountId, escrowBalance,
      x.row.userId⟩

/-- The loop over the reservations, with the escrow's balance and the totals so far. -/
def consumeLoop (params : ConsumeParams) (randomUUID : ℕ → ℕ) :
    List StakeReservation → ℤ → Consumed → Database → Except DbError ((ℤ × Consumed) × Database)
  | [], escrowBalance, sum, db => .ok ((escrowBalance, sum), db)
  | row :: rows, escrowBalance, sum, db =>
      match db.poolAccounts.get (.custody row.userId) with
      | none => consumeLoop params randomUUID rows escrowBalance sum db
      | some custody =>
          if custody.balanceLamports < row.lamports then
            .error (.stakeExceedsBalance row.userId row.lamports custody.balanceLamports)
          else do
            let x : Stake := ⟨row, custody, randomUUID sum.consumed⟩
            let db ← write x.update db
            let db ←
              write (.createTransactions (stakeLegs params x (escrowBalance + row.lamports))) db
            consumeLoop params randomUUID rows (escrowBalance + row.lamports)
              ⟨sum.consumed + 1, sum.totalLamports + row.lamports⟩ db

/-- The reservations of a tier. -/
def reservationsForTier (db : Database) (tierId : String) : List StakeReservation :=
  db.stakeReservations.filter (·.tierId = tierId)

def stakesOf (rows : List StakeReservation) : ℤ := (rows.map (·.lamports)).sum

def consumeTransaction (params : ConsumeParams) (randomUUID : ℕ → ℕ) (db : Database) :
    Except DbError (Consumed × Database) :=
  let rows := reservationsForTier db params.tierId
  if params.expectedLamports.any (stakesOf rows ≠ ·) then
    .error (.stakeMismatch params.tierId (stakesOf rows) (params.expectedLamports.getD 0))
  else if rows = [] then .ok (⟨0, 0⟩, db)
  else
    match db.poolAccounts.get (.escrow params.escrowAccountId) with
    | none => .error (.write .notFound)
    | some escrow => do
        let ((escrowBalance, sum), db) ←
          consumeLoop params randomUUID rows escrow.balanceLamports ⟨0, 0⟩ db
        let db ← write (updateEscrow params.escrowAccountId escrow escrowBalance) db
        let db ← write (.deleteReservations params.tierId) db
        .ok (sum, db)

/-- Consumes reservations into a game's escrow, posting the ledger legs. -/
def consumeReservations (params : ConsumeParams) (randomUUID : ℕ → ℕ) (db : Database) :
    Except DbError Consumed × Database :=
  transaction (consumeTransaction params randomUUID) db

/-! ### The call of the books -/

theorem bind_eq_ok {ε α β : Type} {x : Except ε α} {f : α → Except ε β} {b : β} :
    (x >>= f) = .ok b ↔ ∃ a, x = .ok a ∧ f a = .ok b := by
  cases x <;> simp [bind, Except.bind]

theorem write_eq_ok {b : Statement} {db db' : Database} :
    write b db = .ok db' ↔ Database.exec b db = .ok db' := by
  unfold write
  cases Database.exec b db <;> simp [Except.mapError]

theorem write_eq_error {b : Statement} {db : Database} {e : WriteError} :
    write b db = .error (.write e) ↔ Database.exec b db = .error e := by
  unfold write
  cases Database.exec b db <;> simp [Except.mapError]

theorem stakesTotal_snoc (stakes : List Stake) (x : Stake) :
    stakesTotal (stakes ++ [x]) = stakesTotal stakes + x.row.lamports := by
  simp [stakesTotal]

/-- The answers of a call that asks for identifiers alone. -/
def uuids (randomUUID : ℕ → ℕ) (n : ℕ) : Answer := .uuid (randomUUID n)

/-- What a call of the books leaves of the database, alone. -/
def leaves (answer : ℕ → Answer) (call : Books.Prog) (s view : Database) (n : ℕ) : Database :=
  call.alone Database.exec answer s view n

section Alone
variable {answer : ℕ → Answer} {s view : Database} {n : ℕ}

@[simp] theorem leaves_done : leaves answer .done s view n = s := rfl

@[simp] theorem leaves_read (k : Database → Books.Prog) :
    leaves answer (.read k) s view n = leaves answer (k view) s view n := rfl

@[simp] theorem leaves_commit (t : Commit) (k : Books.Prog) :
    leaves answer (.commit t k) s view n = leaves answer k view view n := rfl

@[simp] theorem leaves_findAccount (name : PoolAccountName) (k : Option PoolAccount → Books.Prog) :
    leaves answer (findAccount name k) s view n
      = leaves answer (k (view.poolAccounts.get name)) s view n := rfl

@[simp] theorem leaves_uuid (randomUUID : ℕ → ℕ) (k : ℕ → Books.Prog) :
    leaves (uuids randomUUID) (uuid k) s view n
      = leaves (uuids randomUUID) (k (randomUUID n)) s view (n + 1) := rfl

theorem leaves_run (b : Statement) (k : Books.Prog) :
    leaves answer (.run b k) s view n =
      match Database.exec b view with
      | .ok view => leaves answer k s view n
      | .error _ => s := by
  rw [leaves, Library.Prog.run, Library.Prog.alone]
  cases Database.exec b view <;> rfl

theorem leaves_run_ok {b : Statement} {k : Books.Prog} {view' : Database}
    (h : Database.exec b view = .ok view') :
    leaves answer (.run b k) s view n = leaves answer k s view' n := by
  rw [leaves_run, h]

end Alone

/-- A call of the books that nobody runs beside leaves that. -/
theorem leaves_calls (answer : ℕ → Answer) (request : Request) (db : Database) :
    ∃ acts s', Run calls.processes.Step ⟨db, .empty⟩
        (.start 0 (.call request) :: .resume 0 (answer 0) :: acts) s' ∧
      (∀ a ∈ acts, ∃ c, a = .resume 0 c) ∧ s'.procs.get 0 = none ∧
      s'.store = leaves answer request.program db db 0 := by
  let called : System Database Call := ⟨db, Table.empty.upd 0 (.call request)⟩
  let running : System Database Call :=
    ⟨db, called.procs.upd 0 (.running request.program [] [])⟩
  obtain ⟨acts, s', hrun, hacts, hend, hstore⟩ := Calls.alone_run (C := calls) answer 0
    (s := running) (n := 0) (Table.get_upd_same _ _ _) rfl
  have hstart : calls.processes.Step ⟨db, .empty⟩ (.start 0 (.call request)) called := by
    simp [Processes.Step, Processes.act, calls, Calls.processes, called]
  have hresume : calls.processes.Step called (.resume 0 (answer 0)) running := by
    simp [Processes.Step, Processes.act, calls, Calls.processes, called, running, Calls.resume]
  exact ⟨acts, s', .cons hstart (.cons hresume hrun), hacts, hend, hstore⟩

/-- What follows the loop. -/
def consumeEnd (params : ConsumeParams) (escrow : PoolAccount) (escrowBalance : ℤ)
    (db : Database) : Except DbError Database := do
  let db ← write (updateEscrow params.escrowAccountId escrow escrowBalance) db
  write (.deleteReservations params.tierId) db

theorem consumeStakes_leaves {params : ConsumeParams} {randomUUID : ℕ → ℕ} {escrow : PoolAccount}
    {s : Database} (hescrow : params.escrowAccountId = params.gameId)
    {rows : List StakeReservation} : ∀ {stakes : List Stake} {view : Database},
    leaves (uuids randomUUID) (consumeStakes params.tierId params.gameId escrow stakes rows) s view
      stakes.length =
    match (consumeLoop params randomUUID rows (escrow.balanceLamports + stakesTotal stakes)
      ⟨stakes.length, stakesTotal stakes⟩ view).bind fun x =>
        consumeEnd params escrow x.1.1 x.2 with
    | .ok db => db
    | .error _ => s := by
  induction rows with
  | nil =>
      intro stakes view
      simp only [consumeStakes, consumeLoop, Except.bind, consumeEnd, leaves_run, leaves_commit,
        leaves_done, hescrow]
      cases hu : Database.exec (updateEscrow params.gameId escrow
        (escrow.balanceLamports + stakesTotal stakes)) view with
      | error e => simp only [write_eq_error.mpr hu, bind, Except.bind]
      | ok view' =>
          simp only [write_eq_ok.mpr hu]
          cases hd : Database.exec (.deleteReservations params.tierId) view' with
          | error e => simp only [write_eq_error.mpr hd, bind, Except.bind]
          | ok view'' => simp only [write_eq_ok.mpr hd, bind, Except.bind]
  | cons row rows ih =>
      intro stakes view
      rw [consumeStakes, consumeLoop, leaves_findAccount]
      cases hcustody : view.poolAccounts.get (.custody row.userId) with
      | none => exact ih
      | some custody =>
          dsimp only
          split
          · rfl
          let x : Stake := ⟨row, custody, randomUUID stakes.length⟩
          rw [leaves_uuid, leaves_run]
          cases hu : Database.exec x.update view with
          | error e => simp only [write_eq_error.mpr hu, bind, Except.bind, x]
          | ok view₁ =>
              dsimp only
              have hlegs : x.legs params.gameId
                  (escrow.balanceLamports + stakesTotal stakes + row.lamports)
                  = stakeLegs params x
                    (escrow.balanceLamports + stakesTotal stakes + row.lamports) := by
                rw [stakeLegs, hescrow, Stake.legs]
              rw [leaves_run, hlegs]
              cases hc : Database.exec (.createTransactions (stakeLegs params x
                (escrow.balanceLamports + stakesTotal stakes + row.lamports))) view₁ with
              | error e =>
                  simp only [write_eq_ok.mpr hu, write_eq_error.mpr hc, bind, Except.bind, x]
              | ok view₂ =>
                  have hnext := @ih (stakes ++ [x]) view₂
                  simp only [stakesTotal_snoc, List.length_append, List.length_cons,
                    List.length_nil, zero_add, ← add_assoc] at hnext
                  refine hnext.trans ?_
                  simp only [write_eq_ok.mpr hu, write_eq_ok.mpr hc, bind, Except.bind, x]

/-- The call leaves what the call of the books leaves alone. -/
theorem consumeReservations_leaves {params : ConsumeParams} (randomUUID : ℕ → ℕ) (db : Database)
    (hescrow : params.escrowAccountId = params.gameId) :
    leaves (uuids randomUUID)
        (Books.consumeReservations params.tierId params.gameId params.expectedLamports) db db 0
      = (consumeReservations params randomUUID db).2 := by
  rw [Books.consumeReservations, leaves_read, consumeReservations, transaction, consumeTransaction]
  delta reservationsForTier stakesOf
  dsimp only
  by_cases hexpected : params.expectedLamports.any (((db.stakeReservations.filter
    (·.tierId = params.tierId)).map (·.lamports)).sum ≠ ·) = true
  · rw [if_pos hexpected, if_pos hexpected]
    rfl
  rw [if_neg hexpected, if_neg hexpected]
  by_cases hempty : db.stakeReservations.filter (·.tierId = params.tierId) = []
  · rw [if_pos hempty, if_pos hempty]
    rfl
  rw [if_neg hempty, if_neg hempty, leaves_findAccount, hescrow]
  cases hget : db.poolAccounts.get (.escrow params.gameId) with
  | none => rfl
  | some escrow =>
      have h := @consumeStakes_leaves params randomUUID escrow db hescrow
        (db.stakeReservations.filter (·.tierId = params.tierId)) [] db
      refine h.trans ?_
      simp only [stakesTotal, List.map_nil, List.sum_nil, add_zero, List.length_nil, consumeEnd,
        hescrow, bind, Except.bind]
      cases consumeLoop params randomUUID (db.stakeReservations.filter (·.tierId = params.tierId))
        escrow.balanceLamports ⟨0, 0⟩ db with
      | error e => rfl
      | ok x =>
          dsimp only
          cases write (updateEscrow params.gameId escrow x.1.1) x.2 with
          | error e => rfl
          | ok db₁ =>
              dsimp only
              cases write (.deleteReservations params.tierId) db₁ with
              | error e => rfl
              | ok db₂ => rfl

/-! ### What the loop takes -/

theorem createTransactions_eq_ok {rows : List Posting} {db db' : Database} :
    Database.exec (.createTransactions rows) db = .ok db' ↔
      (∀ p ∈ rows, ∀ q ∈ db.transactions, q.idempotencyKey ≠ p.idempotencyKey) ∧
        db' = { db with transactions := db.transactions ++ rows } := by
  simp only [Database.exec]
  split
  · next h =>
      simp only [List.any_eq_true, decide_eq_true_iff] at h
      obtain ⟨p, hp, q, hq, e⟩ := h
      exact ⟨by rintro ⟨⟩, fun h => absurd e (h.1 p hp q hq)⟩
  · next h =>
      simp only [List.any_eq_true, decide_eq_true_iff, not_exists, not_and] at h
      constructor
      · intro e
        exact ⟨h, (Except.ok.inj e).symm⟩
      · rintro ⟨-, rfl⟩
        rfl

/-- A custody account after its stake was taken. -/
def debited (row : StakeReservation) (a : PoolAccount) : PoolAccount where
  kind := a.kind
  balanceLamports := a.balanceLamports - row.lamports
  reservedLamports := released a.reservedLamports row.lamports
  version := a.version + 1

/-- Two legs: the stake leaves the player's custody, and the escrow is credited with it in the
player's name. -/
def EntryFeePair (params : ConsumeParams) (row : StakeReservation) (legs : List Posting) : Prop :=
  ∃ entryGroupId custodyAfter escrowAfter,
    legs = transfer .entryFee row.lamports entryGroupId params.gameId
      ⟨.stake params.gameId row.userId false, .custody row.userId, custodyAfter, row.userId⟩
      ⟨.stake params.gameId row.userId true, .escrow params.escrowAccountId, escrowAfter,
        row.userId⟩

/-- What the loop did, from `db` to `r`. -/
structure Takes (params : ConsumeParams) (rows : List StakeReservation) (escrowBalance : ℤ)
    (sum : Consumed) (db : Database) (r : (ℤ × Consumed) × Database) : Prop where
  escrowBalance : r.1.1 = escrowBalance + stakesOf rows
  sum : r.1.2 = ⟨sum.consumed + rows.length, sum.totalLamports + stakesOf rows⟩
  taken : ∀ row ∈ rows, ∃ a, db.poolAccounts.get (.custody row.userId) = some a ∧
    row.lamports ≤ a.balanceLamports ∧
    r.2.poolAccounts.get (.custody row.userId) = some (debited row a)
  others : ∀ name, (∀ row ∈ rows, name ≠ .custody row.userId) →
    r.2.poolAccounts.get name = db.poolAccounts.get name
  legs : ∃ pairs, r.2.transactions = db.transactions ++ pairs.flatten ∧
    List.Forall₂ (EntryFeePair params) rows pairs
  fresh : ∀ row ∈ rows, ∀ escrow, ∀ p ∈ db.transactions,
    p.idempotencyKey ≠ .stake params.gameId row.userId escrow
  rest : r.2.stakeReservations = db.stakeReservations ∧ r.2.withdrawals = db.withdrawals ∧
    r.2.games = db.games

theorem consumeLoop_ok {params : ConsumeParams} {randomUUID : ℕ → ℕ}
    {rows : List StakeReservation} : ∀ {escrowBalance : ℤ} {sum : Consumed} {db : Database}
      {r : (ℤ × Consumed) × Database}, UniqueKeys StakeReservation.userId rows →
    (∀ row ∈ rows, db.poolAccounts.get (.custody row.userId) ≠ none) →
    consumeLoop params randomUUID rows escrowBalance sum db = .ok r →
    Takes params rows escrowBalance sum db r := by
  induction rows with
  | nil =>
      intro escrowBalance sum db r _ _ h
      obtain rfl := Except.ok.inj h
      exact ⟨by simp [stakesOf], by simp [stakesOf], nofun, fun _ _ => rfl, ⟨[], by simp, .nil⟩,
        nofun, rfl, rfl, rfl⟩
  | cons row rows ih =>
      intro escrowBalance sum db r hunique hpresent h
      obtain ⟨a, ha⟩ := Option.ne_none_iff_exists'.mp (hpresent row List.mem_cons_self)
      have hothers : ∀ row' ∈ rows, row'.userId ≠ row.userId := hunique.tail
      simp only [consumeLoop, ha] at h
      split at h
      · cases h
      next hcovered =>
      simp only [bind_eq_ok, write_eq_ok] at h
      obtain ⟨db₁, hupdate, db₂, hcreate, hrest⟩ := h
      obtain ⟨a', ha', -, rfl⟩ := writes hupdate
      obtain rfl := Option.some.inj (ha.symm.trans ha')
      obtain ⟨hfresh, rfl⟩ := createTransactions_eq_ok.mp hcreate
      have hget : ∀ name, name ≠ .custody row.userId →
          (db.poolAccounts.upd (.custody row.userId) (debited row a)).get name
            = db.poolAccounts.get name := fun name hne => Table.get_upd_other hne
      have hne : ∀ row' ∈ rows, PoolAccountName.custody row'.userId ≠ .custody row.userId :=
        fun row' hrow' e => hothers row' hrow' (PoolAccountName.custody.inj e)
      have hrows := ih (List.nodup_cons.mp hunique).2 (fun row' hrow' => by
        show (db.poolAccounts.upd _ (debited row a)).get _ ≠ none
        rw [hget _ (hne row' hrow')]
        exact hpresent row' (List.mem_cons_of_mem _ hrow')) hrest
      refine ⟨?_, ?_, ?_, ?_, ?_, ?_, hrows.rest⟩
      · rw [hrows.escrowBalance, stakesOf, stakesOf, List.map_cons, List.sum_cons, add_assoc]
      · rw [hrows.sum, stakesOf, stakesOf, List.map_cons, List.sum_cons, List.length_cons,
          add_assoc, add_assoc, add_comm 1]
      · intro row' hrow'
        rcases List.mem_cons.mp hrow' with rfl | hrow'
        · refine ⟨a, ha, not_lt.mp hcovered, ?_⟩
          rw [hrows.others _ fun row' hrow' => (hne row' hrow').symm]
          exact Table.get_upd_same _ _ _
        · obtain ⟨a', ha', hle, hafter⟩ := hrows.taken row' hrow'
          exact ⟨a', (hget _ (hne row' hrow')).symm.trans ha', hle, hafter⟩
      · intro name hname
        rw [hrows.others name fun row' hrow' => hname row' (List.mem_cons_of_mem _ hrow')]
        exact hget name (hname row List.mem_cons_self)
      · obtain ⟨pairs, hpairs, hlegs⟩ := hrows.legs
        let x : Stake := ⟨row, a, randomUUID sum.consumed⟩
        refine ⟨stakeLegs params x (escrowBalance + row.lamports) :: pairs, ?_,
          .cons ⟨x.entryGroupId, x.custodyAfter, _, rfl⟩ hlegs⟩
        rw [hpairs, List.flatten_cons, ← List.append_assoc]
      · intro row' hrow' escrow p hp
        rcases List.mem_cons.mp hrow' with rfl | hrow'
        · cases escrow with
          | false => exact hfresh _ List.mem_cons_self p hp
          | true => exact hfresh _ (List.mem_cons_of_mem _ List.mem_cons_self) p hp
        · exact hrows.fresh row' hrow' escrow p (List.mem_append_left _ hp)

/-! ### What the call does -/

/-- A call that goes through, from `db` to `db'`. -/
structure Consumes (params : ConsumeParams) (rows : List StakeReservation) (db : Database)
    (result : Consumed) (db' : Database) : Prop where
  result : result = ⟨rows.length, stakesOf rows⟩
  expected : ∀ expected, params.expectedLamports = some expected → expected = stakesOf rows
  escrow : rows ≠ [] → (db.poolAccounts.get (.escrow params.escrowAccountId)).isSome = true
  credited : ∀ a, db.poolAccounts.get (.escrow params.escrowAccountId) = some a →
    ∃ a', db'.poolAccounts.get (.escrow params.escrowAccountId) = some a' ∧
      a'.balanceLamports = a.balanceLamports + stakesOf rows ∧
      a'.reservedLamports = a.reservedLamports
  taken : ∀ row ∈ rows, ∃ a, db.poolAccounts.get (.custody row.userId) = some a ∧
    row.lamports ≤ a.balanceLamports ∧
    db'.poolAccounts.get (.custody row.userId) = some (debited row a)
  others : ∀ name, (name = .escrow params.escrowAccountId → rows = []) →
    (∀ row ∈ rows, name ≠ .custody row.userId) →
    db'.poolAccounts.get name = db.poolAccounts.get name
  legs : ∃ pairs, db'.transactions = db.transactions ++ pairs.flatten ∧
    List.Forall₂ (EntryFeePair params) rows pairs
  fresh : ∀ row ∈ rows, ∀ escrow, ∀ p ∈ db.transactions,
    p.idempotencyKey ≠ .stake params.gameId row.userId escrow
  reservations : db'.stakeReservations = db.stakeReservations.filter (·.tierId ≠ params.tierId)
  rest : db'.withdrawals = db.withdrawals ∧ db'.games = db.games

/-- The reservations of a tier are of different players. -/
theorem reservationsForTier_users {db : Database} (tierId : String)
    (h : UniqueKeys StakeReservation.key db.stakeReservations) :
    UniqueKeys StakeReservation.userId (reservationsForTier db tierId) := by
  have hkeys : (reservationsForTier db tierId).map StakeReservation.key
      = ((reservationsForTier db tierId).map StakeReservation.userId).map (·, tierId) := by
    rw [List.map_map]
    refine List.map_congr_left fun row hrow => ?_
    have htier : row.tierId = tierId := of_decide_eq_true (List.mem_filter.mp hrow).2
    rw [StakeReservation.key, htier, Function.comp_apply]
  have hnodup : ((reservationsForTier db tierId).map StakeReservation.key).Nodup := h.filter _
  rw [hkeys] at hnodup
  exact hnodup.of_map _

theorem consumeTransaction_ok {params : ConsumeParams} {randomUUID : ℕ → ℕ} {db db' : Database}
    {result : Consumed} (hunique : UniqueKeys StakeReservation.key db.stakeReservations)
    (hpresent : ∀ row ∈ db.stakeReservations, db.poolAccounts.get (.custody row.userId) ≠ none)
    (h : consumeTransaction params randomUUID db = .ok (result, db')) :
    Consumes params (reservationsForTier db params.tierId) db result db' := by
  have husers := reservationsForTier_users params.tierId hunique
  have hmem : ∀ row ∈ reservationsForTier db params.tierId, row ∈ db.stakeReservations :=
    fun row hrow => (List.mem_filter.mp hrow).1
  unfold consumeTransaction at h
  generalize hrows : reservationsForTier db params.tierId = rows at *
  dsimp only at h
  split at h
  · cases h
  next hexpected =>
  have hexpected : ∀ expected, params.expectedLamports = some expected →
      expected = stakesOf rows := by
    intro expected he
    have heq : stakesOf rows = expected := by simpa [he] using hexpected
    exact heq.symm
  split at h
  · next hempty =>
      -- no reservation of the tier: nothing is written
      obtain ⟨rfl, rfl⟩ := Prod.mk.inj (Except.ok.inj h)
      subst hempty
      refine ⟨rfl, hexpected, fun h => absurd rfl h, fun a ha => ⟨a, ha, by simp [stakesOf], rfl⟩,
        nofun, fun _ _ _ => rfl, ⟨[], by simp, .nil⟩, nofun, ?_, rfl, rfl⟩
      refine (List.filter_eq_self.mpr fun row hrow => ?_).symm
      have := List.filter_eq_nil_iff.mp hrows row hrow
      simpa using this
  next hsome =>
  split at h
  · cases h
  next escrow hescrow =>
  simp only [bind_eq_ok, write_eq_ok, Except.ok.injEq, Prod.mk.injEq, Prod.exists] at h
  obtain ⟨escrowBalance, sum, db₁, hloop, db₂, hupdate, db₃, hdelete, rfl, rfl⟩ := h
  have htakes := consumeLoop_ok husers (fun row hrow => hpresent row (hmem row hrow)) hloop
  have hkept : db₁.poolAccounts.get (.escrow params.escrowAccountId) = some escrow :=
    (htakes.others (.escrow params.escrowAccountId) fun _ _ => nofun).trans hescrow
  obtain ⟨a, ha, -, rfl⟩ := writes hupdate
  obtain rfl := Option.some.inj (hkept.symm.trans ha)
  obtain rfl := Except.ok.inj hdelete
  have hsum := htakes.sum
  have hbalance := htakes.escrowBalance
  have hne : ∀ row ∈ rows, PoolAccountName.custody row.userId ≠ .escrow params.escrowAccountId :=
    fun _ _ => nofun
  refine ⟨?_, hexpected, fun _ => by rw [hescrow]; rfl, ?_, ?_, ?_, htakes.legs, htakes.fresh, ?_,
    htakes.rest.2⟩
  · simpa using hsum
  · intro a ha
    obtain rfl := Option.some.inj (hescrow.symm.trans ha)
    refine ⟨_, Table.get_upd_same _ _ _, ?_, rfl⟩
    simpa [AccountData.write] using hbalance
  · intro row hrow
    obtain ⟨a, ha, hle, hafter⟩ := htakes.taken row hrow
    exact ⟨a, ha, hle, (Table.get_upd_other (hne row hrow)).trans hafter⟩
  · intro name hname hrows'
    exact (Table.get_upd_other fun e => hsome (hname e)).trans (htakes.others name hrows')
  · show List.filter _ db₁.stakeReservations = _
    rw [htakes.rest.1]

end SnakeArena.Db
