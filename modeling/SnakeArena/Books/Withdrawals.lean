import SnakeArena.Books.DoubleEntry
import SnakeArena.Books.Reservations
import SnakeArena.Books.Sound

/-!
# Books — what the withdrawals commit

The calls of the withdrawal service commit entries of withdrawals that are in the table, and
intents, releases and updates of them (`Commit.OfWithdrawal`).  No row leaves the table, and
none changes its player or its amount, so what a call read of a row stays true (`Stays`).

`Promises` adds up what a player's withdrawals promise: the gross amount of each, once more when
it was debited, once less when its reservation was given back, and once less when the chain paid
it.  A commit that finds what it `Reserves` promises no more than it takes off what is free
(`Commit.promises`).
-/

namespace SnakeArena.Books
open SnakeArena.Library SnakeArena.Db SnakeArena.Gateway Database
open SnakeArena.Library.Calls (Trusted)

/-! ### Rows stay -/

/-- The withdrawal is in the table, with its player and its amount. -/
def Database.Has (db : Database) (w : Withdrawal) : Prop :=
  ∃ row ∈ db.withdrawals, row.id = w.id ∧ row.userId = w.userId ∧
    row.amountLamports = w.amountLamports

def Stays (db db' : Database) : Prop := ∀ w, db.Has w → db'.Has w

theorem Stays.refl (db : Database) : Stays db db := fun _ => id

theorem Stays.trans (db₁ db₂ db₃ : Database) (h : Stays db₁ db₂) (h' : Stays db₂ db₃) :
    Stays db₁ db₃ := fun w hw => h' w (h w hw)

theorem Stays.of_eq {db db' : Database} (h : db'.withdrawals = db.withdrawals) : Stays db db' :=
  fun w hw => by rwa [Database.Has, h]

theorem Database.Has.of_mem {db : Database} {w : Withdrawal} (h : w ∈ db.withdrawals) : db.Has w :=
  ⟨w, h, rfl, rfl, rfl⟩

section Stays
variable {db db' : Database}

/-- Only two statements write the table. -/
theorem exec_withdrawals {b : Statement} (h : exec b db = .ok db') :
    db'.withdrawals = db.withdrawals ∨
      (∃ row, b = .createWithdrawal row ∧ db'.withdrawals = db.withdrawals ++ [row] ∧
        db.withdrawal row.id = none) ∨
      ∃ id data, b = .updateWithdrawal id data ∧
        db'.withdrawals = db.withdrawals.map fun w => if w.id = id then data.write w else w := by
  have hw := writes h
  cases b with
  | updateAccount =>
      obtain ⟨_, -, -, rfl⟩ := hw
      exact .inl rfl
  | setReserved =>
      obtain ⟨_, -, rfl⟩ := hw
      exact .inl rfl
  | createAccount =>
      obtain ⟨-, rfl⟩ := hw
      exact .inl rfl
  | createTransactions | createReservation | deleteReservation =>
      simp only [exec] at h
      split_ifs at h
      obtain rfl := Except.ok.inj h
      exact .inl rfl
  | deleteReservations =>
      obtain rfl := Except.ok.inj h
      exact .inl rfl
  | cancelGame =>
      simp only [exec] at h
      split at h
      · cases h
      · obtain rfl := Except.ok.inj h
        exact .inl rfl
  | createWithdrawal row =>
      simp only [exec] at h
      split at h
      · cases h
      next hnone =>
          obtain rfl := Except.ok.inj h
          exact .inr (.inl ⟨row, rfl, rfl, by simpa using hnone⟩)
  | updateWithdrawal id data =>
      simp only [exec] at h
      split_ifs at h
      obtain rfl := Except.ok.inj h
      exact .inr (.inr ⟨id, data, rfl, rfl⟩)

/-- No statement takes a withdrawal's row away, or changes whose it is and of how much. -/
theorem exec_stays {b : Statement} (h : exec b db = .ok db') : Stays db db' := by
  rintro w ⟨row, hrow, hsame⟩
  rcases exec_withdrawals h with heq | ⟨new, -, heq, -⟩ | ⟨id, data, -, heq⟩
  · exact ⟨row, heq ▸ hrow, hsame⟩
  · exact ⟨row, heq ▸ List.mem_append_left _ hrow, hsame⟩
  · refine ⟨_, heq ▸ List.mem_map_of_mem hrow, ?_⟩
    split
    · exact hsame
    · exact hsame

/-- Nor does a commit. -/
theorem runAll_stays {pending : List Statement} : ∀ {db db' : Database},
    runAll exec pending db = .ok db' → Stays db db' := by
  induction pending with
  | nil =>
      intro db db' h
      exact Except.ok.inj h ▸ Stays.refl db
  | cons b pending ih =>
      intro db db' h
      obtain ⟨u, hu, hrest⟩ := runAll_cons.mp h
      exact (exec_stays hu).trans _ _ _ (ih hrest)

end Stays

/-! ### What the calls commit -/

/-- The calls of the withdrawal service. -/
def Request.ofWithdrawal : Request → Bool
  | .createWithdrawalIntent .. | .confirmWithdrawal .. | .expireStaleWithdrawals _ => true
  | _ => false

def Commit.OfWithdrawal (db : Database) : Commit → Prop
  | .createAccount _ | .intent _ _ | .updateWithdrawal _ _ => True
  | .entry params _ _ => ∃ w, params = withdrawalEntry w ∧ db.Has w
  | .unreserve w _ => db.Has w
  | _ => False

/-- A commit that is of a withdrawal stays so. -/
theorem Commit.OfWithdrawal.later (db db' : Database) (t : Commit) (hs : Stays db db')
    (h : t.OfWithdrawal db) : t.OfWithdrawal db' := by
  cases t with
  | createAccount | intent | updateWithdrawal => trivial
  | entry =>
      obtain ⟨w, rfl, hw⟩ := h
      exact ⟨w, rfl, hs w hw⟩
  | unreserve w => exact hs w h
  | reserve | release | consume | cancel | refund | settle | adjust => exact h

section Rests
variable {pending : List Statement} {db : Database}

abbrev Rest (prog : Prog) (pending : List Statement) (db : Database) : Prop :=
  Calls.Rests calls Stays (fun db t => t.OfWithdrawal db) prog pending db

theorem rest_done : Rest .done pending db := trivial

/-- A statement more is pending, and what follows goes on as before. -/
theorem rest_run {b : Statement} {k : Prog} (hk : Rest k (pending ++ [b]) db) :
    Rest (.run b k) pending db := ⟨hk, fun _ => trivial⟩

theorem rest_uuid {k : ℕ → Prog} (hk : ∀ id, Rest (k id) pending db) :
    Rest (uuid k) pending db := by
  intro c
  cases c with
  | uuid id => exact hk id
  | wallet | locked | notVisible | verified | unverified => trivial

/-- Whatever account is found by then. -/
theorem rest_findAccount {name : PoolAccountName} {k : Option PoolAccount → Prog}
    (hnone : ∀ db', Stays db db' → Rest (k none) pending db')
    (hsome : ∀ db' a, Stays db db' → Rest (k (some a)) pending db') :
    Rest (findAccount name k) pending db := by
  intro db' hs view _
  dsimp only
  cases view.poolAccounts.get name with
  | none => exact hnone db' hs
  | some a => exact hsome db' a hs

/-- Making sure of an account, in a commit of its own. -/
theorem rest_getOrCreateAccount {name : PoolAccountName} {k : PoolAccount → Prog}
    (hk : ∀ db' a, Stays db db' → Rest (k a) [] db') : Rest (getOrCreateAccount name k) [] db := by
  unfold getOrCreateAccount
  extract_lets findOrThrow
  have hfind : ∀ db', Stays db db' → Rest findOrThrow [] db' := fun db' hs =>
    rest_findAccount (fun _ _ => rest_done) fun db'' a hs' => hk db'' a (hs.trans _ _ _ hs')
  refine rest_findAccount (fun db' hs => ⟨⟨trivial, hfind db' hs⟩, fun e => ?_⟩) hk
  exact hfind db' hs

/-- The legs of the entry, whatever has been posted by then. -/
theorem rest_postLegs {w : Withdrawal} {entryGroupId : ℕ} {k alreadyPosted : Prog}
    {legs : List LedgerLeg} : ∀ {posted : List EntryLeg} {pending : List Statement} {db : Database},
      db.Has w → (∀ db', Stays db db' → Rest k [] db') →
      (∀ db', Stays db db' → Rest alreadyPosted [] db') →
      Rest (postLegs (withdrawalEntry w) entryGroupId k alreadyPosted posted legs) pending db := by
  induction legs with
  | nil => exact fun hw hk _ => ⟨⟨w, rfl, hw⟩, hk _ (Stays.refl _)⟩
  | cons leg legs ih =>
      intro posted pending db hw hk hposted
      refine rest_findAccount (fun _ _ => rest_done) fun db' account hs => ?_
      dsimp only
      split
      · exact rest_done
      · refine rest_run ⟨?_, fun e => ?_⟩
        · exact ih (hs w hw) (fun _ hs' => hk _ (hs.trans _ _ _ hs'))
            fun _ hs' => hposted _ (hs.trans _ _ _ hs')
        · cases e with
          | unique => exact hposted db' hs
          | notFound => exact rest_done

/-- The row of the withdrawal is there when its reservation is given back. -/
theorem rest_releaseReservation {w : Withdrawal} {k : Prog} (hw : db.Has w)
    (hk : ∀ db', Stays db db' → Rest k [] db') : Rest (releaseReservation w k) [] db :=
  rest_findAccount hk fun db' _ hs => rest_run ⟨hs w hw, hk db' hs⟩

/-- A row is written alone. -/
theorem rest_updateWithdrawal {w : Withdrawal} {data : WithdrawalData} {k : Prog}
    (hk : Rest k [] db) : Rest (updateWithdrawal w data k) [] db :=
  rest_run ⟨trivial, hk⟩

/-- A new withdrawal is of no other. -/
theorem rest_createWithdrawalIntent (userId : ℕ) (amount : ℤ) (withdrawalFeeBps : ℕ) :
    Rest (createWithdrawalIntent userId amount withdrawalFeeBps) [] db := by
  unfold createWithdrawalIntent
  split
  · exact rest_done
  intro c
  dsimp only
  split
  · split
    · exact rest_done
    refine rest_findAccount (fun _ _ => rest_done) fun db' custody _ => ?_
    dsimp only
    split
    · exact rest_done
    · exact rest_run (rest_uuid fun id => rest_run ⟨trivial, rest_done⟩)
  · exact rest_done

/-- A confirmation goes on with the row that it read. -/
theorem rest_confirmWithdrawal (userId withdrawalId : ℕ) (signature : String) :
    Rest (confirmWithdrawal userId withdrawalId signature) [] db := by
  intro c
  dsimp only
  split
  · intro db₁ _ view hview
    obtain rfl := Except.ok.inj hview
    dsimp only
    split
    · exact rest_done
    next w hw =>
        have hw : db₁.Has w := .of_mem (List.mem_of_find?_eq_some hw)
        split_ifs
        · exact rest_done
        · exact rest_done
        intro db₂ h₂ view₂ _
        dsimp only
        split
        · exact rest_done
        intro c
        dsimp only
        split
        · exact rest_updateWithdrawal rest_done
        · exact rest_updateWithdrawal (rest_releaseReservation (h₂ w hw) fun _ _ => rest_done)
        · refine rest_getOrCreateAccount fun db₃ _ h₃ => ?_
          refine rest_findAccount (fun _ _ => rest_done) fun db₄ _ h₄ => ?_
          refine rest_findAccount (fun _ _ => rest_done) fun db₅ _ h₅ => ?_
          have hw := h₅ w (h₄ w (h₃ w (h₂ w hw)))
          have hconfirmed : ∀ db', Stays db₅ db' → Rest (releaseReservation w <|
              updateWithdrawal w ⟨.confirmed, some signature, none⟩ .done) [] db' := fun db' hs =>
            rest_releaseReservation (hs w hw) fun _ _ => rest_updateWithdrawal rest_done
          refine rest_uuid fun entryGroupId => ?_
          unfold postEntry
          split
          · exact rest_done
          · exact rest_postLegs hw hconfirmed hconfirmed
        · exact rest_done
  · exact rest_done

/-- The loop goes on with the rows that it read. -/
theorem rest_expireWithdrawals {stale : List Withdrawal} : ∀ {db : Database},
    (∀ w ∈ stale, db.Has w) → Rest (expireWithdrawals stale) [] db := by
  induction stale with
  | nil => exact fun _ => rest_done
  | cons w stale ih =>
      intro db hstale
      refine rest_updateWithdrawal (rest_releaseReservation (hstale w List.mem_cons_self) ?_)
      exact fun db' hs => ih fun w' hw' => hs w' (hstale w' (List.mem_cons_of_mem _ hw'))

/-- **What the withdrawals commit.** -/
theorem rest_program {request : Request} (h : request.ofWithdrawal = true) (db : Database) :
    Rest request.program [] db := by
  cases request with
  | createWithdrawalIntent userId amount feeBps =>
      exact rest_createWithdrawalIntent userId amount feeBps
  | confirmWithdrawal userId withdrawalId signature =>
      exact rest_confirmWithdrawal userId withdrawalId signature
  | expireStaleWithdrawals isStale =>
      intro db' _ view hview
      obtain rfl := Except.ok.inj hview
      exact rest_expireWithdrawals fun w hw => .of_mem (List.mem_filter.mp hw).1
  | createAccount | postEntry | reserveEntryFee | releaseEntryFee | consumeReservations
  | cancelGameAndRefund | postSettlementLedger | adjustBalance => cases h

end Rests

/-! ### What the withdrawals promise -/

/-- The debit of a withdrawal is in the ledger. -/
def Database.debited (db : Database) (id : ℕ) : Bool :=
  db.transactions.any fun p => p.idempotencyKey = .withdrawal id 0

/-- A player's balance, less what it reserves. -/
def Database.free (db : Database) (userId : ℕ) : ℤ :=
  db.balance (.custody userId) - db.reserved userId

/-- How often a withdrawal is promised. -/
def Database.owes (db : Database) (released landed : List ℕ) (id : ℕ) : ℤ :=
  1 + (if db.debited id then 1 else 0) - (if id ∈ released then 1 else 0) -
    if id ∈ landed then 1 else 0

def Withdrawal.promise (owes : ℕ → ℤ) (userId : ℕ) (w : Withdrawal) : ℤ :=
  if w.userId = userId then w.amountLamports * owes w.id else 0

/-- What a player's withdrawals promise, when the reservations of `released` were given back and
the chain paid `landed`. -/
def Database.promised (db : Database) (released landed : List ℕ) (userId : ℕ) : ℤ :=
  (db.withdrawals.map (Withdrawal.promise (db.owes released landed) userId)).sum

/-- What was debited, released or paid is a withdrawal of the table, and what was released and
paid was debited. -/
structure Promises (db : Database) (released landed : List ℕ) : Prop where
  rows : Rows db
  known : ∀ id, db.debited id = true ∨ id ∈ released ∨ id ∈ landed →
    ∃ row ∈ db.withdrawals, row.id = id
  settled : ∀ id ∈ released, id ∈ landed → db.debited id = true

/-- What a commit has to find. -/
def Commit.Reserves (db : Database) (released landed : List ℕ) : Commit → Prop
  | .intent row custody => db.reserved row.userId ≤ custody.reservedLamports
  | .unreserve w custody =>
      db.reserved w.userId ≤ custody.reservedLamports ∧ w.id ∉ released ∧
        (w.id ∈ landed → db.debited w.id = true)
  | _ => True

instance (db : Database) (released landed : List ℕ) (t : Commit) :
    Decidable (t.Reserves db released landed) := by
  unfold Commit.Reserves
  rcases t <;> dsimp only <;> infer_instance

/-- The withdrawal whose reservation the commit gives back. -/
def Commit.gives (t : Commit) : List ℕ := (t.frees.map (·.id)).toList

section Promises
variable {db view : Database} {released landed : List ℕ} {userId : ℕ}

/-- What is promised to a player is never negative. -/
theorem Promises.promised_nonneg (h : Promises db released landed) :
    0 ≤ db.promised released landed userId := by
  refine List.sum_nonneg fun x hx => ?_
  obtain ⟨w, -, rfl⟩ := List.mem_map.mp hx
  unfold Withdrawal.promise
  split
  · refine mul_nonneg w.pos.le ?_
    have hsettled := h.settled w.id
    unfold Database.owes
    split_ifs with hdebited hreleased hlanded <;>
      first | omega | exact absurd (hsettled ‹_› ‹_›) ‹_›
  · exact le_rfl

/-- A withdrawal is promised more often, or less. -/
theorem promised_change (userId : ℕ) (hrows : Rows db) {w : Withdrawal} (hw : db.Has w)
    {owes owes' : ℕ → ℤ}
    {n : ℤ} (hthis : owes' w.id = owes w.id + n) (hothers : ∀ id ≠ w.id, owes' id = owes id) :
    (db.withdrawals.map (Withdrawal.promise owes' userId)).sum =
      (db.withdrawals.map (Withdrawal.promise owes userId)).sum +
        single w.userId (w.amountLamports * n) userId := by
  obtain ⟨row, hrow, hid, huser, hamount⟩ := hw
  have hsum := sum_change (Withdrawal.promise owes userId) (Withdrawal.promise owes' userId)
    hrows.withdrawals hrow fun y _ hy => by simp only [Withdrawal.promise, hothers y.id (hid ▸ hy)]
  have hrow' : row.promise owes' userId =
      row.promise owes userId + single w.userId (w.amountLamports * n) userId := by
    simp only [Withdrawal.promise, single, hid, huser, hamount, hthis]
    split
    · ring
    · ring
  omega

/-- A withdrawal whose reservation is given back is promised once less. -/
theorem owes_give (db : Database) (landed : List ℕ) {id : ℕ} (hnew : id ∉ released) :
    db.owes (released ++ [id]) landed id = db.owes released landed id + -1 ∧
      ∀ id' ≠ id, db.owes (released ++ [id]) landed id' = db.owes released landed id' := by
  refine ⟨?_, fun id' hne => ?_⟩
  · simp only [Database.owes, List.mem_append, hnew, List.mem_singleton, or_true, if_true, if_false]
    omega
  · simp only [Database.owes, List.mem_append, List.mem_singleton, hne, or_false]

/-- A withdrawal that lands is promised once less. -/
theorem owes_land (db : Database) (released : List ℕ) {id : ℕ} (hnew : id ∉ landed) :
    db.owes released (landed ++ [id]) id = db.owes released landed id + -1 ∧
      ∀ id' ≠ id, db.owes released (landed ++ [id]) id' = db.owes released landed id' := by
  refine ⟨?_, fun id' hne => ?_⟩
  · simp only [Database.owes, List.mem_append, hnew, List.mem_singleton, or_true, if_true, if_false]
    omega
  · simp only [Database.owes, List.mem_append, List.mem_singleton, hne, or_false]

/-- The rows are those that they were, and so is what was debited. -/
theorem Promises.of_eq (h : Promises db released landed) (hrows : Rows view)
    (hwithdrawals : view.withdrawals = db.withdrawals)
    (htransactions : view.transactions = db.transactions) : Promises view released landed where
  rows := hrows
  known id := by
    rw [Database.debited, htransactions, hwithdrawals]
    exact h.known id
  settled id := by
    rw [Database.debited, htransactions]
    exact h.settled id

/-- What is promised is read off the withdrawals and the postings. -/
theorem promised_of_eq (hwithdrawals : view.withdrawals = db.withdrawals)
    (htransactions : view.transactions = db.transactions) :
    view.promised released landed userId = db.promised released landed userId := by
  unfold Database.promised Database.owes Database.debited
  rw [hwithdrawals, htransactions]

/-- The accounts and the legs are those that they were. -/
theorem free_of_eq (haccounts : view.poolAccounts = db.poolAccounts) :
    view.free userId = db.free userId := by
  unfold Database.free Database.balance Database.reserved
  rw [haccounts]

/-! ### Entries -/

/-- The postings of an entry move what its legs say. -/
theorem entryPostings_moved {params : PostEntryParams} {entryGroupId : ℕ} {name : PoolAccountName}
    {legs : List EntryLeg} : ∀ {index : ℕ},
      net (legsOf name (entryPostings params entryGroupId index legs)) =
        moved name (legs.map (·.leg)) := by
  induction legs with
  | nil => exact fun {_} => rfl
  | cons x xs ih =>
      intro index
      have hsigned : (x.posting params entryGroupId index).signed = x.leg.delta := rfl
      have hname : (x.posting params entryGroupId index).row.poolAccountId =
        x.leg.poolAccountId := rfl
      rw [entryPostings, List.map_cons, moved_cons, ← List.singleton_append, legsOf_append,
        net_append, ih, legsOf_one, hname]
      split
      · rw [net_cons, net_nil, add_zero, hsigned]
      · rw [net_nil]

/-- Every posting of an entry has a key of the entry. -/
theorem entryPostings_key {params : PostEntryParams} {entryGroupId : ℕ} {legs : List EntryLeg} :
    ∀ {index : ℕ}, ∀ p ∈ entryPostings params entryGroupId index legs,
      ∃ i, p.idempotencyKey = params.idempotencyKey i := by
  induction legs with
  | nil =>
      intro index p hp
      cases hp
  | cons x xs ih =>
      intro index p hp
      obtain rfl | hp := List.mem_cons.mp hp
      · exact ⟨index, rfl⟩
      · exact ih p hp

/-- A withdrawal moves its amount out of its player's custody, fee included. -/
theorem withdrawalEntry_moved (w : Withdrawal) (userId : ℕ) :
    moved (.custody userId) (withdrawalEntry w).legs =
      single w.userId (-w.amountLamports) userId := by
  have hnil : moved (.custody userId) [] = 0 := rfl
  unfold withdrawalEntry
  split_ifs
  · simp [moved_cons, hnil, single, LedgerLeg.delta]
  · simp [moved_cons, hnil, single, LedgerLeg.delta]

/-- The first leg of an entry was not there. -/
theorem entry_new {params : PostEntryParams} {entryGroupId index : ℕ} {x : EntryLeg}
    {xs : List EntryLeg}
    (hrun : runAll exec (entryStatements params entryGroupId index (x :: xs)) db = .ok view) :
    ∀ p ∈ db.transactions, p.idempotencyKey ≠ params.idempotencyKey index := by
  obtain ⟨u, hu, -⟩ := runAll_append.mp hrun
  obtain ⟨v, hupdate, hcreate⟩ := runAll_cons.mp hu
  obtain ⟨_, -, -, rfl⟩ := writes hupdate
  have hcreate := runAll_one.mp hcreate
  simp only [exec] at hcreate
  split at hcreate
  · cases hcreate
  next hnone =>
      have hnone : ∀ p ∈ db.transactions, ¬p.idempotencyKey = params.idempotencyKey index := by
        simpa [EntryLeg.posting] using hnone
      exact hnone

/-- Moving balances writes no withdrawal. -/
theorem money_withdrawals {pending : List Statement} : ∀ {db view : Database},
    (∀ b ∈ pending, b.money = true) → runAll exec pending db = .ok view →
      view.withdrawals = db.withdrawals := by
  induction pending with
  | nil =>
      intro db view _ h
      exact Except.ok.inj h ▸ rfl
  | cons b pending ih =>
      intro db view hmoney h
      obtain ⟨u, hu, hrest⟩ := runAll_cons.mp h
      rw [ih (fun b' hb' => hmoney b' (List.mem_cons_of_mem _ hb')) hrest]
      have hb := hmoney b List.mem_cons_self
      rcases exec_withdrawals hu with heq | ⟨row, rfl, -⟩ | ⟨id, data, rfl, -⟩
      · exact heq
      · cases hb
      · cases hb

/-- What the entry of a withdrawal takes is promised once more. -/
theorem Promises.entry (h : Promises db released landed) {w : Withdrawal} (hw : db.Has w)
    {entryGroupId : ℕ} {legs : List EntryLeg}
    (hlegs : legs.map (·.leg) = (withdrawalEntry w).legs)
    (htrusted : Trusted calls Trust (entryStatements (withdrawalEntry w) entryGroupId 0 legs) db)
    (hrun : runAll exec (entryStatements (withdrawalEntry w) entryGroupId 0 legs) db = .ok view) :
    Promises view released landed ∧ ∀ userId,
      view.free userId + view.promised released landed userId =
        db.free userId + db.promised released landed userId := by
  have hmoney : ∀ b ∈ entryStatements (withdrawalEntry w) entryGroupId 0 legs, b.money = true :=
    entryStatements_money
  have hrows : Rows view := h.rows.run (fun b hb => (Statement.money_idle (hmoney b hb)).2) hrun
  have hwithdrawals := money_withdrawals hmoney hrun
  have hmoves := Moves.idles (fun b hb => (Statement.money_idle (hmoney b hb)).1) hrun
  have hdraft := (Draft.start none 0 db).entry htrusted hrun
  obtain ⟨x, xs, rfl⟩ : ∃ x xs, legs = x :: xs := by
    cases legs with
    | nil => cases hlegs
    | cons x xs => exact ⟨x, xs, rfl⟩
  have hnew : db.debited w.id = false := by
    simpa [Database.debited, withdrawalEntry] using entry_new hrun
  have hdebited : ∀ id, view.debited id = (db.debited id || decide (id = w.id)) := by
    intro id
    have hposted : view.transactions = db.transactions ++
        entryPostings (withdrawalEntry w) entryGroupId 0 (x :: xs) := hdraft.transactions
    rw [Database.debited, hposted, List.any_append, ← Database.debited]
    congr 1
    by_cases e : id = w.id
    · subst e
      simp [entryPostings, EntryLeg.posting, withdrawalEntry]
    · rw [decide_eq_false e, List.any_eq_false]
      intro p hp
      obtain ⟨i, hi⟩ := entryPostings_key p hp
      simp [hi, withdrawalEntry, Ne.symm e]
  have howes : view.owes released landed w.id = db.owes released landed w.id + 1 ∧
      ∀ id ≠ w.id, view.owes released landed id = db.owes released landed id := by
    refine ⟨?_, fun id hne => ?_⟩
    · simp only [Database.owes, hdebited, hnew, decide_true, Bool.or_true, if_true]
      simp only [Bool.false_eq_true, if_false]
      omega
    · simp only [Database.owes, hdebited, hne, decide_false, Bool.or_false]
  refine ⟨⟨hrows, fun id hid => ?_, fun id hreleased hlanded => ?_⟩, fun userId => ?_⟩
  · rw [hwithdrawals]
    by_cases e : id = w.id
    · obtain ⟨row, hrow, hid, -⟩ := hw
      exact ⟨row, hrow, hid.trans e.symm⟩
    · rw [hdebited, decide_eq_false e, Bool.or_false] at hid
      exact h.known id hid
  · rw [hdebited, h.settled id hreleased hlanded, Bool.true_or]
  · have hpromised := promised_change userId h.rows hw howes.1 howes.2
    have hbalance := hdraft.balance (.custody userId) (by rintro ⟨⟩)
    rw [List.nil_append, entryPostings_moved, hlegs, withdrawalEntry_moved] at hbalance
    have hneg : single w.userId (-w.amountLamports) userId =
        -single w.userId (w.amountLamports * 1) userId := by
      unfold single
      split <;> simp
    have hreserved := hmoves.reserved userId
    simp only [Pi.zero_apply] at hreserved
    unfold Database.free Database.promised
    rw [hwithdrawals]
    omega

/-! ### Commits -/

/-- A reservation written. -/
theorem free_write {userId : ℕ} {a : PoolAccount}
    (ha : db.poolAccounts.get (.custody userId) = some a) (a' : PoolAccount)
    (hbalance : a'.balanceLamports = a.balanceLamports) (userId' : ℕ) :
    ({ db with poolAccounts := db.poolAccounts.upd (.custody userId) a' } : Database).free userId' =
      db.free userId' - single userId (a'.reservedLamports - db.reserved userId) userId' := by
  have hreserved := (Moves.custody ha a').reserved userId'
  have hsame : db.reserved userId = a.reservedLamports := by simp [Database.reserved, ha]
  have hbalance : ({ db with poolAccounts := db.poolAccounts.upd (.custody userId) a' } :
      Database).balance (.custody userId') = db.balance (.custody userId') := by
    rw [balance_upd]
    split
    case isTrue e => simp only [Database.balance, e, ha, Option.elim_some, hbalance]
    case isFalse => rfl
  rw [Database.free, hreserved, hbalance, hsame, Database.free, sub_sub]

/-- What is reserved for an intent is what it promises. -/
theorem Promises.intent (h : Promises db released landed) {row : Withdrawal} {custody : PoolAccount}
    (hreserved : db.reserved row.userId ≤ custody.reservedLamports)
    (hrun : runAll exec (Commit.intent row custody).statements db = .ok view) :
    Promises view released landed ∧ ∀ userId,
      view.free userId + view.promised released landed userId ≤
        db.free userId + db.promised released landed userId := by
  have hrows := Commit.rows h.rows hrun
  obtain ⟨u, hu, hrest⟩ := runAll_cons.mp hrun
  have hcreate := runAll_one.mp hrest
  obtain ⟨a, ha, -, rfl⟩ := writes hu
  simp only [exec] at hcreate
  split at hcreate
  · cases hcreate
  next hnone =>
      obtain rfl := Except.ok.inj hcreate
      have hfresh : ∀ y ∈ db.withdrawals, ¬y.id = row.id := by
        simpa [Database.withdrawal] using hnone
      have hunknown : ¬(db.debited row.id = true ∨ row.id ∈ released ∨ row.id ∈ landed) := by
        intro hid
        obtain ⟨y, hy, hid⟩ := h.known _ hid
        exact hfresh y hy hid
      have howes : db.owes released landed row.id = 1 := by
        simp only [not_or] at hunknown
        simp only [Database.owes, hunknown, if_false]
        rfl
      refine ⟨⟨hrows, fun id hid => ?_, h.settled⟩, fun userId => ?_⟩
      · obtain ⟨y, hy, hid⟩ := h.known id hid
        exact ⟨y, List.mem_append_left _ hy, hid⟩
      · have hfree := free_write ha (AccountData.write
          ⟨none, some (custody.reservedLamports + row.amountLamports)⟩ a) rfl userId
        have hpromised : ((db.withdrawals ++ [row]).map
            (Withdrawal.promise (db.owes released landed) userId)).sum =
              (db.withdrawals.map (Withdrawal.promise (db.owes released landed) userId)).sum +
                single row.userId row.amountLamports userId := by
          simp [Withdrawal.promise, howes, single]
        simp only [AccountData.write, Option.getD_some, Option.getD_none] at hfree
        show Database.free { db with poolAccounts := _ } userId + ((db.withdrawals ++ [row]).map
          (Withdrawal.promise (db.owes released landed) userId)).sum ≤ _
        rw [hpromised, Database.promised]
        refine (congrArg (· + _) hfree).le.trans ?_
        dsimp only [single]
        split_ifs <;> omega

/-- A reservation given back is promised once less. -/
theorem Promises.unreserve (h : Promises db released landed) {w : Withdrawal}
    {custody : PoolAccount}
    (hw : db.Has w) (hfinds : (Commit.unreserve w custody).Reserves db released landed)
    (hrun : runAll exec (Commit.unreserve w custody).statements db = .ok view) :
    Promises view (released ++ [w.id]) landed ∧ ∀ userId,
      view.free userId + view.promised (released ++ [w.id]) landed userId ≤
        db.free userId + db.promised released landed userId := by
  obtain ⟨hreserved, hnew, hlanded⟩ := hfinds
  have hrows := Commit.rows h.rows hrun
  obtain ⟨a, ha, rfl⟩ := writes (runAll_one.mp hrun)
  refine ⟨⟨hrows, fun id hid => ?_, fun id hid hpaid => ?_⟩, fun userId => ?_⟩
  · by_cases e : id = w.id
    · obtain ⟨row, hrow, hid, -⟩ := hw
      exact ⟨row, hrow, hid.trans e.symm⟩
    · simp only [List.mem_append, List.mem_singleton, e, or_false] at hid
      exact h.known id hid
  · rcases List.mem_append.mp hid with hid | hid
    · exact h.settled id hid hpaid
    · obtain rfl := List.mem_singleton.mp hid
      exact hlanded hpaid
  · obtain ⟨hthis, hothers⟩ := owes_give db landed hnew
    have hpromised := promised_change userId h.rows hw hthis hothers
    have hfree := free_write ha { a with
      reservedLamports := Books.released custody.reservedLamports w.amountLamports } rfl userId
    have hgiven : custody.reservedLamports - w.amountLamports ≤
        Books.released custody.reservedLamports w.amountLamports := by
      unfold Books.released
      split <;> omega
    refine (congrArg₂ (· + ·) hfree hpromised).le.trans ?_
    dsimp only [single, Database.promised]
    split_ifs <;> omega

/-- The status of a withdrawal is no part of what it promises. -/
theorem Promises.updateWithdrawal (h : Promises db released landed) {id : ℕ} {data : WithdrawalData}
    (hexec : exec (.updateWithdrawal id data) db = .ok view) :
    Promises view released landed ∧ ∀ userId,
      view.free userId + view.promised released landed userId =
        db.free userId + db.promised released landed userId := by
  have hrows := h.rows.exec hexec nofun
  obtain ⟨haccounts, htransactions⟩ := exec_aside rfl hexec
  obtain ⟨data', hwithdrawals⟩ : ∃ data' : WithdrawalData, view.withdrawals =
      db.withdrawals.map fun w => if w.id = id then data'.write w else w := by
    simp only [exec] at hexec
    split_ifs at hexec
    obtain rfl := Except.ok.inj hexec
    exact ⟨data, rfl⟩
  have hdebited : ∀ id, view.debited id = db.debited id := fun id => by
    rw [Database.debited, htransactions, ← Database.debited]
  refine ⟨⟨hrows, fun id' hid => ?_, fun id' hreleased hlanded => ?_⟩, fun userId => ?_⟩
  · rw [hdebited] at hid
    obtain ⟨row, hrow, rfl⟩ := h.known id' hid
    refine ⟨_, hwithdrawals ▸ List.mem_map_of_mem hrow, ?_⟩
    split <;> rfl
  · rw [hdebited]
    exact h.settled id' hreleased hlanded
  · have howes : view.owes released landed = db.owes released landed := by
      funext id'
      rw [Database.owes, hdebited, ← Database.owes]
    have hsame : (Withdrawal.promise (db.owes released landed) userId ∘
        fun w => if w.id = id then data'.write w else w) =
          Withdrawal.promise (db.owes released landed) userId := by
      funext w
      simp only [Function.comp_apply]
      split <;> rfl
    rw [free_of_eq haccounts, Database.promised, howes, hwithdrawals, List.map_map, hsame,
      ← Database.promised]

/-- An account that is created is free of promises, and empty. -/
theorem Promises.createAccount (h : Promises db released landed) {name : PoolAccountName}
    (hexec : exec (.createAccount name) db = .ok view) :
    Promises view released landed ∧ ∀ userId,
      view.free userId + view.promised released landed userId =
        db.free userId + db.promised released landed userId := by
  have hrows := h.rows.exec hexec nofun
  have hreserved := (Moves.idle rfl hexec).reserved
  have hbalance := ((Draft.start none 0 db).createAccount hexec).balance
  obtain ⟨-, rfl⟩ := writes hexec
  refine ⟨h.of_eq hrows rfl rfl, fun userId => ?_⟩
  have hfree := congrArg₂ (· - ·) (hbalance (.custody userId) nofun) (hreserved userId)
  refine (congrArg (· + db.promised released landed userId) hfree).trans ?_
  simp [Database.free, legsOf]

/-- **A commit of a withdrawal promises no more than it takes off what is free.** -/
theorem Commit.promises {t : Commit} {good : ℤ → ℤ → Prop} (h : Promises db released landed)
    (hchecked : t.Checked good) (htrusted : Trusted calls Trust t.statements db)
    (hof : t.OfWithdrawal db) (hfinds : t.Reserves db released landed)
    (hrun : runAll exec t.statements db = .ok view) :
    Promises view (released ++ t.gives) landed ∧ ∀ userId,
      view.free userId + view.promised (released ++ t.gives) landed userId ≤
        db.free userId + db.promised released landed userId := by
  have quiet : t.gives = [] → (Promises view released landed ∧ ∀ userId,
      view.free userId + view.promised released landed userId ≤
        db.free userId + db.promised released landed userId) →
      Promises view (released ++ t.gives) landed ∧ ∀ userId,
        view.free userId + view.promised (released ++ t.gives) landed userId ≤
          db.free userId + db.promised released landed userId := by
    rintro hgives hkept
    rwa [hgives, List.append_nil]
  cases t with
  | createAccount name =>
      obtain ⟨hkept, heq⟩ := h.createAccount (runAll_one.mp hrun)
      exact quiet rfl ⟨hkept, fun userId => (heq userId).le⟩
  | entry params entryGroupId legs =>
      obtain ⟨w, rfl, hw⟩ := hof
      obtain ⟨hkept, heq⟩ := h.entry hw hchecked.1 htrusted hrun
      exact quiet rfl ⟨hkept, fun userId => (heq userId).le⟩
  | intent row custody => exact quiet rfl (h.intent hfinds hrun)
  | unreserve w custody => exact h.unreserve hof hfinds hrun
  | updateWithdrawal w data =>
      obtain ⟨hkept, heq⟩ := h.updateWithdrawal (runAll_one.mp hrun)
      exact quiet rfl ⟨hkept, fun userId => (heq userId).le⟩
  | reserve | release | consume | cancel | refund | settle | adjust => exact hof.elim

end Promises

/-! ### Calls -/

/-- What the step of a call gives back. -/
def gives (db : Database) : Call → List ℕ
  | .running (.commit t _) pending _ =>
      match runAll exec pending db with
      | .ok _ => t.gives
      | .error _ => []
  | _ => []

/-- A call of the withdrawal service, with what it knows. -/
def OfService (db : Database) : Call → Prop
  | .call request => request.ofWithdrawal = true
  | .running prog pending committed =>
      Calls.Knows calls Rows Later Trust (Spec fun _ _ => True) db
        (.running prog pending committed) ∧
        Rest prog pending db

section Calls
variable {db db' : Database} {p : Call}

/-- What a call of the service is about stays there. -/
theorem OfService.later (h : OfService db p) (hl : Later db db') (hs : Stays db db') :
    OfService db' p := by
  cases p with
  | call => exact h
  | running =>
      exact ⟨h.1.later (R := Later) (fun _ _ _ => Later.trans) hl,
        h.2.later Stays.trans Commit.OfWithdrawal.later hs⟩

/-- The step of a call commits, or leaves the database. -/
theorem resume_gives (r : ℕ) (db : Database) (p : Call) (c : Answer) :
    ((calls.resume r db p c).1 = db ∧ gives db p = []) ∨
      ∃ t k pending committed, p = .running (.commit t k) pending committed ∧
        runAll exec pending db = .ok (calls.resume r db p c).1 ∧ gives db p = t.gives := by
  match p with
  | .call _ | .running .done _ _ | .running (.ask _) _ _ => exact .inl ⟨rfl, rfl⟩
  | .running (.read k) pending committed =>
      refine .inl ⟨?_, rfl⟩
      simp only [Calls.resume]
      cases runAll calls.exec pending db <;> rfl
  | .running (.execute b k) pending committed =>
      refine .inl ⟨?_, rfl⟩
      simp only [Calls.resume]
      cases runAll calls.exec pending db with
      | error => rfl
      | ok view =>
          dsimp only
          cases calls.exec b view <;> rfl
  | .running (.commit t k) pending committed =>
      have hexec : calls.exec = exec := rfl
      simp only [Calls.resume, gives, hexec]
      cases hrun : runAll exec pending db with
      | error => exact .inl ⟨rfl, rfl⟩
      | ok view => exact .inr ⟨t, k, pending, committed, rfl, hrun, rfl⟩

/-- What is committed is labelled with what its call checked and found. -/
theorem OfService.commit {t : Commit} {k : Prog} {pending : List Statement}
    {committed : List Commit}
    (hrows : Rows db) (h : OfService db (.running (.commit t k) pending committed)) :
    pending = t.statements ∧ t.Checked (fun _ _ => True) ∧ Trusted calls Trust t.statements db ∧
      t.OfWithdrawal db := by
  obtain ⟨⟨hwalks, htrusted⟩, hrest⟩ := h
  obtain ⟨rfl, hchecked⟩ := hwalks.1
  exact ⟨rfl, hchecked, htrusted db (Later.refl db) hrows, hrest.1⟩

/-- A call of the service goes on as one. -/
theorem OfService.resume (hrows : Rows db) (h : OfService db p) (r : ℕ) (c : Answer) {p' : Call}
    (hp' : (calls.resume r db p c).2 = some p') : OfService (calls.resume r db p c).1 p' := by
  cases p with
  | call request =>
      obtain rfl := Option.some.inj hp'
      exact ⟨⟨walk_program ⟨fun _ _ _ _ _ => trivial, fun _ _ _ _ _ _ => trivial⟩ request db,
        fun _ _ _ => trivial⟩, rest_program h db⟩
  | running prog pending committed =>
      obtain ⟨hknows, hrest⟩ := h
      let s : System Database Call := ⟨db, Table.empty.upd r (.running prog pending committed)⟩
      have hone : s.procs.get r = some (.running prog pending committed) := Table.get_upd_same _ _ _
      have hall : Processes.Holds Rows
          (fun s _ p => Calls.Knows calls Rows Later Trust (Spec fun _ _ => True) s p)
          (fun _ _ => True) s := by
        refine ⟨hrows, fun r' q hq => ?_, fun _ _ _ _ _ _ _ => trivial⟩
        by_cases e : r' = r
        · subst e
          obtain rfl := Option.some.inj (hone.symm.trans hq)
          exact hknows
        · rw [Table.get_upd_other e, Table.get_empty] at hq
          cases hq
      have hgo : Calls.Allows (fun _ _ => True) s (.resume r c : Act Call Answer Outside) := by
        simp only [Calls.Allows]
        split <;> trivial
      obtain ⟨-, hself, -⟩ := rows_keeps.resume s r _ c hall hone hgo
      obtain ⟨prog', pending', committed', rfl, hrest'⟩ := hrest.resume Stays.trans
        Commit.OfWithdrawal.later Stays.refl (fun _ _ _ => runAll_stays) r c hp'
      exact ⟨(hself _ hp').1, hrest'⟩

end Calls

end SnakeArena.Books
