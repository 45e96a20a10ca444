import SnakeArena.Books.Walks

/-!
# Books — double entry

Every account's balance is what its legs add up to, each leg shows the balance it left, and the
legs of a group sum to zero (`Booked`).

`Draft` is a transaction half way: the legs it has planned are in the balances, except that an
escrow whose balance runs along is `held` and written at the end.
-/

namespace SnakeArena.Books
open SnakeArena.Library SnakeArena.Db SnakeArena.Gateway Database
open SnakeArena.Library.Calls (Trusted)

/-! ### Legs -/

def Posting.signed (p : Posting) : ℤ :=
  if p.row.direction = .credit then p.row.amountLamports else -p.row.amountLamports

def net (ps : List Posting) : ℤ := (ps.map Posting.signed).sum

def legsOf (name : PoolAccountName) (ps : List Posting) : List Posting :=
  ps.filter (·.row.poolAccountId = name)

def groupOf (g : ℕ) (ps : List Posting) : List Posting := ps.filter (·.entryGroupId = g)

/-- Each leg shows the balance it left. -/
def Runs : ℤ → List Posting → Prop
  | _, [] => True
  | b, p :: ps => p.row.balanceAfterLamports = b + p.signed ∧ Runs (b + p.signed) ps

/-- Every group sums to zero. -/
def Balanced (ps : List Posting) : Prop := ∀ g, net (groupOf g ps) = 0

def Database.balance (db : Database) (name : PoolAccountName) : ℤ :=
  (db.poolAccounts.get name).elim 0 (·.balanceLamports)

structure Booked (db : Database) : Prop where
  balance : ∀ name, db.balance name = net (legsOf name db.transactions)
  running : ∀ name, Runs 0 (legsOf name db.transactions)
  groups : Balanced db.transactions

@[simp] theorem net_nil : net [] = 0 := rfl

@[simp] theorem net_append (ps qs : List Posting) : net (ps ++ qs) = net ps + net qs := by
  simp [net]

@[simp] theorem net_cons (p : Posting) (ps : List Posting) : net (p :: ps) = p.signed + net ps := by
  simp [net]

@[simp] theorem legsOf_append (name : PoolAccountName) (ps qs : List Posting) :
    legsOf name (ps ++ qs) = legsOf name ps ++ legsOf name qs := List.filter_append ..

/-- One posting is of its own account. -/
theorem legsOf_one (name : PoolAccountName) (p : Posting) :
    legsOf name [p] = if p.row.poolAccountId = name then [p] else [] := by
  simp [legsOf, List.filter_cons]

/-- Running balances go on where the first part ends. -/
theorem Runs.append {ps qs : List Posting} : ∀ {b : ℤ},
    Runs b (ps ++ qs) ↔ Runs b ps ∧ Runs (b + net ps) qs := by
  induction ps with
  | nil => simp [Runs]
  | cons p ps ih =>
      intro b
      simp only [List.cons_append, Runs, ih, net_cons, and_assoc, add_assoc]

/-- Two balanced entries are balanced together. -/
theorem Balanced.append {ps qs : List Posting} (h : Balanced ps) (h' : Balanced qs) :
    Balanced (ps ++ qs) := fun g => by
  rw [groupOf, List.filter_append, net_append]
  exact (congrArg₂ (· + ·) (h g) (h' g)).trans (add_zero 0)

/-- Legs of one group that sum to zero. -/
theorem Balanced.of_group {ps : List Posting} {g : ℕ} (hg : ∀ p ∈ ps, p.entryGroupId = g)
    (hnet : net ps = 0) : Balanced ps := by
  intro g'
  by_cases e : g' = g
  · rw [groupOf, List.filter_eq_self.mpr fun p hp => by simp [hg p hp, e], hnet]
  · rw [groupOf, List.filter_eq_nil_iff.mpr fun p hp => by simp [hg p hp, Ne.symm e], net_nil]

/-- A statement aside touches neither accounts nor postings. -/
theorem exec_aside {db db' : Database} {statement : Statement} (h : statement.aside = true)
    (hexec : exec statement db = .ok db') :
    db'.poolAccounts = db.poolAccounts ∧ db'.transactions = db.transactions := by
  cases statement with
  | updateAccount | setReserved | createAccount | createTransactions => cases h
  | createReservation | deleteReservation | createWithdrawal | updateWithdrawal =>
      simp only [exec] at hexec
      split_ifs at hexec
      obtain rfl := Except.ok.inj hexec
      exact ⟨rfl, rfl⟩
  | deleteReservations =>
      obtain rfl := Except.ok.inj hexec
      exact ⟨rfl, rfl⟩
  | cancelGame =>
      simp only [exec] at hexec
      split at hexec
      · cases hexec
      · obtain rfl := Except.ok.inj hexec
        exact ⟨rfl, rfl⟩

/-! ### Transactions half way -/

structure Draft (held : Option PoolAccountName) (b : ℤ) (db view : Database)
    (planned posted : List Posting) : Prop where
  transactions : view.transactions = db.transactions ++ posted
  balance : ∀ name, held ≠ some name →
    view.balance name = db.balance name + net (legsOf name planned)
  running : ∀ name, held ≠ some name → Runs (db.balance name) (legsOf name planned)
  held : ∀ name, held = some name →
    view.balance name = db.balance name ∧ Runs b (legsOf name planned)

section Draft
variable {held : Option PoolAccountName} {b : ℤ} {db view view' : Database}
  {planned posted : List Posting} {name : PoolAccountName}

/-- Before the first statement. -/
theorem Draft.start (held : Option PoolAccountName) (b : ℤ) (db : Database) :
    Draft held b db db [] [] :=
  ⟨(List.append_nil _).symm, fun _ _ => (add_zero _).symm, fun _ _ => trivial,
    fun _ _ => ⟨rfl, trivial⟩⟩

/-- A balance is written where it is written. -/
theorem balance_upd (db : Database) (name name' : PoolAccountName) (a : PoolAccount) :
    ({ db with poolAccounts := db.poolAccounts.upd name a } : Database).balance name' =
      if name' = name then a.balanceLamports else db.balance name' := by
  simp only [Database.balance, Table.get_upd]
  split <;> rfl

/-- A statement that moves no balance and posts no leg. -/
theorem Draft.quiet (h : Draft held b db view planned posted)
    (hbalance : ∀ name, view'.balance name = view.balance name)
    (hposted : view'.transactions = view.transactions) :
    Draft held b db view' planned posted :=
  ⟨hposted.trans h.transactions, fun name hname => (hbalance name).trans (h.balance name hname),
    h.running,
    fun name hname => ⟨(hbalance name).trans (h.held name hname).1, (h.held name hname).2⟩⟩

/-- An account is updated for a leg. -/
theorem Draft.update (h : Draft held b db view planned posted) {read : PoolAccount}
    {data : AccountData} (htrust : Trust (.updateAccount name read data) view)
    (hexec : view.exec (.updateAccount name read data) = .ok view') (hname : held ≠ some name)
    {p : Posting} (hp : p.row.poolAccountId = name)
    (hdata : data.balanceLamports = some (read.balanceLamports + p.signed))
    (hafter : p.row.balanceAfterLamports = read.balanceLamports + p.signed) :
    Draft held b db view' (planned ++ [p]) posted := by
  obtain ⟨a, ha, hversion, rfl⟩ := writes hexec
  obtain ⟨-, hread⟩ := htrust a ha hversion
  have hview : view.balance name = read.balanceLamports := by
    simp [Database.balance, ha, hread]
  have hwritten : (data.write a).balanceLamports = read.balanceLamports + p.signed := by
    simp [AccountData.write, hdata]
  refine ⟨h.transactions, fun name' hname' => ?_, fun name' hname' => ?_, fun name' hname' => ?_⟩
  · rw [balance_upd, legsOf_append, legsOf_one, hp]
    split
    case isTrue e =>
        subst e
        rw [if_pos rfl, hwritten, net_append, net_cons, net_nil, add_zero, ← add_assoc,
          ← h.balance _ hname', hview]
    case isFalse e => rw [if_neg (Ne.symm e), List.append_nil, h.balance _ hname']
  · rw [legsOf_append, legsOf_one, hp]
    split
    case isTrue e =>
        subst e
        refine Runs.append.mpr ⟨h.running _ hname', ?_, trivial⟩
        rw [← h.balance _ hname', hview, hafter]
    case isFalse => rw [List.append_nil]; exact h.running _ hname'
  · have hne : name' ≠ name := fun e => hname (e ▸ hname')
    rw [balance_upd, if_neg hne, legsOf_append, legsOf_one, hp, if_neg hne.symm, List.append_nil]
    exact h.held name' hname'

/-- A leg of the account that is held: its balance runs along. -/
theorem Draft.hold (h : Draft (some name) b db view planned posted) {p : Posting}
    (hp : p.row.poolAccountId = name)
    (hafter : p.row.balanceAfterLamports = b + net (legsOf name planned) + p.signed) :
    Draft (some name) b db view (planned ++ [p]) posted := by
  refine ⟨h.transactions, fun name' hname' => ?_, fun name' hname' => ?_, fun name' hname' => ?_⟩
  · have hne : name ≠ name' := fun e => hname' (e ▸ rfl)
    rw [legsOf_append, legsOf_one, hp, if_neg hne, List.append_nil]
    exact h.balance name' hname'
  · have hne : name ≠ name' := fun e => hname' (e ▸ rfl)
    rw [legsOf_append, legsOf_one, hp, if_neg hne, List.append_nil]
    exact h.running name' hname'
  · obtain rfl := Option.some.inj hname'
    obtain ⟨hbalance, hruns⟩ := h.held name rfl
    rw [legsOf_append, legsOf_one, hp, if_pos rfl]
    exact ⟨hbalance, Runs.append.mpr ⟨hruns, hafter, trivial⟩⟩

/-- The legs are posted. -/
theorem Draft.create (h : Draft held b db view planned posted) {rows : List Posting}
    (hexec : view.exec (.createTransactions rows) = .ok view') :
    Draft held b db view' planned (posted ++ rows) := by
  simp only [exec] at hexec
  split at hexec
  · cases hexec
  obtain rfl := Except.ok.inj hexec
  refine ⟨?_, h.balance, h.running, h.held⟩
  simp only [h.transactions, List.append_assoc]

/-- The held account is written. -/
theorem Draft.release (h : Draft (some name) b db view planned posted) {read : PoolAccount}
    {data : AccountData} (htrust : Trust (.updateAccount name read data) view)
    (hexec : view.exec (.updateAccount name read data) = .ok view')
    (hb : read.balanceLamports = b)
    (hdata : data.balanceLamports = some (b + net (legsOf name planned))) :
    Draft none 0 db view' planned posted := by
  obtain ⟨a, ha, hversion, rfl⟩ := writes hexec
  obtain ⟨-, hread⟩ := htrust a ha hversion
  obtain ⟨hbalance, hruns⟩ := h.held name rfl
  have hdb : db.balance name = b := by
    rw [← hbalance, Database.balance, ha, ← hb, ← hread]
    rfl
  refine ⟨h.transactions, fun name' _ => ?_, fun name' _ => ?_, nofun⟩
  · rw [balance_upd]
    split
    case isTrue e =>
        subst e
        simp only [AccountData.write, hdata, hdb, Option.getD_some]
    case isFalse e => exact h.balance name' fun e' => e (Option.some.inj e').symm
  · by_cases e : name' = name
    · subst e
      exact hdb ▸ hruns
    · exact h.running name' fun e' => e (Option.some.inj e').symm

/-- An account that is created has nothing to account for. -/
theorem Draft.createAccount (h : Draft held b db view planned posted)
    (hexec : view.exec (.createAccount name) = .ok view') :
    Draft held b db view' planned posted := by
  obtain ⟨hnone, rfl⟩ := writes hexec
  refine h.quiet (fun name' => ?_) rfl
  rw [balance_upd]
  split
  case isTrue e => simp [Database.balance, e, hnone]
  case isFalse => rfl

/-- An update of a reservation alone. -/
theorem Draft.reserved (h : Draft held b db view planned posted) {read : PoolAccount}
    {r : Option ℤ} (hexec : view.exec (.updateAccount name read ⟨none, r⟩) = .ok view') :
    Draft held b db view' planned posted := by
  obtain ⟨a, ha, -, rfl⟩ := writes hexec
  refine h.quiet (fun name' => ?_) rfl
  rw [balance_upd]
  split
  case isTrue e => simp [Database.balance, e, ha, AccountData.write]
  case isFalse => rfl

/-- A reservation is no balance. -/
theorem Draft.setReserved (h : Draft held b db view planned posted) {r : ℤ}
    (hexec : view.exec (.setReserved name r) = .ok view') :
    Draft held b db view' planned posted := by
  obtain ⟨a, ha, rfl⟩ := writes hexec
  refine h.quiet (fun name' => ?_) rfl
  rw [balance_upd]
  split
  case isTrue e => simp [Database.balance, e, ha]
  case isFalse => rfl

/-- A statement about the other tables. -/
theorem Draft.aside (h : Draft held b db view planned posted) {statement : Statement}
    (hexec : exec statement view = .ok view') (haside : statement.aside = true) :
    Draft held b db view' planned posted := by
  obtain ⟨haccounts, hposted⟩ := exec_aside haside hexec
  exact h.quiet (fun name => by rw [Database.balance, haccounts]; rfl) hposted

/-- A leg of the held account and one of another, of one group and summing to zero. -/
theorem Draft.move {account : PoolAccountName} {rows legs : List Posting} {p q : Posting}
    (h : Draft (some account) b db view rows rows) (hrows : Balanced rows) {read : PoolAccount}
    {data : AccountData} (htrust : Trust (.updateAccount name read data) view)
    (hexec : runAll exec [.updateAccount name read data, .createTransactions legs] view = .ok view')
    (hname : name ≠ account) (hlegs : legs = [p, q] ∨ legs = [q, p])
    (hp : p.row.poolAccountId = name) (hq : q.row.poolAccountId = account)
    (hdata : data.balanceLamports = some (read.balanceLamports + p.signed))
    (hafter : p.row.balanceAfterLamports = read.balanceLamports + p.signed)
    (hheld : q.row.balanceAfterLamports = b + net (legsOf account rows) + q.signed)
    (hgroup : p.entryGroupId = q.entryGroupId) (hzero : p.signed + q.signed = 0) :
    Draft (some account) b db view' (rows ++ legs) (rows ++ legs) ∧ Balanced (rows ++ legs) ∧
      net (legsOf account (rows ++ legs)) = net (legsOf account rows) + q.signed := by
  obtain ⟨u, hupdate, hcreate⟩ := runAll_cons.mp hexec
  rw [runAll_one] at hcreate
  have hheld' : ∀ name', some account ≠ some name' → account ≠ name' := fun _ h e => h (e ▸ rfl)
  have hdraft : ∀ legs, legs = [p, q] ∨ legs = [q, p] →
      Draft (some account) b db u (rows ++ legs) rows := by
    rintro _ (rfl | rfl)
    · have h₁ := h.update htrust hupdate (fun e => hname (Option.some.inj e).symm) hp hdata hafter
      have h₂ := h₁.hold hq (by rw [legsOf_append, legsOf_one, hp, if_neg hname,
        List.append_nil, hheld])
      rwa [List.append_assoc] at h₂
    · have h₁ := (h.hold hq hheld).update htrust hupdate
        (fun e => hname (Option.some.inj e).symm) hp hdata hafter
      rwa [List.append_assoc] at h₁
  refine ⟨(hdraft legs hlegs).create hcreate,
    hrows.append (Balanced.of_group (g := q.entryGroupId) ?_ ?_), ?_⟩
  · obtain rfl | rfl := hlegs <;> simp [hgroup]
  · obtain rfl | rfl := hlegs <;> simp only [net_cons, net_nil] <;> omega
  · obtain rfl | rfl := hlegs <;> simp [legsOf, hp, hq, hname]

end Draft

/-! ### Loops -/

section Loops
variable {b : ℤ} {db : Database} {gameId : ℕ}

@[simp] theorem Side.posting_signed (side : Side) (type : TransactionType)
    (direction : TransactionDirection) (amount : ℤ) (entryGroupId : ℕ) (gameId : Option ℕ) :
    (side.posting type direction amount entryGroupId gameId).signed =
      if direction = .credit then amount else -amount := rfl

@[simp] theorem Side.posting_after (side : Side) (type : TransactionType)
    (direction : TransactionDirection) (amount : ℤ) (entryGroupId : ℕ) (gameId : Option ℕ) :
    (side.posting type direction amount entryGroupId gameId).row.balanceAfterLamports =
      side.balanceAfterLamports := rfl

/-- What an escrow's loop leaves: the escrow still held, at the balance that ran along. -/
def Running (gameId : ℕ) (b : ℤ) (db view : Database) (escrowBalance : ℤ) : Prop :=
  ∃ rows, Draft (some (.escrow gameId)) b db view rows rows ∧ Balanced rows ∧
    escrowBalance = b + net (legsOf (.escrow gameId) rows)

/-- The loop over the stakes leaves the escrow's own update to the end. -/
theorem Running.stakes {stakes : List Stake} : ∀ {escrowBalance : ℤ} {view view' : Database},
    Running gameId b db view escrowBalance →
    Trusted calls Trust (stakeStatements gameId escrowBalance stakes) view →
    runAll exec (stakeStatements gameId escrowBalance stakes) view = .ok view' →
    Running gameId b db view' (escrowBalance + stakesTotal stakes) := by
  induction stakes with
  | nil =>
      intro escrowBalance view view' h _ hrun
      obtain rfl := Except.ok.inj hrun
      simpa [stakesTotal] using h
  | cons x xs ih =>
      rintro escrowBalance view view' ⟨rows, hdraft, hrows, hbalance⟩ htrusted hrun
      obtain ⟨u, hu, hrest⟩ := runAll_append.mp hrun
      obtain ⟨hdraft', hrows', hnet⟩ := hdraft.move hrows htrusted.1 hu (by simp) (.inl rfl) rfl rfl
        (by simp [Stake.custodyAfter, sub_eq_add_neg])
        (by simp [Stake.custodyAfter, sub_eq_add_neg]) (by simp [hbalance]) rfl (by simp)
      have h := ih ⟨_, hdraft', hrows', ?_⟩ (htrusted.right hu) hrest
      · simpa [stakesTotal, add_assoc] using h
      · rw [hnet, hbalance, Side.posting_signed, if_pos rfl, add_assoc]

/-- A payment's legs, whatever their type and keys. -/
theorem Running.payments {type : TransactionType} {key : ℕ → Bool → IdempotencyKey}
    {escrowUser : Payment → Option ℕ} {payments : List Payment} :
    let legs := fun balance x => Payment.legs gameId type key (escrowUser x) balance x
    ∀ {escrowBalance : ℤ} {view view' : Database}, Running gameId b db view escrowBalance →
      Trusted calls Trust (paymentStatements legs escrowBalance payments) view →
      runAll exec (paymentStatements legs escrowBalance payments) view = .ok view' →
      Running gameId b db view' (escrowBalance - paymentsTotal payments) := by
  intro legs
  induction payments with
  | nil =>
      intro escrowBalance view view' h _ hrun
      obtain rfl := Except.ok.inj hrun
      simpa [paymentsTotal] using h
  | cons x xs ih =>
      rintro escrowBalance view view' ⟨rows, hdraft, hrows, hbalance⟩ htrusted hrun
      rw [paymentStatements, List.append_assoc] at htrusted hrun
      obtain ⟨w, hw, hrun⟩ := runAll_append.mp hrun
      obtain ⟨u, hu, hrest⟩ := runAll_append.mp hrun
      have htrusted' := htrusted.right hw
      have hcreated : Draft (some (.escrow gameId)) b db w rows rows := by
        split at hw
        · exact hdraft.createAccount (runAll_one.mp hw)
        · exact Except.ok.inj hw ▸ hdraft
      obtain ⟨hdraft', hrows', hnet⟩ := hcreated.move hrows htrusted'.1 hu (by simp) (.inr rfl) rfl
        rfl (by simp [Payment.custodyAfter]) (by simp [Payment.custodyAfter])
        (by simp [hbalance, sub_eq_add_neg]) rfl (by simp)
      have h := ih ⟨_, hdraft', hrows', ?_⟩ (htrusted'.right hu) hrest
      · simpa [paymentsTotal, sub_sub] using h
      · rw [hnet, hbalance, Side.posting_signed, if_neg (by simp)]
        omega

/-- The rake, if there is one. -/
theorem Running.rake {rake : Option Rake} {escrowBalance : ℤ} {view view' : Database}
    (h : Running gameId b db view escrowBalance)
    (htrusted : Trusted calls Trust (rakeStatements gameId escrowBalance rake) view)
    (hrun : runAll exec (rakeStatements gameId escrowBalance rake) view = .ok view') :
    Running gameId b db view' (escrowBalance - rakeTotal rake) := by
  obtain ⟨rows, hdraft, hrows, hbalance⟩ := h
  cases rake with
  | none =>
      obtain rfl := Except.ok.inj hrun
      exact ⟨rows, hdraft, hrows, by simpa [rakeTotal] using hbalance⟩
  | some x =>
      obtain ⟨hdraft', hrows', hnet⟩ := hdraft.move hrows htrusted.1 hrun (by simp) (.inr rfl) rfl
        rfl (by simp [Rake.after]) (by simp [Rake.after]) (by simp [hbalance, sub_eq_add_neg]) rfl
        (by simp)
      refine ⟨_, hdraft', hrows', ?_⟩
      rw [hnet, hbalance, Side.posting_signed, if_neg (by simp)]
      simp only [rakeTotal, Option.elim_some]
      omega

/-- The escrow is written, and nothing is held any more. -/
theorem Running.release {escrow : PoolAccount} {escrowBalance : ℤ} {view view' : Database}
    (h : Running gameId escrow.balanceLamports db view escrowBalance)
    (htrust : Trust (updateEscrow gameId escrow escrowBalance) view)
    (hexec : exec (updateEscrow gameId escrow escrowBalance) view = .ok view') :
    ∃ rows, Draft none 0 db view' rows rows ∧ Balanced rows := by
  obtain ⟨rows, hdraft, hrows, hbalance⟩ := h
  exact ⟨rows, hdraft.release htrust hexec rfl (congrArg some hbalance), hrows⟩

theorem Running.start (gameId : ℕ) (b : ℤ) (db : Database) : Running gameId b db db b :=
  ⟨[], Draft.start _ _ _, fun _ => rfl, (add_zero b).symm⟩

/-- The postings of an entry. -/
def entryPostings (params : PostEntryParams) (entryGroupId : ℕ) : ℕ → List EntryLeg → List Posting
  | _, [] => []
  | index, x :: xs =>
      x.posting params entryGroupId index :: entryPostings params entryGroupId (index + 1) xs

/-- The legs of an entry, one by one. -/
theorem Draft.entry {params : PostEntryParams} {entryGroupId : ℕ} {legs : List EntryLeg} :
    ∀ {index : ℕ} {view view' : Database} {rows : List Posting}, Draft none 0 db view rows rows →
      Trusted calls Trust (entryStatements params entryGroupId index legs) view →
      runAll exec (entryStatements params entryGroupId index legs) view = .ok view' →
      let posted := rows ++ entryPostings params entryGroupId index legs
      Draft none 0 db view' posted posted := by
  induction legs with
  | nil =>
      intro index view view' rows h _ hrun
      obtain rfl := Except.ok.inj hrun
      simpa [entryPostings] using h
  | cons x xs ih =>
      intro index view view' rows h htrusted hrun
      obtain ⟨u, hu, hrest⟩ := runAll_append.mp hrun
      obtain ⟨w, hupdate, hcreate⟩ := runAll_cons.mp hu
      have hdraft := (h.update (p := x.posting params entryGroupId index) htrusted.1 hupdate
        (by rintro ⟨⟩) rfl rfl rfl).create (runAll_one.mp hcreate)
      have h := ih hdraft (htrusted.right hu) hrest
      rwa [List.append_assoc] at h

/-- What the check of an entry adds up is what its legs move. -/
theorem sumLegs_ok {legs : List LedgerLeg} : ∀ {credits debits credits' debits' : ℤ},
    sumLegs credits debits legs = .ok (credits', debits') →
      credits' - debits' = credits - debits + (legs.map LedgerLeg.delta).sum := by
  induction legs with
  | nil =>
      intro _ _ _ _ h
      cases h
      simp
  | cons leg legs ih =>
      intro _ _ _ _ h
      unfold sumLegs at h
      split at h
      · cases h
      · simp only [List.map_cons, List.sum_cons, LedgerLeg.delta]
        cases hleg : leg.direction with
        | credit | debit =>
            simp only [hleg] at h
            have := ih h
            simp only [reduceCtorEq, if_true, if_false]
            omega

/-- The legs of an entry that passes the check sum to zero. -/
theorem assertBalanced_ok {legs : List LedgerLeg} {sums : ℤ × ℤ}
    (h : assertBalanced legs = .ok sums) : (legs.map LedgerLeg.delta).sum = 0 := by
  unfold assertBalanced at h
  split at h
  · cases h
  · split at h
    · cases h
    next hsums =>
        split at h
        · cases h
        next heq =>
            have := sumLegs_ok hsums
            omega

/-- The postings of an entry share its group. -/
theorem entryPostings_group {params : PostEntryParams} {entryGroupId : ℕ} {legs : List EntryLeg} :
    ∀ {index : ℕ}, ∀ p ∈ entryPostings params entryGroupId index legs,
      p.entryGroupId = entryGroupId := by
  induction legs with
  | nil =>
      intro index p hp
      cases hp
  | cons x xs ih =>
      intro index p hp
      obtain rfl | hp := List.mem_cons.mp hp
      · rfl
      · exact ih p hp

/-- Their sum is the legs'. -/
theorem entryPostings_net {params : PostEntryParams} {entryGroupId : ℕ} {legs : List EntryLeg} :
    ∀ {index : ℕ}, net (entryPostings params entryGroupId index legs) =
      (legs.map (·.leg.delta)).sum := by
  induction legs with
  | nil => simp [entryPostings]
  | cons x xs ih =>
      intro index
      simp only [entryPostings, net_cons, ih, List.map_cons, List.sum_cons]
      rfl

end Loops

/-- The legs of an adjustment: its amount to the player, and from the treasury. -/
theorem Adjustment.legs_signed (x : Adjustment) : ∃ p q, x.legs = [p, q] ∧
    (p.row.poolAccountId = .custody x.userId ∧
      some x.nextBalance = some (x.custody.balanceLamports + p.signed) ∧
      p.row.balanceAfterLamports = x.custody.balanceLamports + p.signed ∧
      p.signed = x.delta ∧ p.entryGroupId = x.entryGroupId) ∧
    (q.row.poolAccountId = .treasury ∧
      some x.treasuryBalance = some (x.treasury.balanceLamports + q.signed) ∧
      q.row.balanceAfterLamports = x.treasury.balanceLamports + q.signed ∧
      q.signed = -x.delta ∧ q.entryGroupId = x.entryGroupId) := by
  have hcustody : ∀ side : Side, (side.posting .adjustment (if x.delta > 0 then .credit else .debit)
      (if x.delta > 0 then x.delta else -x.delta) x.entryGroupId none).signed = x.delta := by
    intro side
    rw [Side.posting_signed]
    split <;> simp
  have htreasury : ∀ side : Side, (side.posting .adjustment
    (if x.delta > 0 then .debit else .credit)
      (if x.delta > 0 then x.delta else -x.delta) x.entryGroupId none).signed = -x.delta := by
    intro side
    rw [Side.posting_signed]
    split <;> simp
  refine ⟨_, _, rfl, ⟨rfl, ?_, ?_, hcustody _, rfl⟩, ⟨rfl, ?_, ?_, htreasury _, rfl⟩⟩
  · rw [hcustody]
    rfl
  · rw [hcustody]
    rfl
  · rw [htreasury, ← sub_eq_add_neg]
    rfl
  · rw [htreasury, ← sub_eq_add_neg]
    rfl

/-! ### Commits -/

/-- **What a commit leaves in the books**: balanced rows, each in the balance of its account. -/
theorem Commit.draft {good : ℤ → ℤ → Prop} {t : Commit} {db view : Database}
    (hchecked : t.Checked good) (htrusted : Trusted calls Trust t.statements db)
    (hrun : runAll exec t.statements db = .ok view) :
    ∃ rows, Draft none 0 db view rows rows ∧ Balanced rows := by
  have hstart : Draft none 0 db db [] [] := Draft.start _ _ _
  have hnil : Balanced [] := fun _ => rfl
  cases t with
  | createAccount name => exact ⟨[], hstart.createAccount (runAll_one.mp hrun), hnil⟩
  | entry params entryGroupId legs =>
      obtain ⟨hlegs, ⟨sums, hsums⟩, -⟩ := hchecked
      refine ⟨_, hstart.entry htrusted hrun, Balanced.of_group entryPostings_group ?_⟩
      have := assertBalanced_ok hsums
      rw [← hlegs, List.map_map] at this
      exact entryPostings_net.trans this
  | reserve row account =>
      obtain ⟨u, hu, hrest⟩ := runAll_cons.mp hrun
      exact ⟨[], (hstart.reserved hu).aside (runAll_one.mp hrest) rfl, hnil⟩
  | release row custody =>
      cases custody with
      | none => exact ⟨[], hstart.aside (runAll_one.mp hrun) rfl, hnil⟩
      | some custody =>
          obtain ⟨u, hu, hrest⟩ := runAll_cons.mp hrun
          exact ⟨[], (hstart.reserved hu).aside (runAll_one.mp hrest) rfl, hnil⟩
  | consume tierId gameId stakes escrow =>
      obtain ⟨u, hu, hrest⟩ := runAll_append.mp hrun
      obtain ⟨w, hw, hdelete⟩ := runAll_cons.mp hrest
      obtain ⟨rows, hdraft, hrows⟩ := ((Running.start gameId _ db).stakes htrusted.left hu).release
        (htrusted.right hu).1 hw
      exact ⟨rows, hdraft.aside (runAll_one.mp hdelete) rfl, hrows⟩
  | cancel gameId reason => exact ⟨[], hstart.aside (runAll_one.mp hrun) rfl, hnil⟩
  | refund gameId reason payments escrow =>
      obtain ⟨u, hu, hcancel⟩ := runAll_append.mp hrun
      obtain ⟨w, hw, hescrow⟩ := runAll_append.mp hu
      have hloop := (Running.start gameId _ db).payments htrusted.left.left hw
      have htrusted' := htrusted.left.right hw
      obtain ⟨rows, hdraft, hrows⟩ : ∃ rows, Draft none 0 db u rows rows ∧ Balanced rows := by
        split at hescrow
        next hempty =>
            obtain rfl := Except.ok.inj hescrow
            rw [List.isEmpty_iff.mp hempty] at hw
            obtain rfl := Except.ok.inj hw
            exact ⟨[], hstart, hnil⟩
        next hempty =>
            rw [if_neg hempty] at htrusted'
            exact hloop.release htrusted'.1 (runAll_one.mp hescrow)
      exact ⟨rows, hdraft.aside (runAll_one.mp hcancel) rfl, hrows⟩
  | settle gameId payments rake escrow =>
      obtain ⟨u, hu, hescrow⟩ := runAll_append.mp hrun
      obtain ⟨w, hw, hrake⟩ := runAll_append.mp hu
      have hloop := (Running.start gameId _ db).payments htrusted.left.left hw
      exact (hloop.rake (htrusted.left.right hw) hrake).release (htrusted.right hu).1
        (runAll_one.mp hescrow)
  | adjust x =>
      obtain ⟨u, hcustody, hrest⟩ := runAll_cons.mp hrun
      obtain ⟨w, htreasury, hcreate⟩ := runAll_cons.mp hrest
      obtain ⟨p, q, hlegs, hp, hq⟩ := x.legs_signed
      have hdraft := (hstart.update (p := p) htrusted.1 hcustody nofun hp.1 hp.2.1 hp.2.2.1).update
        (p := q) (htrusted.2 u hcustody).1 htreasury nofun hq.1 hq.2.1 hq.2.2.1
      have hdraft := hdraft.create (runAll_one.mp hcreate)
      rw [hlegs] at hdraft
      refine ⟨[p, q], hdraft, Balanced.of_group (g := x.entryGroupId) ?_ ?_⟩
      · simp [hp.2.2.2.2, hq.2.2.2.2]
      · simp [hp.2.2.2.1, hq.2.2.2.1]
  | intent row custody =>
      obtain ⟨u, hu, hrest⟩ := runAll_cons.mp hrun
      exact ⟨[], (hstart.reserved hu).aside (runAll_one.mp hrest) rfl, hnil⟩
  | unreserve withdrawal custody => exact ⟨[], hstart.setReserved (runAll_one.mp hrun), hnil⟩
  | updateWithdrawal withdrawal data => exact ⟨[], hstart.aside (runAll_one.mp hrun) rfl, hnil⟩

/-- **A commit of balanced postings keeps the books.**. -/
theorem Booked.commit {db view : Database} {rows : List Posting} (h : Booked db)
    (hdraft : Draft none 0 db view rows rows) (hrows : Balanced rows) : Booked view where
  balance name := by
    rw [hdraft.balance name nofun, hdraft.transactions, legsOf_append, net_append, h.balance]
  running name := by
    rw [hdraft.transactions, legsOf_append]
    refine Runs.append.mpr ⟨h.running name, ?_⟩
    rw [zero_add, ← h.balance]
    exact hdraft.running name nofun
  groups := by
    rw [hdraft.transactions]
    exact h.groups.append hrows

/-! ### Runs -/

/-- Nothing posted, every balance zero, no call running. -/
structure Unbooked (s : System Database Call) : Prop where
  transactions : s.store.transactions = []
  balance : ∀ name, s.store.balance name = 0
  procs : s.procs = Table.empty

/-- The act commits what a call has pending. -/
def Commits (s : System Database Call) : Act Call Answer Outside → Prop
  | .resume r _ =>
      ∃ t k pending committed view,
        s.procs.get r = some (.running (.commit t k) pending committed) ∧
        runAll exec pending s.store = .ok view
  | _ => False

/-- The rule's invariant: the books. -/
theorem booked_keeps : calls.processes.Keeps (Calls.Allows fun _ _ => True) Booked
    (fun s _ p => Calls.Knows calls Booked Later Trust (Spec fun _ _ => True) s p)
      fun _ _ => True := by
  refine calls_keep ⟨fun _ _ _ _ _ => trivial, fun _ _ _ _ _ _ => trivial⟩ ?_
    fun _ _ hI => ⟨hI.balance, hI.running, hI.groups⟩
  intro s t s' hI hchecked htrusted _ hrun
  obtain ⟨rows, hdraft, hrows⟩ := t.draft hchecked htrusted hrun
  exact hI.commit hdraft hrows

/-- An act that commits nothing moves no balance and posts no leg. -/
theorem step_quiet {s s' : System Database Call} {a : Act Call Answer Outside}
    (h : calls.processes.Step s a s') (ha : ¬Commits s a) :
    s'.store.poolAccounts = s.store.poolAccounts ∧
      s'.store.transactions = s.store.transactions := by
  cases a with
  | start r p =>
      simp only [Processes.Step, Processes.act, Option.ite_none_right_eq_some] at h
      obtain rfl := Option.some.inj h.2
      exact ⟨rfl, rfl⟩
  | crash r =>
      simp only [Processes.Step, Processes.act, Option.ite_none_right_eq_some] at h
      obtain rfl := Option.some.inj h.2
      exact ⟨rfl, rfl⟩
  | other e =>
      obtain ⟨gameId, row⟩ := e
      obtain rfl := Option.some.inj h
      exact ⟨rfl, rfl⟩
  | resume r c =>
      obtain ⟨p, hp, hstore, -⟩ := calls.processes.step_resume h
      rw [hstore]
      obtain ⟨hquiet, -⟩ | ⟨t, k, pending, committed, view, rfl, hrun, -⟩ :=
        calls.resume_store s.store p r c
      · exact ⟨congrArg _ hquiet, congrArg _ hquiet⟩
      · exact absurd ⟨t, k, pending, committed, view, hp, hrun⟩ ha

/-- **Double entry.**  Whatever runs and whatever crashes: every balance is what its legs add up
to, every leg shows the balance it left, every group sums to zero; and what does not commit
changes neither balances nor legs. -/
theorem double_entry {s : System Database Call}
    (hs : Reachable calls.processes.Step Unbooked s) :
    Booked s.store ∧ ∀ a s', calls.processes.Step s a s' → ¬Commits s a →
      s'.store.poolAccounts = s.store.poolAccounts ∧
        s'.store.transactions = s.store.transactions := by
  have hguarded : Reachable (Guarded calls.processes.Step (Calls.Allows fun _ _ => True)) Unbooked
      s := by
    refine hs.mono fun s a s' h => ⟨h, ?_⟩
    cases a with
    | resume r c =>
        simp only [Calls.Allows]
        split <;> trivial
    | start | crash | other => trivial
  refine ⟨(booked_keeps.reachable (fun s h₀ => ?_) hguarded).1, fun a s' h => step_quiet h⟩
  refine ⟨⟨fun name => ?_, fun name => ?_, fun g => ?_⟩, ?_, fun _ _ _ _ _ _ _ => trivial⟩
  · rw [h₀.balance, h₀.transactions]
    rfl
  · rw [h₀.transactions]
    trivial
  · rw [h₀.transactions]
    rfl
  · rw [h₀.procs]
    exact Table.All.empty

/-- A deposit of 100 lamports, and a stake of 40 consumed into a game's escrow. -/
def stakedGame : List (Act Call Answer Outside) :=
  callOnce (.createAccount .external) 6 ++ callOnce (.createAccount (.custody 1)) 6 ++
    callOnce (.createAccount (.escrow 5)) 6 ++
    callOnce (.postEntry ⟨.deposit,
      [⟨.external, none, .debit, 100⟩, ⟨.custody 1, some 1, .credit, 100⟩], .deposit 3, none,
        some 3, none⟩ 2) 9 ++
    callOnce (.reserveEntryFee 1 "bronze" 40) 8 ++
    callOnce (.consumeReservations "bronze" 5 (some 40)) 10

theorem double_entry_staked : ∃ s, Reachable calls.processes.Step Unbooked s ∧
    (s.store.balance (.custody 1) = 60 ∧ s.store.balance (.escrow 5) = 40) ∧ Booked s.store := by
  have hinit : Unbooked emptyDatabase := ⟨rfl, fun _ => rfl, rfl⟩
  have hrun : (calls.processes.acts emptyDatabase stakedGame).any (fun s =>
      s.store.balance (.custody 1) = 60 ∧ s.store.balance (.escrow 5) = 40) = true := by decide
  obtain ⟨s, hs, htest⟩ := calls.processes.reachable_of_acts hinit hrun
  exact ⟨s, hs, by simpa using htest, (double_entry hs).1⟩

end SnakeArena.Books
