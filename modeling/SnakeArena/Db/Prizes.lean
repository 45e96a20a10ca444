import SnakeArena.Db.Reserved

/-!
# Db — prizes and refunds

The ledger of a settlement posts PAYOUT legs of a game, and a cancellation REFUND legs, each in one
commit.  A settlement that posts a prize updates the escrow of the game in that commit, so while
the escrow has the version that was read, no prize was posted since (`Onward`).

A cancellation reads the escrow first, and then looks for prizes and refunds in the ledger.  What
it refunds is therefore of an escrow that has paid no prize (`Unprized`), and the update that goes
with the refunds fails when one was posted in between (`rests_cancelGameAndRefund`).  What the
ledger of a settlement commits is its own label (`rests_postSettlementLedger`): it reads the
escrow, and never the refunds.

When the accounts are there and nothing of it is posted (`Postable`), that ledger is posted once
(`PostedOnce`).
-/

namespace SnakeArena.Db
open SnakeArena.Library SnakeArena.Books Database

/-! ### Legs of a game -/

/-- The ledger has a leg of the game of this kind. -/
def Posted (g : ℕ) (type : TransactionType) (db : Database) : Prop :=
  ∃ p ∈ db.transactions, p.row.gameId = some g ∧ p.row.type = type

instance (g : ℕ) (type : TransactionType) (db : Database) : Decidable (Posted g type db) := by
  unfold Posted
  infer_instance

section Onward
variable {g : ℕ} {db db' db'' : Database}

/-- Legs stay, accounts go on from version to version, and a prize is posted with a new version of
the escrow. -/
structure Onward (g : ℕ) (db db' : Database) : Prop where
  accounts : Database.Later db db'
  legs : ∀ type, Posted g type db → Posted g type db'
  prize : ∀ a a', db.poolAccounts.get (.escrow g) = some a →
    db'.poolAccounts.get (.escrow g) = some a' → a'.version = a.version →
      Posted g .payout db' → Posted g .payout db

theorem Onward.refl (db : Database) : Onward g db db :=
  ⟨.refl db, fun _ h => h, fun _ _ _ _ _ h => h⟩

theorem Onward.trans (h : Onward g db db') (h' : Onward g db' db'') : Onward g db db'' where
  accounts := h.accounts.trans h'.accounts
  legs type hp := h'.legs type (h.legs type hp)
  prize a a'' ha ha'' hversion hp := by
    obtain ⟨a', ha', -, hle, -⟩ := h.accounts _ a ha
    obtain ⟨a₁, ha₁, -, hle', -⟩ := h'.accounts _ a' ha'
    obtain rfl := Option.some.inj (ha₁.symm.trans ha'')
    exact h.prize a a' ha ha' (by omega) (h'.prize a' a₁ ha' ha'' (by omega) hp)

end Onward

/-! ### Commits -/

section Commits
variable {g : ℕ} {type : TransactionType} {bs : List Statement} {db db' : Database}

/-- A commit adds the legs that its statements post. -/
theorem runAll_transactions : ∀ {db : Database}, runAll Database.exec bs db = .ok db' →
    db'.transactions = db.transactions ++ bs.flatMap posted := by
  induction bs with
  | nil =>
      intro db h
      obtain rfl := Except.ok.inj h
      exact (List.append_nil _).symm
  | cons b bs ih =>
      intro db h
      obtain ⟨u, hu, hrest⟩ := runAll_cons.mp h
      rw [ih hrest, exec_transactions hu, List.flatMap_cons, List.append_assoc]

/-- A leg is an old one, or one of the commit's. -/
theorem posted_commit (h : runAll Database.exec bs db = .ok db') :
    Posted g type db' ↔ Posted g type db ∨
      ∃ b ∈ bs, ∃ p ∈ posted b, p.row.gameId = some g ∧ p.row.type = type := by
  simp only [Posted, runAll_transactions h, List.mem_append, List.mem_flatMap, or_and_right,
    exists_or]
  refine or_congr_right ⟨?_, ?_⟩
  · rintro ⟨p, ⟨b, hb, hp⟩, hleg⟩
    exact ⟨b, hb, p, hp, hleg⟩
  · rintro ⟨b, hb, p, hp, hleg⟩
    exact ⟨p, ⟨b, hb, hp⟩, hleg⟩

/-- A guarded update that went through found the version that was read, and left a newer one. -/
theorem runAll_updates {name : PoolAccountName} {read : PoolAccount} {data : AccountData}
    (h : runAll Database.exec bs db = .ok db') (hb : .updateAccount name read data ∈ bs)
    {a a' : PoolAccount} (ha : db.poolAccounts.get name = some a)
    (ha' : db'.poolAccounts.get name = some a') :
    a.version ≤ read.version ∧ read.version < a'.version := by
  obtain ⟨before, after, rfl⟩ := List.append_of_mem hb
  obtain ⟨u, hu, hrest⟩ := runAll_append.mp h
  obtain ⟨v, hv, hafter⟩ := runAll_cons.mp hrest
  obtain ⟨x, hx, hversion, rfl⟩ := writes hv
  obtain ⟨_, hx₁, -, hle, -⟩ := runAll_later hu name a ha
  obtain rfl := Option.some.inj (hx₁.symm.trans hx)
  obtain ⟨_, ha₁, -, hle', -⟩ := runAll_later hafter name _ (Table.get_upd_same _ _ _)
  obtain rfl := Option.some.inj (ha₁.symm.trans ha')
  simp only [AccountData.write] at hle'
  omega

/-- A commit goes on from version to version; a prize of it comes with the escrow's. -/
theorem onward_commit (h : runAll Database.exec bs db = .ok db')
    (hprize : (∀ b ∈ bs, ∀ p ∈ posted b, p.row.gameId = some g → p.row.type ≠ .payout) ∨
      ∃ read data, .updateAccount (.escrow g) read data ∈ bs) : Onward g db db' where
  accounts := runAll_later h
  legs type hp := (posted_commit h).mpr (.inl hp)
  prize a a' ha ha' hversion hp := by
    obtain hprize | ⟨read, data, hb⟩ := hprize
    · obtain hp | ⟨b, hb, p, hp, hgame, htype⟩ := (posted_commit h).mp hp
      · exact hp
      · exact absurd htype (hprize b hb p hp hgame)
    · have := runAll_updates h hb ha ha'
      omega

/-- The legs of the payments out of an escrow. -/
theorem paymentStatements_posted {legs : ℤ → Payment → List Posting} {payments : List Payment} :
    ∀ {escrowBalance : ℤ}, ∀ b ∈ paymentStatements legs escrowBalance payments,
      ∀ p ∈ posted b, ∃ balance x, p ∈ legs balance x := by
  induction payments with
  | nil => exact fun b hb => absurd hb List.not_mem_nil
  | cons x xs ih =>
      intro escrowBalance b hb p hp
      simp only [paymentStatements, List.mem_append, List.mem_cons, List.not_mem_nil,
        or_false] at hb
      obtain (hb | rfl | rfl) | hb := hb
      · split at hb
        · obtain rfl := List.mem_singleton.mp hb
          cases hp
        · cases hb
      · cases hp
      · exact ⟨_, x, hp⟩
      · exact ih b hb p hp

/-- The legs of a transfer are of its kind. -/
theorem transfer_type {amount : ℤ} {entryGroupId : ℕ} {debit credit : Side} {p : Posting}
    (h : p ∈ transfer type amount entryGroupId g debit credit) : p.row.type = type := by
  simp only [transfer, List.mem_cons, List.not_mem_nil, or_false] at h
  obtain rfl | rfl := h <;> rfl

/-- A refund posts refunds. -/
theorem refundStatements_posted {reason : String} {payments : List Payment}
    {escrow : PoolAccount} : ∀ b ∈ (Commit.refund g reason payments escrow).statements,
      ∀ p ∈ posted b, p.row.type = .refund := by
  intro b hb p hp
  simp only [Commit.statements, List.mem_append, List.mem_singleton] at hb
  obtain (hb | hb) | rfl := hb
  · obtain ⟨balance, x, hp⟩ := paymentStatements_posted b hb p hp
    exact transfer_type hp
  · split at hb
    · cases hb
    · obtain rfl := List.mem_singleton.mp hb
      cases hp
  · cases hp

/-- A settlement posts prizes and the rake. -/
theorem settleStatements_posted {payments : List Payment} {rake : Option Rake}
    {escrow : PoolAccount} : ∀ b ∈ (Commit.settle g payments rake escrow).statements,
      ∀ p ∈ posted b, p.row.type ≠ .refund := by
  intro b hb p hp htype
  simp only [Commit.statements, List.mem_append, List.mem_singleton] at hb
  obtain (hb | hb) | rfl := hb
  · obtain ⟨balance, x, hp⟩ := paymentStatements_posted b hb p hp
    cases (transfer_type hp).symm.trans htype
  · cases rake with
    | none => cases hb
    | some x =>
        simp only [rakeStatements, List.mem_cons, List.not_mem_nil, or_false] at hb
        obtain rfl | rfl := hb
        · cases hp
        · cases (transfer_type hp).symm.trans htype
  · cases hp

end Commits

/-! ### What a cancellation rests on -/

/-- While the escrow has this version, no prize of it is posted. -/
def Unprized (g : ℕ) (escrow : PoolAccount) (db : Database) : Prop :=
  Seen (.escrow g) escrow db ∧ ∀ a, db.poolAccounts.get (.escrow g) = some a →
    a.version = escrow.version → ¬Posted g .payout db

/-- A cancellation of the game, whose refunds rest on the escrow that was read before the prizes
were looked for. -/
def CancelsFor (g : ℕ) (db : Database) : Commit → Prop
  | .cancel gameId _ => gameId = g
  | .refund gameId _ _ escrow => gameId = g ∧ Unprized g escrow db
  | _ => False

/-- A settlement of the game. -/
def SettlesFor (g : ℕ) (_ : Database) : Commit → Prop
  | .settle gameId .. => gameId = g
  | _ => False

section Rests
variable {g : ℕ} {db db' : Database} {escrow : PoolAccount} {reason : String} {t : Commit}
  {P : Database → Commit → Prop} {pending : List Statement}

theorem Unprized.onward (h : Unprized g escrow db) (hl : Onward g db db') :
    Unprized g escrow db' := by
  refine ⟨h.1.later hl.accounts, fun a' ha' hversion hp => ?_⟩
  obtain ⟨a, ha, -, hle, -⟩ := h.1
  obtain ⟨_, ha₁, -, hle', -⟩ := hl.accounts _ a ha
  obtain rfl := Option.some.inj (ha₁.symm.trans ha')
  exact h.2 a ha (by omega) (hl.prize a _ ha ha' (by omega) hp)

theorem CancelsFor.onward (hl : Onward g db db') (h : CancelsFor g db t) :
    CancelsFor g db' t := by
  cases t with
  | cancel => exact h
  | refund => exact ⟨h.1, h.2.onward hl⟩
  | _ => exact h.elim

/-- The statement that cancels is the last one. -/
theorem CancelsFor.statements {db : Database} {t : Commit} (h : CancelsFor g db t) :
    ∃ before reason, t.statements = before ++ [.cancelGame g reason] := by
  cases t with
  | cancel gameId reason =>
      obtain rfl : gameId = g := h
      exact ⟨[], reason, rfl⟩
  | refund gameId reason payments escrow =>
      obtain rfl : gameId = g := h.1
      exact ⟨_, reason, rfl⟩
  | _ => exact h.elim

/-- Refunds are all that it posts, and then it updates an escrow that paid no prize. -/
theorem CancelsFor.posted {db : Database} {t : Commit} (h : CancelsFor g db t) :
    ∀ b ∈ t.statements, ∀ p ∈ posted b, p.row.type = .refund ∧ ∃ escrow data,
      Unprized g escrow db ∧ .updateAccount (.escrow g) escrow data ∈ t.statements := by
  intro b hb p hp
  cases t with
  | cancel gameId reason =>
      obtain rfl := List.mem_singleton.mp hb
      cases hp
  | refund gameId reason payments escrow =>
      obtain ⟨rfl, hunprized⟩ := h
      refine ⟨refundStatements_posted b hb p hp, escrow,
        ⟨some (escrow.balanceLamports - paymentsTotal payments), none⟩, hunprized, ?_⟩
      cases payments with
      | nil =>
          obtain rfl := List.mem_singleton.mp hb
          cases hp
      | cons x xs => exact List.mem_append_left _ (List.mem_append_right _ List.mem_cons_self)
  | _ => exact h.elim

/-- Whatever account is found. -/
theorem rests_findAccount {name : PoolAccountName} {k : Option PoolAccount → Books.Prog}
    (hk : ∀ db', Onward g db db' → ∀ view, runAll Database.exec pending db' = .ok view →
      Calls.Rests calls (Onward g) P (k (view.poolAccounts.get name)) pending db') :
    Calls.Rests calls (Onward g) P (findAccount name k) pending db := hk

/-- Whatever id is drawn. -/
theorem rests_uuid {k : ℕ → Books.Prog}
    (hk : ∀ id, Calls.Rests calls (Onward g) P (k id) pending db) :
    Calls.Rests calls (Onward g) P (uuid k) pending db := by
  intro c
  cases c with
  | uuid id => exact hk id
  | wallet | locked | notVisible | verified | unverified => trivial

/-- One statement, and the rest. -/
theorem rests_run {b : Statement} {k : Books.Prog}
    (hk : Calls.Rests calls (Onward g) P k (pending ++ [b]) db) :
    Calls.Rests calls (Onward g) P (.run b k) pending db := ⟨hk, fun _ => trivial⟩

/-- The loop over the players reads no more of the escrow. -/
theorem rests_refundPayments {owed : List (ℕ × ℤ)} : ∀ {payments : List Payment}
    {pending : List Statement} {db : Database}, Unprized g escrow db →
      Calls.Rests calls (Onward g) (CancelsFor g)
        (refundPayments g reason escrow payments owed) pending db := by
  induction owed with
  | nil =>
      intro payments pending db h
      rw [refundPayments]
      split
      · exact rests_run ⟨⟨rfl, h⟩, trivial⟩
      · exact rests_run (rests_run ⟨⟨rfl, h⟩, trivial⟩)
  | cons leg owed ih =>
      intro payments pending db h
      rw [refundPayments]
      refine rests_findAccount fun db' hl view _ => ?_
      cases view.poolAccounts.get (.custody leg.1) with
      | some custody => exact rests_uuid fun _ => rests_run (rests_run (ih (h.onward hl)))
      | none => exact rests_run (rests_uuid fun _ => rests_run (rests_run (ih (h.onward hl))))

/-- **What is refunded rests on an escrow that paid no prize**: its version was read, and then no
prize was found. -/
theorem rests_cancelGameAndRefund :
    Calls.Rests calls (Onward g) (CancelsFor g) (Books.cancelGameAndRefund g reason) [] db := by
  intro db₁ _ view _
  dsimp only
  split
  · trivial
  · split
    · trivial
    · refine rests_findAccount fun db₂ _ view hview => ?_
      obtain rfl := Except.ok.inj hview
      cases hescrow : db₂.poolAccounts.get (.escrow g) with
      | none => exact rests_run ⟨rfl, trivial⟩
      | some escrow =>
          intro db₃ h₃ view hview
          obtain rfl := Except.ok.inj hview
          dsimp only
          split
          · trivial
          next hnone =>
              have hunprized : Unprized g escrow db₃ := by
                refine ⟨h₃.accounts _ escrow hescrow, fun _ _ _ ⟨p, hp, hgame, htype⟩ => hnone ?_⟩
                refine List.any_eq_true.mpr ⟨p, hp, ?_⟩
                simp only [hgame, htype, decide_true, true_or, Bool.and_self]
              intro db₄ h₄ view _
              dsimp only
              split
              · trivial
              · exact rests_refundPayments (hunprized.onward h₄)

/-- After the prizes comes the rake, if there is one. -/
theorem rests_settleRake {rake : ℤ} {payments : List Payment} :
    Calls.Rests calls (Onward g) (SettlesFor g) (settleRake g rake escrow payments) pending db := by
  unfold settleRake
  dsimp only
  split
  · refine rests_findAccount fun db' _ view _ => ?_
    cases view.poolAccounts.get .rake with
    | none => exact rests_run ⟨rfl, trivial⟩
    | some account => exact rests_uuid fun _ => rests_run (rests_run (rests_run ⟨rfl, trivial⟩))
  · exact rests_run ⟨rfl, trivial⟩

theorem rests_settlePayments {rake : ℤ} {payouts : List (ℕ × ℤ)} : ∀ {payments : List Payment}
    {pending : List Statement} {db : Database},
      Calls.Rests calls (Onward g) (SettlesFor g)
        (settlePayments g rake escrow payments payouts) pending db := by
  induction payouts with
  | nil => exact rests_settleRake
  | cons payout payouts ih =>
      intro payments pending db
      rw [settlePayments]
      refine rests_findAccount fun db' _ view _ => ?_
      cases view.poolAccounts.get (.custody payout.1) with
      | none => exact ih
      | some custody => exact rests_uuid fun _ => rests_run (rests_run ih)

/-- The ledger of a settlement commits its own label, or nothing. -/
theorem rests_postSettlementLedger {payouts : List (ℕ × ℤ)} {rake : ℤ} :
    Calls.Rests calls (Onward g) (SettlesFor g) (Books.postSettlementLedger g payouts rake) []
      db := by
  refine rests_findAccount fun db₁ _ view _ => ?_
  cases view.poolAccounts.get (.escrow g) with
  | none => trivial
  | some escrow =>
      intro db₂ _ view _
      dsimp only
      split
      · trivial
      · exact rests_settlePayments

end Rests

/-! ### The ledger of a settlement -/

/-- A key of the settlement of a game. -/
def IdempotencyKey.settles (g : ℕ) : IdempotencyKey → Bool
  | .settle gameId _ _ | .settleRake gameId _ => decide (gameId = g)
  | _ => false

/-- The prizes of a game, and its rake. -/
def settlementLegs (g : ℕ) (rows : List Posting) : List Transaction :=
  (rows.map (·.row)).filter fun row =>
    row.gameId = some g ∧ (row.type = .payout ∨ row.type = .rake)

/-- What the ledger of a settlement needs: the accounts, and that it is not posted yet. -/
structure Postable (g winner : ℕ) (rake : ℤ) (db : Database) : Prop where
  escrow : (db.poolAccounts.get (.escrow g)).isSome
  custody : (db.poolAccounts.get (.custody winner)).isSome
  rake : 0 < rake → (db.poolAccounts.get .rake).isSome
  unposted : settlementLegs g db.transactions = []
  keys : ∀ p ∈ db.transactions, p.idempotencyKey.settles g = false

/-- The prize is posted once, and the rake, when there is one. -/
def PostedOnce (g winner : ℕ) (prize rake : ℤ) (db : Database) : Prop :=
  (settlementLegs g db.transactions).map
      (fun row => (row.type, row.direction, row.amountLamports, row.userId)) =
    [(.payout, .debit, prize, none), (.payout, .credit, prize, some winner)] ++
      if 0 < rake then [(.rake, .debit, rake, none), (.rake, .credit, rake, none)] else []

/-- It needs no more than the accounts and the legs. -/
theorem Postable.of_eq {g winner : ℕ} {rake : ℤ} {db db' : Database}
    (h : Postable g winner rake db) (haccounts : db'.poolAccounts = db.poolAccounts)
    (htransactions : db'.transactions = db.transactions) : Postable g winner rake db' where
  escrow := haccounts ▸ h.escrow
  custody := haccounts ▸ h.custody
  rake := haccounts ▸ h.rake
  unposted := htransactions ▸ h.unposted
  keys := htransactions ▸ h.keys

instance (g winner : ℕ) (rake : ℤ) (db : Database) : Decidable (Postable g winner rake db) :=
  decidable_of_iff
    ((db.poolAccounts.get (.escrow g)).isSome ∧ (db.poolAccounts.get (.custody winner)).isSome ∧
      (0 < rake → (db.poolAccounts.get .rake).isSome) ∧ settlementLegs g db.transactions = [] ∧
        ∀ p ∈ db.transactions, p.idempotencyKey.settles g = false)
    ⟨fun ⟨h₁, h₂, h₃, h₄, h₅⟩ => ⟨h₁, h₂, h₃, h₄, h₅⟩,
      fun h => ⟨h.escrow, h.custody, h.rake, h.unposted, h.keys⟩⟩

section Ledger
variable {g : ℕ} {db db' : Database} {x : Payment} {escrow : PoolAccount} {b : ℤ}

/-- An account that is there is written. -/
theorem exec_updateAccount {name : PoolAccountName} {a : PoolAccount} (data : AccountData)
    (h : db.poolAccounts.get name = some a) : Database.exec (.updateAccount name a data) db
      = .ok { db with poolAccounts := db.poolAccounts.upd name (data.write a) } := by
  simp only [Database.exec, h, ↓reduceIte]

/-- Postings of new keys are added. -/
theorem exec_createTransactions {rows : List Posting}
    (h : ∀ p ∈ rows, ∀ q ∈ db.transactions, q.idempotencyKey ≠ p.idempotencyKey) :
    Database.exec (.createTransactions rows) db
      = .ok { db with transactions := db.transactions ++ rows } := by
  simp only [Database.exec]
  rw [if_neg]
  simpa only [List.any_eq_true, decide_eq_true_eq, not_exists, not_and] using h

/-- No key of a list is one of the settlement, so a key of the settlement is not there. -/
theorem ne_of_settles {rows : List Posting}
    (hkeys : ∀ p ∈ db.transactions, p.idempotencyKey.settles g = false)
    (hrows : ∀ p ∈ rows, p.idempotencyKey.settles g = true) :
    ∀ p ∈ rows, ∀ q ∈ db.transactions, q.idempotencyKey ≠ p.idempotencyKey := by
  intro p hp q hq e
  cases (hkeys q hq).symm.trans (e ▸ hrows p hp)

/-- The prize of a winner with an account. -/
theorem runAll_prize (hcustody : db.poolAccounts.get (.custody x.userId) = some x.custody)
    (hkeys : ∀ p ∈ db.transactions, p.idempotencyKey.settles g = false) :
    ∃ view, runAll Database.exec [x.update, .createTransactions (x.prizeLegs g b)] db = .ok view ∧
      view.transactions = db.transactions ++ x.prizeLegs g b ∧ view.games = db.games ∧
        ∀ name, name ≠ .custody x.userId →
          view.poolAccounts.get name = db.poolAccounts.get name := by
  refine ⟨_, runAll_cons.mpr ⟨_, exec_updateAccount _ hcustody, runAll_one.mpr
    (exec_createTransactions (ne_of_settles (g := g) hkeys fun p hp => ?_))⟩, rfl, rfl,
    fun name hne => Table.get_upd_other hne⟩
  simp only [Payment.prizeLegs, Payment.legs, transfer, List.mem_cons, List.not_mem_nil,
    or_false] at hp
  obtain rfl | rfl := hp <;> simp [Side.posting, IdempotencyKey.settles]

/-- The rake. -/
theorem runAll_rake {y : Rake} (hrake : db.poolAccounts.get .rake = some y.account)
    (hkeys : ∀ p ∈ db.transactions, ∀ side, p.idempotencyKey ≠ .settleRake g side) :
    ∃ view, runAll Database.exec [y.update, .createTransactions (y.legs g b)] db = .ok view ∧
      view.transactions = db.transactions ++ y.legs g b ∧ view.games = db.games ∧
        ∀ name, name ≠ .rake → view.poolAccounts.get name = db.poolAccounts.get name := by
  refine ⟨_, runAll_cons.mpr ⟨_, exec_updateAccount _ hrake, runAll_one.mpr
    (exec_createTransactions fun p hp q hq => ?_)⟩, rfl, rfl,
    fun name hne => Table.get_upd_other hne⟩
  simp only [Rake.legs, transfer, List.mem_cons, List.not_mem_nil, or_false] at hp
  obtain rfl | rfl := hp <;> exact hkeys q hq _

end Ledger

end SnakeArena.Db
