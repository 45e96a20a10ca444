import SnakeArena.Books.Walks

/-!
# Books — no account goes below what it may

An account is `Sound` when it owes nobody: its balance is not negative, unless it is the
external one, and a custody account has what it reserved.

Four commits do not check all they would have to, and `Covers` says what each has to find: an
entry and an adjustment look at a custody balance but not at its reservation, an adjustment
takes from the treasury what is not there, a settlement pays prizes that the escrow may not
hold, and a withdrawal's reservation is written as it was read a while ago.
-/

namespace SnakeArena.Books
open SnakeArena.Library SnakeArena.Db SnakeArena.Gateway Database
open SnakeArena.Library.Calls (Trusted)

structure Sound (name : PoolAccountName) (a : PoolAccount) : Prop where
  kind : a.kind = name.kind
  balance : name ≠ .external → 0 ≤ a.balanceLamports
  reserved : name.kind = .userCustody →
    0 ≤ a.reservedLamports ∧ a.reservedLamports ≤ a.balanceLamports

/-- What the legs move into an account. -/
def moved (name : PoolAccountName) (legs : List LedgerLeg) : ℤ :=
  ((legs.filter (·.poolAccountId = name)).map LedgerLeg.delta).sum

/-- What an account has, if it is there. -/
def Database.covers (db : Database) (name : PoolAccountName) (p : PoolAccount → Bool) : Bool :=
  (db.poolAccounts.get name).all p

/-- What a commit has to find, besides what its call checked. -/
def Covers (db : Database) : Commit → Prop
  | .entry params _ _ =>
      ∀ leg ∈ params.legs, leg.poolAccountId.kind = .userCustody →
        db.covers leg.poolAccountId fun a =>
          a.reservedLamports ≤ a.balanceLamports + moved leg.poolAccountId params.legs
  | .settle _ payments rake escrow =>
      (∀ x ∈ payments, 0 ≤ x.lamports) ∧
        paymentsTotal payments + rakeTotal rake ≤ escrow.balanceLamports
  | .adjust x =>
      db.covers (.custody x.userId) (fun a => a.reservedLamports ≤ a.balanceLamports + x.delta) ∧
        db.covers .treasury fun a => x.delta ≤ a.balanceLamports
  | .unreserve withdrawal custody =>
      db.covers (.custody withdrawal.userId) fun a =>
        custody.reservedLamports ≤ a.balanceLamports + withdrawal.amountLamports
  | _ => True

instance (db : Database) (t : Commit) : Decidable (Covers db t) := by
  unfold Covers
  rcases t <;> dsimp only <;> infer_instance

/-- What a custody account that was read has. -/
def Good (balance reserved : ℤ) : Prop := 0 ≤ reserved ∧ reserved ≤ balance

theorem released_bounds {reserved lamports : ℤ} (hlamports : 0 < lamports) :
    0 ≤ released reserved lamports ∧ (0 ≤ reserved → released reserved lamports ≤ reserved) ∧
      (0 ≤ reserved - lamports → released reserved lamports = reserved - lamports) ∧
      (reserved - lamports ≤ 0 → released reserved lamports = 0) := by
  unfold released
  split <;> omega

theorem good_guards : Guards (fun db => db.poolAccounts.All Sound) Good where
  custody _ hdb userId a ha := (hdb _ _ ha).reserved rfl
  spent balance reserved lamports hgood hpos hle := by
    have := @released_bounds reserved lamports hpos
    unfold Good at *
    omega

section Statements
variable {db view : Database} {name : PoolAccountName} {read : PoolAccount} {data : AccountData}

/-- An update keeps every account sound when what it writes is. -/
theorem sound_update (hdb : db.poolAccounts.All Sound)
    (htrust : Trust (.updateAccount name read data) db)
    (hexec : exec (.updateAccount name read data) db = .ok view)
    (hwrite : ∀ a, db.poolAccounts.get name = some a → Sound name a →
      a.balanceLamports = read.balanceLamports → Sound name (data.write a)) :
    view.poolAccounts.All Sound := by
  obtain ⟨a, ha, hversion, rfl⟩ := writes hexec
  exact hdb.upd (hwrite a ha (hdb _ _ ha) (htrust a ha hversion).2)

theorem sound_create (hdb : db.poolAccounts.All Sound)
    (hexec : exec (.createAccount name) db = .ok view) : view.poolAccounts.All Sound := by
  obtain ⟨-, rfl⟩ := writes hexec
  exact hdb.upd ⟨rfl, fun _ => le_rfl, fun _ => ⟨le_rfl, le_rfl⟩⟩

/-- An account credited. -/
theorem Sound.credit {a : PoolAccount} (h : Sound name a)
    (hbalance : a.balanceLamports = read.balanceLamports) {lamports : ℤ} (hpos : 0 ≤ lamports) :
    Sound name (AccountData.write ⟨some (read.balanceLamports + lamports), none⟩ a) where
  kind := h.kind
  balance hname := by
    have := h.balance hname
    simp only [AccountData.write, Option.getD_some]
    omega
  reserved hname := by
    have := h.reserved hname
    simp only [AccountData.write, Option.getD_some, Option.getD_none]
    omega

/-- An escrow written. -/
theorem Sound.escrow {gameId : ℕ} {a : PoolAccount} (h : Sound (.escrow gameId) a) {balance : ℤ}
    (hbalance : 0 ≤ balance) :
    Sound (.escrow gameId) (AccountData.write ⟨some balance, none⟩ a) where
  kind := h.kind
  balance _ := hbalance
  reserved := nofun

/-- A reservation written, of what the balance has. -/
theorem Sound.reserve {userId : ℕ} {a : PoolAccount} (h : Sound (.custody userId) a) {reserved : ℤ}
    (hreserved : 0 ≤ reserved ∧ reserved ≤ a.balanceLamports) :
    Sound (.custody userId) (AccountData.write ⟨none, some reserved⟩ a) where
  kind := h.kind
  balance := h.balance
  reserved _ := hreserved

end Statements

/-! ### Loops -/

section Loops
variable {db view view' : Database} {gameId : ℕ}

theorem sound_rows {rows : List Posting} (hdb : db.poolAccounts.All Sound)
    (hexec : exec (.createTransactions rows) db = .ok view) : view.poolAccounts.All Sound := by
  have hw : view.poolAccounts = db.poolAccounts := writes hexec
  rwa [hw]

theorem sound_stakes {stakes : List Stake} (hstakes : ∀ x ∈ stakes,
      Good x.custody.balanceLamports x.custody.reservedLamports ∧
        x.row.lamports ≤ x.custody.balanceLamports) :
    ∀ {escrowBalance : ℤ} {db view : Database}, db.poolAccounts.All Sound →
      Trusted calls Trust (stakeStatements gameId escrowBalance stakes) db →
      runAll exec (stakeStatements gameId escrowBalance stakes) db = .ok view →
      view.poolAccounts.All Sound := by
  induction stakes with
  | nil =>
      intro _ db view hdb _ hrun
      exact Except.ok.inj hrun ▸ hdb
  | cons x xs ih =>
      intro escrowBalance db view hdb htrusted hrun
      obtain ⟨u, hu, hrest⟩ := runAll_append.mp hrun
      obtain ⟨w, hupdate, hcreate⟩ := runAll_cons.mp hu
      obtain ⟨hgood, hfunds⟩ := hstakes x List.mem_cons_self
      have hspent := good_guards.spent _ _ _ hgood x.row.pos hfunds
      have hw : w.poolAccounts.All Sound := by
        refine sound_update hdb htrusted.1 hupdate fun a _ ha _ =>
          ⟨ha.kind, fun _ => ?_, fun _ => hspent⟩
        exact hspent.1.trans hspent.2
      exact ih (fun y hy => hstakes y (List.mem_cons_of_mem _ hy))
        (sound_rows hw (runAll_one.mp hcreate)) (htrusted.right hu) hrest

theorem sound_payments {legs : ℤ → Payment → List Posting} {payments : List Payment}
    (hpayments : ∀ x ∈ payments, 0 ≤ x.lamports) :
    ∀ {escrowBalance : ℤ} {db view : Database}, db.poolAccounts.All Sound →
      Trusted calls Trust (paymentStatements legs escrowBalance payments) db →
      runAll exec (paymentStatements legs escrowBalance payments) db = .ok view →
      view.poolAccounts.All Sound := by
  induction payments with
  | nil =>
      intro _ db view hdb _ hrun
      exact Except.ok.inj hrun ▸ hdb
  | cons x xs ih =>
      intro escrowBalance db view hdb htrusted hrun
      rw [paymentStatements, List.append_assoc] at htrusted hrun
      obtain ⟨v, hv, hrun⟩ := runAll_append.mp hrun
      obtain ⟨u, hu, hrest⟩ := runAll_append.mp hrun
      obtain ⟨w, hupdate, hcreate⟩ := runAll_cons.mp hu
      have htrusted' := htrusted.right hv
      have hcreated : v.poolAccounts.All Sound := by
        split at hv
        · exact sound_create hdb (runAll_one.mp hv)
        · exact Except.ok.inj hv ▸ hdb
      have hw : w.poolAccounts.All Sound :=
        sound_update hcreated htrusted'.1 hupdate fun a _ ha hbalance =>
          ha.credit hbalance (hpayments x List.mem_cons_self)
      exact ih (fun y hy => hpayments y (List.mem_cons_of_mem _ hy))
        (sound_rows hw (runAll_one.mp hcreate)) (htrusted'.right hu) hrest

theorem sound_rake {rake : Option Rake} {escrowBalance : ℤ} (hdb : db.poolAccounts.All Sound)
    (hrake : 0 ≤ rakeTotal rake)
    (htrusted : Trusted calls Trust (rakeStatements gameId escrowBalance rake) db)
    (hrun : runAll exec (rakeStatements gameId escrowBalance rake) db = .ok view) :
    view.poolAccounts.All Sound := by
  cases rake with
  | none => exact Except.ok.inj hrun ▸ hdb
  | some x =>
      obtain ⟨w, hupdate, hcreate⟩ := runAll_cons.mp hrun
      have hw : w.poolAccounts.All Sound :=
        sound_update hdb htrusted.1 hupdate fun a _ ha hbalance => ha.credit hbalance hrake
      exact sound_rows hw (runAll_one.mp hcreate)

/-- Half way through an entry: reservations are as they were, and balances have moved. -/
def Halfway (db view : Database) (m : PoolAccountName → ℤ) : Prop :=
  ∀ name a', view.poolAccounts.get name = some a' → ∃ a, db.poolAccounts.get name = some a ∧
    a'.kind = name.kind ∧ a'.reservedLamports = a.reservedLamports ∧
    a'.balanceLamports = a.balanceLamports + m name ∧ (name ≠ .external → 0 ≤ a'.balanceLamports)

theorem moved_cons (name : PoolAccountName) (leg : LedgerLeg) (legs : List LedgerLeg) :
    moved name (leg :: legs) =
      (if leg.poolAccountId = name then leg.delta else 0) + moved name legs := by
  simp only [moved, List.filter_cons, decide_eq_true_eq]
  split <;> simp

/-- Only the external account may go negative. -/
theorem mayGoNegative_kind {name : PoolAccountName} (h : mayGoNegative name.kind = true) :
    name = .external := by
  cases name with
  | external => rfl
  | custody | escrow | treasury | rake | rewards => cases h

theorem Halfway.entry {params : PostEntryParams} {entryGroupId : ℕ} {legs : List EntryLeg}
    (hlegs : ∀ x ∈ legs, x.nextBalance < 0 → mayGoNegative x.account.kind = true) :
    ∀ {index : ℕ} {view view' : Database} {m : PoolAccountName → ℤ}, Halfway db view m →
      Trusted calls Trust (entryStatements params entryGroupId index legs) view →
      runAll exec (entryStatements params entryGroupId index legs) view = .ok view' →
      Halfway db view' fun name => m name + moved name (legs.map (·.leg)) := by
  induction legs with
  | nil =>
      intro index view view' m h _ hrun
      obtain rfl := Except.ok.inj hrun
      simpa [moved] using h
  | cons x xs ih =>
      intro index view view' m h htrusted hrun
      obtain ⟨u, hu, hrest⟩ := runAll_append.mp hrun
      obtain ⟨w, hupdate, hcreate⟩ := runAll_cons.mp hu
      have hrows : u.poolAccounts = w.poolAccounts := writes (runAll_one.mp hcreate)
      obtain ⟨b, hb, hversion, rfl⟩ := writes hupdate
      obtain ⟨hkind, hread⟩ := htrusted.1 b hb hversion
      have hstep : Halfway db u fun name =>
          m name + if x.leg.poolAccountId = name then x.leg.delta else 0 := by
        intro name a' ha'
        rw [hrows, Table.get_upd] at ha'
        split at ha'
        case isTrue e =>
            subst e
            obtain rfl := Option.some.inj ha'
            obtain ⟨a, ha, hname, hreserved, hbalance, -⟩ := h _ _ hb
            have hwritten : (AccountData.write ⟨some x.nextBalance, none⟩ b).balanceLamports =
                b.balanceLamports + x.leg.delta := by
              simp [AccountData.write, EntryLeg.nextBalance, hread]
            refine ⟨a, ha, hname, hreserved, ?_, fun hexternal => not_lt.mp fun hneg => ?_⟩
            · dsimp only
              rw [if_pos rfl, hwritten, hbalance, add_assoc]
            · rw [hwritten, hread] at hneg
              have := hlegs x List.mem_cons_self hneg
              rw [← hkind, hname] at this
              exact hexternal (mayGoNegative_kind this)
        case isFalse e =>
            dsimp only
            rw [if_neg (Ne.symm e), add_zero]
            exact h name a' ha'
      have := ih (fun y hy => hlegs y (List.mem_cons_of_mem _ hy)) hstep (htrusted.right hu) hrest
      simpa only [List.map_cons, moved_cons, add_assoc] using this

theorem Halfway.start (hdb : db.poolAccounts.All Sound) : Halfway db db fun _ => 0 :=
  fun name a ha => ⟨a, ha, (hdb name a ha).kind, rfl, (add_zero _).symm, (hdb name a ha).balance⟩

theorem moved_eq_zero {name : PoolAccountName} {legs : List LedgerLeg}
    (h : ∀ leg ∈ legs, leg.poolAccountId ≠ name) : moved name legs = 0 := by
  rw [moved, List.filter_eq_nil_iff.mpr fun leg hleg => by simpa using h leg hleg]
  rfl

/-- An entry that covers the reservations ends sound. -/
theorem Halfway.sound {legs : List LedgerLeg} (hdb : db.poolAccounts.All Sound)
    (h : Halfway db view fun name => 0 + moved name legs)
    (hcovers : ∀ leg ∈ legs, leg.poolAccountId.kind = .userCustody →
      db.covers leg.poolAccountId fun a =>
        a.reservedLamports ≤ a.balanceLamports + moved leg.poolAccountId legs) :
    view.poolAccounts.All Sound := by
  intro name a' ha'
  obtain ⟨a, ha, hkind, hreserved, hbalance, hnonneg⟩ := h name a' ha'
  refine ⟨hkind, hnonneg, fun hcustody => ?_⟩
  have hbefore := (hdb name a ha).reserved hcustody
  dsimp only at hbalance
  by_cases hleg : ∃ leg ∈ legs, leg.poolAccountId = name
  · obtain ⟨leg, hleg, rfl⟩ := hleg
    have := hcovers leg hleg hcustody
    simp only [Database.covers, ha, Option.all_some, decide_eq_true_eq] at this
    omega
  · rw [moved_eq_zero fun leg h e => hleg ⟨leg, h, e⟩] at hbalance
    omega

end Loops

/-! ### Commits -/

theorem sound_aside {db view : Database} {statement : Statement} (hdb : db.poolAccounts.All Sound)
    (hexec : exec statement db = .ok view)
    (hw : Writes db view statement → view.poolAccounts = db.poolAccounts) :
    view.poolAccounts.All Sound := by
  rw [hw (writes hexec)]
  exact hdb

theorem spendable_le {a : PoolAccount} {lamports : ℤ} (h : lamports ≤ spendable a)
    (hpos : 0 < lamports) : lamports ≤ a.balanceLamports - a.reservedLamports := by
  simp only [spendable] at h
  split at h <;> omega

section Commits
variable {db view : Database} {gameId : ℕ}

/-- A reservation is written that the balance it was read with covers, and then a row of its
own. -/
theorem sound_reservation {userId : ℕ} {custody : PoolAccount} {reserved : ℤ} {row : Statement}
    (hdb : db.poolAccounts.All Sound)
    (htrust : Trust (.updateAccount (.custody userId) custody ⟨none, some reserved⟩) db)
    (hrun : runAll exec
      [.updateAccount (.custody userId) custody ⟨none, some reserved⟩, row] db = .ok view)
    (hrow : ∀ u, Writes u view row → view.poolAccounts = u.poolAccounts)
    (hreserved : 0 ≤ reserved ∧ reserved ≤ custody.balanceLamports) :
    view.poolAccounts.All Sound := by
  obtain ⟨u, hu, hrest⟩ := runAll_cons.mp hrun
  refine sound_aside (sound_update hdb htrust hu fun a _ ha hbalance => ha.reserve ?_)
    (runAll_one.mp hrest) (hrow u)
  rwa [hbalance]

/-- What is spendable is not reserved yet. -/
theorem reserved_le {a : PoolAccount} {lamports : ℤ}
    (hgood : Good a.balanceLamports a.reservedLamports)
    (hpos : 0 < lamports) (h : lamports ≤ spendable a) :
    0 ≤ a.reservedLamports + lamports ∧ a.reservedLamports + lamports ≤ a.balanceLamports := by
  have := spendable_le h hpos
  unfold Good at hgood
  omega

theorem sound_entry {params : PostEntryParams} {entryGroupId : ℕ} {legs : List EntryLeg}
    (hdb : db.poolAccounts.All Sound)
    (hchecked : (Commit.entry params entryGroupId legs).Checked Good)
    (htrusted : Trusted calls Trust (Commit.entry params entryGroupId legs).statements db)
    (hcovers : Covers db (.entry params entryGroupId legs))
    (hrun : runAll exec (Commit.entry params entryGroupId legs).statements db = .ok view) :
    view.poolAccounts.All Sound := by
  obtain ⟨hlegs, -, hfunds⟩ := hchecked
  have h := Halfway.entry hfunds (.start hdb) htrusted hrun
  rw [hlegs] at h
  exact h.sound hdb hcovers

/-- What is given back was reserved, or all of it is. -/
theorem sound_release {row : StakeReservation} {custody : Option PoolAccount}
    (hdb : db.poolAccounts.All Sound) (hchecked : (Commit.release row custody).Checked Good)
    (htrusted : Trusted calls Trust (Commit.release row custody).statements db)
    (hrun : runAll exec (Commit.release row custody).statements db = .ok view) :
    view.poolAccounts.All Sound := by
  cases custody with
  | none => exact sound_aside hdb (runAll_one.mp hrun) id
  | some custody =>
      refine sound_reservation hdb htrusted.1 hrun (fun _ => id) ?_
      have hgood := hchecked custody rfl
      have := @released_bounds custody.reservedLamports row.lamports row.pos
      unfold Good at hgood
      omega

/-- The stakes are covered one by one, and the escrow gets their sum. -/
theorem sound_consume {tierId : String} {stakes : List Stake} {escrow : PoolAccount}
    (hdb : db.poolAccounts.All Sound)
    (hchecked : (Commit.consume tierId gameId stakes escrow).Checked Good)
    (htrusted : Trusted calls Trust (Commit.consume tierId gameId stakes escrow).statements db)
    (hrun : runAll exec (Commit.consume tierId gameId stakes escrow).statements db = .ok view) :
    view.poolAccounts.All Sound := by
  obtain ⟨u, hu, hrest⟩ := runAll_append.mp hrun
  obtain ⟨w, hw, hdelete⟩ := runAll_cons.mp hrest
  have hstakes := sound_stakes hchecked hdb htrusted.left hu
  refine sound_aside (sound_update hstakes (htrusted.right hu).1 hw fun a _ ha hbalance => ?_)
    (runAll_one.mp hdelete) id
  have hescrow := ha.balance nofun
  have : 0 ≤ stakesTotal stakes := List.sum_nonneg (by simpa using fun x _ => x.row.pos.le)
  exact ha.escrow (by omega)

/-- The refunds are positive, and the escrow has their sum. -/
theorem sound_refund {reason : String} {payments : List Payment} {escrow : PoolAccount}
    (hdb : db.poolAccounts.All Sound)
    (hchecked : (Commit.refund gameId reason payments escrow).Checked Good)
    (htrusted : Trusted calls Trust (Commit.refund gameId reason payments escrow).statements db)
    (hrun : runAll exec (Commit.refund gameId reason payments escrow).statements db = .ok view) :
    view.poolAccounts.All Sound := by
  obtain ⟨hpos, htotal⟩ := hchecked
  obtain ⟨u, hu, hcancel⟩ := runAll_append.mp hrun
  obtain ⟨w, hw, hescrow⟩ := runAll_append.mp hu
  have hpayments := sound_payments (fun x hx => (hpos x hx).le) hdb htrusted.left.left hw
  have htrusted' := htrusted.left.right hw
  refine sound_aside ?_ (runAll_one.mp hcancel) id
  split at hescrow
  · exact Except.ok.inj hescrow ▸ hpayments
  next hempty =>
      rw [if_neg hempty] at htrusted'
      exact sound_update hpayments htrusted'.1 (runAll_one.mp hescrow) fun a _ ha _ =>
        ha.escrow (by omega)

/-- The prizes and the rake are no more than the escrow has, as `Covers` asks. -/
theorem sound_settle {payments : List Payment} {rake : Option Rake} {escrow : PoolAccount}
    (hdb : db.poolAccounts.All Sound)
    (hchecked : (Commit.settle gameId payments rake escrow).Checked Good)
    (htrusted : Trusted calls Trust (Commit.settle gameId payments rake escrow).statements db)
    (hcovers : Covers db (.settle gameId payments rake escrow))
    (hrun : runAll exec (Commit.settle gameId payments rake escrow).statements db = .ok view) :
    view.poolAccounts.All Sound := by
  obtain ⟨hpos, htotal⟩ := hcovers
  obtain ⟨u, hu, hescrow⟩ := runAll_append.mp hrun
  obtain ⟨w, hw, hrake⟩ := runAll_append.mp hu
  have hpayments := sound_payments hpos hdb htrusted.left.left hw
  have hraked := sound_rake hpayments hchecked (htrusted.left.right hw) hrake
  exact sound_update hraked (htrusted.right hu).1 (runAll_one.mp hescrow) fun a _ ha _ =>
    ha.escrow (by omega)

/-- An adjustment that leaves the player the reservation, and that the treasury covers. -/
theorem sound_adjust {x : Adjustment} (hdb : db.poolAccounts.All Sound)
    (hchecked : (Commit.adjust x).Checked Good)
    (htrusted : Trusted calls Trust (Commit.adjust x).statements db)
    (hcovers : Covers db (.adjust x))
    (hrun : runAll exec (Commit.adjust x).statements db = .ok view) :
    view.poolAccounts.All Sound := by
  obtain ⟨hcustody, htreasury⟩ := hcovers
  obtain ⟨u, hu, hrest⟩ := runAll_cons.mp hrun
  obtain ⟨w, hw, hcreate⟩ := runAll_cons.mp hrest
  have hu' : u.poolAccounts.All Sound := by
    refine sound_update hdb htrusted.1 hu fun a ha hsound hbalance =>
      ⟨hsound.kind, fun _ => hchecked, fun hname => ?_⟩
    have := hsound.reserved hname
    simp only [Database.covers, ha, Option.all_some, decide_eq_true_eq] at hcustody
    rw [hbalance] at hcustody
    exact ⟨this.1, hcustody⟩
  -- the player's account is not the treasury
  have htreasury' : u.poolAccounts.get .treasury = db.poolAccounts.get .treasury := by
    obtain ⟨_, _, _, rfl⟩ := writes hu
    exact Table.get_upd_other (by simp)
  refine sound_rows (sound_update hu' (htrusted.2 u hu).1 hw fun a ha hsound hbalance =>
    ⟨hsound.kind, fun _ => ?_, nofun⟩) (runAll_one.mp hcreate)
  rw [htreasury'] at ha
  simp only [Database.covers, ha, Option.all_some, decide_eq_true_eq] at htreasury
  simp only [AccountData.write, Option.getD_some, Adjustment.treasuryBalance]
  omega

/-- The reservation as it was read, of an account that still covers it. -/
theorem sound_unreserve {withdrawal : Withdrawal} {custody : PoolAccount}
    (hdb : db.poolAccounts.All Sound) (hcovers : Covers db (.unreserve withdrawal custody))
    (hrun : runAll exec (Commit.unreserve withdrawal custody).statements db = .ok view) :
    view.poolAccounts.All Sound := by
  obtain ⟨a, ha, rfl⟩ := writes (runAll_one.mp hrun)
  have hsound := hdb _ a ha
  refine hdb.upd ⟨hsound.kind, hsound.balance, fun hname => ?_⟩
  have := hsound.reserved hname
  simp only [Covers, Database.covers, ha, Option.all_some, decide_eq_true_eq] at hcovers
  have := withdrawal.pos
  simp only [released]
  split <;> omega

/-- **A commit that finds what it has to keeps every account sound.** -/
theorem sound_commit {t : Commit} (hdb : db.poolAccounts.All Sound)
    (hchecked : t.Checked Good) (htrusted : Trusted calls Trust t.statements db)
    (hcovers : Covers db t) (hrun : runAll exec t.statements db = .ok view) :
    view.poolAccounts.All Sound := by
  cases t with
  | createAccount => exact sound_create hdb (runAll_one.mp hrun)
  | entry => exact sound_entry hdb hchecked htrusted hcovers hrun
  | reserve row account =>
      exact sound_reservation hdb htrusted.1 hrun (fun _ => id)
        (reserved_le hchecked.1 row.pos hchecked.2)
  | release => exact sound_release hdb hchecked htrusted hrun
  | consume => exact sound_consume hdb hchecked htrusted hrun
  | refund => exact sound_refund hdb hchecked htrusted hrun
  | settle => exact sound_settle hdb hchecked htrusted hcovers hrun
  | adjust => exact sound_adjust hdb hchecked htrusted hcovers hrun
  | intent row custody =>
      exact sound_reservation hdb htrusted.1 hrun (fun _ => id)
        (reserved_le hchecked.1 row.pos hchecked.2.1)
  | unreserve => exact sound_unreserve hdb hcovers hrun
  | cancel | updateWithdrawal => exact sound_aside hdb (runAll_one.mp hrun) id

end Commits

/-! ### Runs -/

/-- Sound accounts, and no call running. -/
structure SoundStart (s : System Database Call) : Prop where
  sound : s.store.poolAccounts.All Sound
  procs : s.procs = Table.empty

theorem sound_keeps : calls.processes.Keeps (Calls.Allows Covers)
    (fun db => db.poolAccounts.All Sound)
    (fun s _ p => Calls.Knows calls (fun db => db.poolAccounts.All Sound) Later Trust
      (Spec Good) s p)
    fun _ _ => True :=
  calls_keep good_guards (fun _ _ _ => sound_commit) fun _ _ hI => hI

/-- **No account goes below what it may**, as long as each entry and each adjustment covers the
reservations, the treasury covers the adjustments, the escrow the settlement, and a withdrawal's
reservation is given back to an account that has what it read. -/
theorem accounts_sound {s : System Database Call}
    (hs : Reachable (Guarded calls.processes.Step (Calls.Allows Covers)) SoundStart s) :
    s.store.poolAccounts.All Sound := by
  refine (sound_keeps.reachable (fun s h₀ => ⟨h₀.sound, ?_, fun _ _ _ _ _ _ _ => trivial⟩) hs).1
  rw [h₀.procs]
  exact Table.All.empty

/-- An adjustment of 100 lamports, and one that takes 30 of them back. -/
def adjustments : List (Act Call Answer Outside) :=
  callOnce (.createAccount .external) 6 ++ callOnce (.createAccount .treasury) 6 ++
    callOnce (.postEntry ⟨.transfer,
      [⟨.external, none, .debit, 500⟩, ⟨.treasury, none, .credit, 500⟩], .deposit 3, none, none,
        none⟩ 2) 9 ++
    callOnce (.adjustBalance 1 100 "found") 15 ++ callOnce (.adjustBalance 1 (-30) "back") 12

theorem accounts_sound_adjusted : ∃ s,
    Reachable (Guarded calls.processes.Step (Calls.Allows Covers)) SoundStart s ∧
      (s.store.poolAccounts.get (.custody 1)).map (·.balanceLamports) = some 70 ∧
      s.store.poolAccounts.All Sound := by
  have hinit : SoundStart emptyDatabase := ⟨Table.All.empty, rfl⟩
  have hrun : (calls.processes.actsWhen (Calls.Allows Covers) emptyDatabase adjustments).any
    (fun s =>
      (s.store.poolAccounts.get (.custody 1)).map (·.balanceLamports) = some 70) = true := by decide
  obtain ⟨s, hs, htest⟩ := calls.processes.reachable_of_actsWhen hinit hrun
  exact ⟨s, hs, by simpa using htest, accounts_sound hs⟩

/-- An adjustment takes from a treasury that has nothing. -/
theorem accounts_sound_treasury : ¬∀ s, Reachable calls.processes.Step (emptyDatabase = ·) s →
    s.store.poolAccounts.All Sound := by
  intro h
  have hrun : (calls.processes.acts emptyDatabase (callOnce (.createAccount .treasury) 6 ++
      callOnce (.adjustBalance 1 100 "found") 15)).any (fun s =>
        s.store.poolAccounts.get .treasury = some ⟨.treasury, -100, 0, 1⟩) = true := by decide
  obtain ⟨s, hs, htest⟩ := calls.processes.reachable_of_acts (Eq.refl emptyDatabase) hrun
  exact absurd ((h s hs .treasury _ (by simpa using htest)).balance nofun) (by decide)

end SnakeArena.Books
