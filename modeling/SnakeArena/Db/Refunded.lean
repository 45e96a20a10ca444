import SnakeArena.Db.Refund
import SnakeArena.Db.Reserved

/-!
# Db — stakes are refunded once

A player stakes a game at most once, since the key of the stake stays in the ledger, and is
refunded at most once, since the refund does.  So what the escrow was credited with in a player's
name has either been refunded whole or not at all (`Even`), however the operations on the books
alternate.

A second `consumeReservations` of a game finds nobody whom the first one charged, but a
cancellation refunds both: it restores the balances before the last of them only when the game
owed nobody then (`cancelGameAndRefund_once`).
-/

namespace SnakeArena.Db
open SnakeArena.Library SnakeArena.Books Database

/-! ### Stakes and refunds in the ledger -/

section Ledger
variable {rows legs : List Posting} {gameId userId : ℕ}

/-- What is credited adds up over the postings. -/
theorem credited_append : credited (rows ++ legs) gameId userId
    = credited rows gameId userId + credited legs gameId userId := by
  simp [credited]

/-- What is refunded adds up too. -/
theorem refunded_append : refunded (rows ++ legs) gameId userId
    = refunded rows gameId userId + refunded legs gameId userId := by
  simp [refunded]

/-- Whether a player was repaid is seen in one part or the other. -/
theorem repaid_append : Repaid (rows ++ legs) gameId userId ↔
    Repaid rows gameId userId ∨ Repaid legs gameId userId := by
  simp only [Repaid, List.mem_append, or_and_right, exists_or]

/-- Where no posting returns anything to the player, nothing is refunded. -/
theorem refunded_eq_zero (h : ∀ p ∈ rows, ¬ Returns gameId userId p) :
    refunded rows gameId userId = 0 := by
  have hnil : rows.filter (Returns gameId userId ·) = [] :=
    List.filter_eq_nil_iff.mpr fun p hp => by simpa using h p hp
  rw [refunded, hnil]
  rfl

/-- Of the stake of a player in a game, or its refund. -/
def Touches (gameId userId : ℕ) (p : Posting) : Prop :=
  Stakes gameId userId p ∨ Returns gameId userId p ∨ Releases gameId userId p ∨
    ∃ escrow, p.idempotencyKey = .refund gameId userId escrow

/-- What the escrow was credited with in a player's name has been refunded whole, or not at
all. -/
structure Even (rows : List Posting) (gameId userId : ℕ) : Prop where
  repaid : Repaid rows gameId userId →
    refunded rows gameId userId = credited rows gameId userId ∧
      ∃ p ∈ rows, p.idempotencyKey = .stake gameId userId true
  unpaid : ¬ Repaid rows gameId userId → refunded rows gameId userId = 0
  fresh : ∀ p ∈ rows, ∀ escrow, p.idempotencyKey = .refund gameId userId escrow →
    Repaid rows gameId userId

/-- Legs that do not touch the player of the game leave its account of the game even. -/
theorem Even.append (h : Even rows gameId userId) (hlegs : ∀ p ∈ legs, ¬ Touches gameId userId p) :
    Even (rows ++ legs) gameId userId := by
  have hcredited : credited (rows ++ legs) gameId userId = credited rows gameId userId := by
    rw [credited_append, credited_eq_zero fun p hp hs => hlegs p hp (.inl hs), add_zero]
  have hrefunded : refunded (rows ++ legs) gameId userId = refunded rows gameId userId := by
    rw [refunded_append, refunded_eq_zero fun p hp hr => hlegs p hp (.inr (.inl hr)), add_zero]
  have hrepaid : Repaid (rows ++ legs) gameId userId ↔ Repaid rows gameId userId := by
    rw [repaid_append, or_iff_left]
    rintro ⟨p, hp, hr⟩
    exact hlegs p hp (.inr (.inr (.inl hr)))
  refine ⟨fun hr => ?_, fun hr => ?_, fun p hp escrow hkey => ?_⟩
  · obtain ⟨heq, p, hp, hkey⟩ := h.repaid (hrepaid.mp hr)
    exact ⟨by rw [hrefunded, heq, hcredited], p, List.mem_append_left _ hp, hkey⟩
  · rw [hrefunded]
    exact h.unpaid (mt hrepaid.mpr hr)
  · rcases List.mem_append.mp hp with hp | hp
    · exact hrepaid.mpr (h.fresh p hp escrow hkey)
    · exact absurd (.inr (.inr (.inr ⟨escrow, hkey⟩))) (hlegs p hp)

end Ledger

/-! ### The legs of a stake and of a refund -/

/-- A leg of the pairs is one of a row's. -/
theorem mem_pairs {α : Type} {R : α → List Posting → Prop} {xs : List α}
    {pairs : List (List Posting)} (h : List.Forall₂ R xs pairs) {p : Posting}
    (hp : p ∈ pairs.flatten) : ∃ x ∈ xs, ∃ legs, R x legs ∧ p ∈ legs := by
  induction h with
  | nil => cases hp
  | @cons x legs xs pairs hx _ ih =>
      rcases List.mem_append.mp hp with hp | hp
      · exact ⟨x, List.mem_cons_self, legs, hx, hp⟩
      · obtain ⟨y, hy, hrest⟩ := ih hp
        exact ⟨y, List.mem_cons_of_mem _ hy, hrest⟩

/-- The two legs of a refund: out of the escrow and into the custody, under keys of their own. -/
theorem refundPair_mem {gameId : ℕ} {x : ℕ × ℤ} {legs : List Posting}
    (h : RefundPair gameId x legs) : ∀ p ∈ legs, p.row.type = .refund ∧
      p.row.gameId = some gameId ∧ p.row.userId = some x.1 ∧
      (p.row.poolAccountId = .escrow gameId ∧ p.row.direction = .debit ∧
          p.idempotencyKey = .refund gameId x.1 true ∨
        p.row.poolAccountId = .custody x.1 ∧ p.row.direction = .credit ∧
          p.idempotencyKey = .refund gameId x.1 false) := by
  obtain ⟨entryGroupId, custodyAfter, escrowAfter, rfl⟩ := h
  intro p hp
  simp only [transfer, Side.posting, List.mem_cons, List.not_mem_nil, or_false] at hp
  rcases hp with rfl | rfl
  · exact ⟨rfl, rfl, rfl, .inl ⟨rfl, rfl, rfl⟩⟩
  · exact ⟨rfl, rfl, rfl, .inr ⟨rfl, rfl, rfl⟩⟩

/-- The two legs of an entry fee: the stake that leaves the custody, and the escrow's credit. -/
theorem entryFeePair_mem {params : ConsumeParams} {row : StakeReservation} {legs : List Posting}
    (h : EntryFeePair params row legs) : ∀ p ∈ legs, p.row.type = .entryFee ∧
      p.row.gameId = some params.gameId ∧ p.row.userId = some row.userId ∧
      p.row.amountLamports = row.lamports ∧
      (p.row.direction = .debit ∧ p.idempotencyKey = .stake params.gameId row.userId false ∨
        p.row.poolAccountId = .escrow params.escrowAccountId ∧ p.row.direction = .credit ∧
          p.idempotencyKey = .stake params.gameId row.userId true) := by
  obtain ⟨entryGroupId, custodyAfter, escrowAfter, rfl⟩ := h
  intro p hp
  simp only [transfer, Side.posting, List.mem_cons, List.not_mem_nil, or_false] at hp
  rcases hp with rfl | rfl
  · exact ⟨rfl, rfl, rfl, rfl, .inl ⟨rfl, rfl⟩⟩
  · exact ⟨rfl, rfl, rfl, rfl, .inr ⟨rfl, rfl, rfl⟩⟩

/-- What a player is refunded. -/
def refundOf (refunds : List (ℕ × ℤ)) (userId : ℕ) : ℤ :=
  (refunds.map fun x => if x.1 = userId then x.2 else 0).sum

/-- What the pairs of a refund return to a player is what it lists for them. -/
theorem refunded_pairs {gameId : ℕ} {refunds : List (ℕ × ℤ)} {pairs : List (List Posting)}
    (h : List.Forall₂ (RefundPair gameId) refunds pairs) (userId : ℕ) :
    refunded pairs.flatten gameId userId = refundOf refunds userId := by
  induction h with
  | nil => rfl
  | @cons x legs refunds pairs hx _ ih =>
      obtain ⟨entryGroupId, custodyAfter, escrowAfter, rfl⟩ := hx
      rw [List.flatten_cons, refunded_append, ih, refundOf, refundOf, List.map_cons,
        List.sum_cons]
      congr 1
      simp only [refunded, transfer, Side.posting, Returns]
      by_cases e : x.1 = userId
      · simp [e]
      · simp [e]

/-- What a player stakes. -/
theorem credited_pairs {params : ConsumeParams} (hescrow : params.escrowAccountId = params.gameId)
    {rows : List StakeReservation} {pairs : List (List Posting)}
    (h : List.Forall₂ (EntryFeePair params) rows pairs) (userId : ℕ) :
    credited pairs.flatten params.gameId userId = (rows.map (StakeReservation.of userId)).sum := by
  induction h with
  | nil => rfl
  | @cons row legs rows pairs hrow _ ih =>
      obtain ⟨entryGroupId, custodyAfter, escrowAfter, rfl⟩ := hrow
      rw [List.flatten_cons, credited_append, ih, List.map_cons, List.sum_cons]
      congr 1
      simp only [credited, transfer, Side.posting, Stakes, StakeReservation.of, hescrow]
      by_cases e : row.userId = userId
      · simp [e]
      · simp [e]

/-! ### One call after another -/

/-- Stakes consumed keep it: a player who was repaid has a stake in the game already, and cannot
stake again. -/
theorem Consumes.even {params : ConsumeParams} {rows : List StakeReservation} {db db' : Database}
    {result : Consumed} (h : Consumes params rows db result db') {gameId userId : ℕ}
    (heven : Even db.transactions gameId userId) : Even db'.transactions gameId userId := by
  obtain ⟨pairs, hpairs, hlegs⟩ := h.legs
  rw [hpairs]
  have htype : ∀ p ∈ pairs.flatten, p.row.type = .entryFee := fun p hp => by
    obtain ⟨row, -, legs, hlegs, hp⟩ := mem_pairs hlegs hp
    exact (entryFeePair_mem hlegs p hp).1
  have hreturns : ∀ p ∈ pairs.flatten, ¬ Returns gameId userId p := fun p hp hr =>
    nomatch (htype p hp).symm.trans hr.2.2.1
  have hreleases : ¬ Repaid pairs.flatten gameId userId := fun ⟨p, hp, hr⟩ =>
    nomatch (htype p hp).symm.trans hr.2.2.1
  have hkeys : ∀ p ∈ pairs.flatten, ∀ escrow, p.idempotencyKey ≠ .refund gameId userId escrow := by
    intro p hp escrow e
    obtain ⟨row, -, legs, hlegs, hp⟩ := mem_pairs hlegs hp
    obtain ⟨-, -, -, -, ⟨-, hkey⟩ | ⟨-, -, hkey⟩⟩ := entryFeePair_mem hlegs p hp
    · cases hkey.symm.trans e
    · cases hkey.symm.trans e
  by_cases hrepaid : Repaid db.transactions gameId userId
  · -- the player has staked this game before, and is not charged again
    refine heven.append fun p hp htouches => ?_
    obtain ⟨-, q, hq, hkey⟩ := heven.repaid hrepaid
    rcases htouches with hs | hr | hr | ⟨escrow, hkey'⟩
    · obtain ⟨row, hrow, legs, hlegs, hp⟩ := mem_pairs hlegs hp
      obtain ⟨-, hgame, huser, -⟩ := entryFeePair_mem hlegs p hp
      obtain rfl : params.gameId = gameId := Option.some.inj (hgame.symm.trans hs.1)
      obtain rfl : row.userId = userId := Option.some.inj (huser.symm.trans hs.2.2.2.2)
      exact h.fresh row hrow true q hq hkey
    · exact hreturns p hp hr
    · exact hreleases ⟨p, hp, hr⟩
    · exact hkeys p hp escrow hkey'
  · have hrepaid' : ¬ Repaid (db.transactions ++ pairs.flatten) gameId userId := by
      rw [repaid_append]
      exact not_or.mpr ⟨hrepaid, hreleases⟩
    refine ⟨fun hr => absurd hr hrepaid', fun _ => ?_, fun p hp escrow hkey => ?_⟩
    · rw [refunded_append, heven.unpaid hrepaid, refunded_eq_zero hreturns, add_zero]
    · rcases List.mem_append.mp hp with hp | hp
      · exact absurd (heven.fresh p hp escrow hkey) hrepaid
      · exact absurd hkey (hkeys p hp escrow)

/-- The legs of a refund do not stake anything. -/
theorem credited_refunds {gameId : ℕ} {refunds : List (ℕ × ℤ)} {pairs : List (List Posting)}
    (h : List.Forall₂ (RefundPair gameId) refunds pairs) (gameId' userId : ℕ) :
    credited pairs.flatten gameId' userId = 0 := by
  refine credited_eq_zero fun p hp hs => ?_
  obtain ⟨x, -, legs, hlegs, hp⟩ := mem_pairs h hp
  cases (refundPair_mem hlegs p hp).1.symm.trans hs.2.2.1

/-- A refund repays whom it is for. -/
theorem repaid_pairs {gameId : ℕ} {refunds : List (ℕ × ℤ)} {pairs : List (List Posting)}
    (h : List.Forall₂ (RefundPair gameId) refunds pairs) {gameId' userId : ℕ} :
    Repaid pairs.flatten gameId' userId ↔ gameId' = gameId ∧ ∃ x ∈ refunds, x.1 = userId := by
  constructor
  · rintro ⟨p, hp, hr⟩
    obtain ⟨x, hx, legs, hlegs, hp⟩ := mem_pairs h hp
    obtain ⟨-, hgame, huser, -⟩ := refundPair_mem hlegs p hp
    exact ⟨Option.some.inj (hr.1.symm.trans hgame), x, hx,
      Option.some.inj (huser.symm.trans hr.2.2.2.2)⟩
  · rintro ⟨rfl, x, hx, rfl⟩
    induction h with
    | nil => cases hx
    | @cons y legs refunds pairs hy _ ih =>
        rw [List.flatten_cons, repaid_append]
        rcases List.mem_cons.mp hx with rfl | hx
        · obtain ⟨entryGroupId, custodyAfter, escrowAfter, rfl⟩ := hy
          exact .inl ⟨_, List.mem_cons_self, rfl, rfl, rfl, rfl, rfl⟩
        · exact .inr (ih hx)

/-- A player who is listed once gets what the list says. -/
theorem refundOf_mem {refunds : List (ℕ × ℤ)} (h : UniqueKeys Prod.fst refunds) {x : ℕ × ℤ}
    (hx : x ∈ refunds) : refundOf refunds x.1 = x.2 := sum_of_key Prod.snd h hx

/-- What is owed to a player is what has not been refunded. -/
theorem refundOf_owed {db : Database} {gameId userId : ℕ}
    (heven : Even db.transactions gameId userId)
    (hpos : 0 ≤ credited db.transactions gameId userId) :
    refundOf (db.owed gameId) userId
      = credited db.transactions gameId userId - refunded db.transactions gameId userId := by
  by_cases howed : (userId, credited db.transactions gameId userId) ∈ db.owed gameId
  · rw [refundOf_mem (owed_users db gameId) howed, heven.unpaid (mem_owed.mp howed).2.2, sub_zero]
  · have hnone : refundOf (db.owed gameId) userId = 0 := by
      refine List.sum_eq_zero fun n hn => ?_
      obtain ⟨⟨userId', lamports⟩, hx, rfl⟩ := List.mem_map.mp hn
      refine if_neg fun e => howed ?_
      obtain rfl : userId' = userId := e
      obtain ⟨rfl, -⟩ := mem_owed.mp hx
      exact hx
    by_cases hrepaid : Repaid db.transactions gameId userId
    · rw [hnone, (heven.repaid hrepaid).1, sub_self]
    · have hzero : credited db.transactions gameId userId = 0 := by
        by_contra hne
        exact howed (mem_owed.mpr ⟨rfl, lt_of_le_of_ne hpos (Ne.symm hne), hrepaid⟩)
      rw [hnone, heven.unpaid hrepaid, hzero, sub_zero]

/-- The legs of a refund are about those it is for. -/
theorem touches_refunds {gameId : ℕ} {refunds : List (ℕ × ℤ)} {pairs : List (List Posting)}
    (h : List.Forall₂ (RefundPair gameId) refunds pairs) {gameId' userId : ℕ} {p : Posting}
    (hp : p ∈ pairs.flatten) (htouches : Touches gameId' userId p) :
    gameId' = gameId ∧ ∃ x ∈ refunds, x.1 = userId := by
  obtain ⟨x, hx, legs, hlegs, hp'⟩ := mem_pairs h hp
  obtain ⟨htype, hgame, huser, hside⟩ := refundPair_mem hlegs p hp'
  rcases htouches with hs | hr | hr | ⟨escrow, hkey⟩
  · cases htype.symm.trans hs.2.2.1
  · refine ⟨Option.some.inj (hr.1.symm.trans hgame), x, hx, ?_⟩
    rcases hside with ⟨haccount, -⟩ | ⟨haccount, -⟩
    · cases haccount.symm.trans hr.2.1
    · exact PoolAccountName.custody.inj (haccount.symm.trans hr.2.1)
  · exact (repaid_pairs h).mp ⟨p, hp, hr⟩
  · rcases hside with ⟨-, -, hkey'⟩ | ⟨-, -, hkey'⟩
    · obtain ⟨rfl, rfl, -⟩ := IdempotencyKey.refund.inj (hkey'.symm.trans hkey)
      exact ⟨rfl, x, hx, rfl⟩
    · obtain ⟨rfl, rfl, -⟩ := IdempotencyKey.refund.inj (hkey'.symm.trans hkey)
      exact ⟨rfl, x, hx, rfl⟩

/-- What a call refunds was owed. -/
theorem Repays.owed {gameId : ℕ} {db db' : Database} {result : CancelGameResult}
    (h : Repays gameId db result db') : ∀ x ∈ result.refunds, x ∈ db.owed gameId := by
  intro x hx
  cases hescrow : db.poolAccounts.get (.escrow gameId) with
  | none =>
      rw [h.free hescrow] at hx
      cases hx
  | some a => exact h.refunds (by rw [hescrow]; rfl) ▸ hx

/-- A player is repaid once by a call. -/
theorem Repays.users {gameId : ℕ} {db db' : Database} {result : CancelGameResult}
    (h : Repays gameId db result db') : UniqueKeys Prod.fst result.refunds := by
  cases hescrow : db.poolAccounts.get (.escrow gameId) with
  | none =>
      rw [h.free hescrow]
      exact List.nodup_nil
  | some a =>
      rw [h.refunds (by rw [hescrow]; rfl)]
      exact owed_users db gameId

/-- **A refund leaves each account of a game even**: what a player was credited comes back whole. -/
theorem Repays.even {gameId : ℕ} {db db' : Database} {result : CancelGameResult}
    (h : Repays gameId db result db') {gameId' userId : ℕ}
    (hkeyed : ∀ p ∈ db.transactions, Stakes gameId' userId p →
      p.idempotencyKey = .stake gameId' userId true)
    (heven : Even db.transactions gameId' userId) : Even db'.transactions gameId' userId := by
  obtain ⟨pairs, hpairs, hlegs⟩ := h.legs
  rw [hpairs]
  by_cases hfor : gameId' = gameId ∧ ∃ x ∈ result.refunds, x.1 = userId
  · obtain ⟨rfl, ⟨userId', lamports⟩, hx, rfl⟩ := hfor
    obtain ⟨rfl, hpos, hunpaid⟩ := mem_owed.mp (h.owed _ hx)
    have hrepaid : Repaid (db.transactions ++ pairs.flatten) gameId' userId' :=
      repaid_append.mpr (.inr ((repaid_pairs hlegs).mpr ⟨rfl, _, hx, rfl⟩))
    refine ⟨fun _ => ⟨?_, ?_⟩, fun hr => absurd hrepaid hr, fun _ _ _ _ => hrepaid⟩
    · rw [refunded_append, heven.unpaid hunpaid, refunded_pairs hlegs, refundOf_mem h.users hx,
        credited_append, credited_refunds hlegs, add_zero, zero_add]
    · -- what is owed was staked
      by_contra hnone
      refine hpos.ne' (credited_eq_zero fun p hp hs => hnone ?_)
      exact ⟨p, List.mem_append_left _ hp, hkeyed p hp hs⟩
  · exact heven.append fun p hp htouches => hfor (touches_refunds hlegs hp htouches)

/-! ### What else happens -/

/-- Lamports reach accounts, and legs are posted: no reservation is touched, and no custody
account loses anything. -/
structure Pays (P : Posting → Prop) (db db' : Database) : Prop where
  kept : ∀ name a, db.poolAccounts.get name = some a → ∃ a',
    db'.poolAccounts.get name = some a' ∧ a'.reservedLamports = a.reservedLamports ∧
      ∀ userId, name = .custody userId → a.balanceLamports ≤ a'.balanceLamports
  opened : ∀ userId a', db.poolAccounts.get (.custody userId) = none →
    db'.poolAccounts.get (.custody userId) = some a' →
      a'.reservedLamports = 0 ∧ 0 ≤ a'.balanceLamports
  legs : ∃ legs, db'.transactions = db.transactions ++ legs ∧ ∀ p ∈ legs, P p
  stakes : db'.stakeReservations = db.stakeReservations

section Pays
variable {P : Posting → Prop} {db db' db'' : Database}

theorem Pays.refl (db : Database) : Pays P db db where
  kept _ a ha := ⟨a, ha, rfl, fun _ _ => le_rfl⟩
  opened _ _ hnone hsome := nomatch hnone.symm.trans hsome
  legs := ⟨[], (List.append_nil _).symm, List.forall_mem_nil _⟩
  stakes := rfl

/-- An account that was there stays. -/
theorem Pays.present (h : Pays P db db') {name : PoolAccountName}
    (hname : db.poolAccounts.get name ≠ none) : db'.poolAccounts.get name ≠ none := by
  obtain ⟨a, ha⟩ := Option.ne_none_iff_exists'.mp hname
  obtain ⟨a', ha', -⟩ := h.kept name a ha
  rw [ha']
  exact nofun

/-- Payments keep the reservations backed. -/
theorem Pays.backed (h : Pays P db db') (hdb : Backed db) : Backed db' where
  stakes := h.stakes ▸ hdb.stakes
  custody row hrow := h.present (hdb.custody row (h.stakes ▸ hrow))
  reserved userId a' ha' := by
    have hstaked : db'.staked userId = db.staked userId := by
      rw [Database.staked, h.stakes, Database.staked]
    rw [hstaked]
    cases hget : db.poolAccounts.get (.custody userId) with
    | none =>
        obtain ⟨hreserved, hbalance⟩ := h.opened _ _ hget ha'
        -- nobody reserves without an account
        have hzero : db.staked userId = 0 := by
          refine List.sum_eq_zero fun n hn => ?_
          obtain ⟨row, hrow, rfl⟩ := List.mem_map.mp hn
          exact if_neg fun (e : row.userId = userId) => hdb.custody row hrow (e ▸ hget)
        omega
    | some a =>
        obtain ⟨a₁, ha₁, hreserved, hbalance⟩ := h.kept _ a hget
        obtain rfl := Option.some.inj (ha₁.symm.trans ha')
        have hbefore := hdb.reserved userId a hget
        have := hbalance userId rfl
        omega

/-- What two steps pay, one after the other. -/
theorem Pays.trans (h : Pays P db db') (h' : Pays P db' db'') : Pays P db db'' where
  kept name a ha := by
    obtain ⟨a', ha', hreserved, hbalance⟩ := h.kept name a ha
    obtain ⟨a'', ha'', hreserved', hbalance'⟩ := h'.kept name a' ha'
    exact ⟨a'', ha'', hreserved'.trans hreserved,
      fun userId e => (hbalance userId e).trans (hbalance' userId e)⟩
  opened userId a'' hnone ha'' := by
    cases hget : db'.poolAccounts.get (.custody userId) with
    | none => exact h'.opened userId a'' hget ha''
    | some a' =>
        obtain ⟨hreserved, hbalance⟩ := h.opened userId a' hnone hget
        obtain ⟨a₁, ha₁, hreserved', hbalance'⟩ := h'.kept _ a' hget
        obtain rfl := Option.some.inj (ha₁.symm.trans ha'')
        exact ⟨hreserved'.trans hreserved, hbalance.trans (hbalance' userId rfl)⟩
  legs := by
    obtain ⟨legs, hlegs, hP⟩ := h.legs
    obtain ⟨legs', hlegs', hP'⟩ := h'.legs
    refine ⟨legs ++ legs', by rw [hlegs', hlegs, List.append_assoc], fun p hp => ?_⟩
    exact (List.mem_append.mp hp).elim (hP p) (hP' p)
  stakes := h'.stakes.trans h.stakes

/-- A balance written; a custody account's is not lowered. -/
theorem Pays.update {name : PoolAccountName} {read : PoolAccount} {balance : ℤ}
    (hexec : Database.exec (.updateAccount name read ⟨some balance, none⟩) db = .ok db')
    (hbalance : ∀ userId, name = .custody userId →
      db.poolAccounts.get name = some read ∧ read.balanceLamports ≤ balance) : Pays P db db' := by
  obtain ⟨a, ha, -, rfl⟩ := writes hexec
  refine ⟨fun name' a' ha' => ?_, fun userId a' hnone ha' => ?_, ⟨[], by simp⟩, rfl⟩
  · by_cases e : name' = name
    · subst e
      obtain rfl := Option.some.inj (ha.symm.trans ha')
      refine ⟨_, Table.get_upd_same _ _ _, rfl, fun userId e => ?_⟩
      obtain ⟨hread, hle⟩ := hbalance userId e
      obtain rfl := Option.some.inj (ha.symm.trans hread)
      exact hle
    · exact ⟨a', (Table.get_upd_other e).trans ha', rfl, fun _ _ => le_rfl⟩
  · by_cases e : PoolAccountName.custody userId = name
    · rw [e, ha] at hnone
      cases hnone
    · cases hnone.symm.trans ((Table.get_upd_other e).symm.trans ha')

/-- Postings of the kind are paid. -/
theorem Pays.create {rows : List Posting} (hP : ∀ p ∈ rows, P p)
    (hexec : Database.exec (.createTransactions rows) db = .ok db') : Pays P db db' := by
  obtain ⟨-, rfl⟩ := createTransactions_eq_ok.mp hexec
  exact ⟨fun _ a ha => ⟨a, ha, rfl, fun _ _ => le_rfl⟩,
    fun _ _ hnone hsome => (nomatch hnone.symm.trans hsome), ⟨rows, rfl, hP⟩, rfl⟩

/-- An account that is created is empty. -/
theorem Pays.account {name : PoolAccountName} (hnone : db.poolAccounts.get name = none) :
    Pays P db { db with poolAccounts := db.poolAccounts.upd name ⟨name.kind, 0, 0, 0⟩ } := by
  refine ⟨fun name' a ha => ?_, fun userId a' _ ha' => ?_, ⟨[], by simp⟩, rfl⟩
  · have hne : name' ≠ name := by
      rintro rfl
      cases hnone.symm.trans ha
    exact ⟨a, (Table.get_upd_other hne).trans ha, rfl, fun _ _ => le_rfl⟩
  · by_cases e : PoolAccountName.custody userId = name
    · subst e
      obtain rfl := Option.some.inj ((Table.get_upd_same _ _ _).symm.trans ha')
      exact ⟨rfl, le_rfl⟩
    · rw [Table.get_upd_other e] at ha'
      cases ‹db.poolAccounts.get (.custody userId) = none›.symm.trans ha'

end Pays

/-- A leg of a settlement. -/
def Settles (gameId : ℕ) (p : Posting) : Prop :=
  p.row.gameId = some gameId ∧ (p.row.type = .payout ∨ p.row.type = .rake) ∧
    ∀ gameId' userId escrow, p.idempotencyKey ≠ .refund gameId' userId escrow

section Settlement
variable {gameId : ℕ} {randomUUID : ℕ → ℕ} {escrow : PoolAccount} {rake : ℤ} {s : Database}

/-- From the rake on, a settlement posts what settles the game. -/
theorem settleRake_pays {payments : List Payment} {view : Database} {n : ℕ}
    (hview : Pays (Settles gameId) s view) :
    Pays (Settles gameId) s
      (leaves (uuids randomUUID) (settleRake gameId rake escrow payments) s view n) := by
  have hfinish : ∀ {view : Database} {n : ℕ} (x : Option Rake), Pays (Settles gameId) s view →
      Pays (Settles gameId) s (leaves (uuids randomUUID) (.run (updateEscrow gameId escrow
        (escrow.balanceLamports - paymentsTotal payments - rakeTotal x)) <|
          .commit (.settle gameId payments x escrow) .done) s view n) := by
    intro view n x hview
    rw [leaves_run]
    split
    · next view' hexec => exact hview.trans (Pays.update hexec (by rintro _ ⟨⟩))
    · exact Pays.refl s
  unfold settleRake
  dsimp only
  split_ifs
  · rw [leaves_findAccount]
    cases view.poolAccounts.get .rake with
    | none => exact hfinish none hview
    | some account =>
        dsimp only
        rw [leaves_uuid, leaves_run]
        split
        · next view₁ hupdate =>
            rw [leaves_run]
            split
            · next view₂ hcreate =>
                refine hfinish _ ((hview.trans (Pays.update hupdate (by rintro _ ⟨⟩))).trans
                  (Pays.create (fun p hp => ?_) hcreate))
                simp only [Rake.legs, transfer, Side.posting, List.mem_cons, List.not_mem_nil,
                  or_false] at hp
                rcases hp with rfl | rfl
                · exact ⟨rfl, .inr rfl, by rintro _ _ _ ⟨⟩⟩
                · exact ⟨rfl, .inr rfl, by rintro _ _ _ ⟨⟩⟩
            · exact Pays.refl s
        · exact Pays.refl s
  · exact hfinish none hview

/-- Each prize of a settlement settles the game, and so does what follows the last. -/
theorem settlePayments_pays {payouts : List (ℕ × ℕ)} : ∀ {payments : List Payment}
    {view : Database} {n : ℕ}, Pays (Settles gameId) s view →
    Pays (Settles gameId) s (leaves (uuids randomUUID) (settlePayments gameId rake escrow payments
      (payouts.map fun x => (x.1, (x.2 : ℤ)))) s view n) := by
  induction payouts with
  | nil => exact settleRake_pays
  | cons payout payouts ih =>
      intro payments view n hview
      rw [List.map_cons, settlePayments, leaves_findAccount]
      cases hcustody : view.poolAccounts.get (.custody payout.1) with
      | none => exact ih hview
      | some custody =>
          dsimp only
          rw [leaves_uuid, leaves_run]
          split
          · next view₁ hupdate =>
              rw [leaves_run]
              split
              · next view₂ hcreate =>
                  refine ih ((hview.trans (Pays.update hupdate fun _ _ => ⟨hcustody, ?_⟩)).trans
                    (Pays.create (fun p hp => ?_) hcreate))
                  · simp [Payment.custodyAfter]
                  · simp only [Payment.prizeLegs, Payment.legs, transfer, Side.posting,
                      List.mem_cons, List.not_mem_nil, or_false] at hp
                    rcases hp with rfl | rfl
                    · exact ⟨rfl, .inl rfl, by rintro _ _ _ ⟨⟩⟩
                    · exact ⟨rfl, .inl rfl, by rintro _ _ _ ⟨⟩⟩
              · exact Pays.refl s
          · exact Pays.refl s

/-- Settling pays out of an escrow that is there. -/
theorem postSettlementLedger_pays (payouts : List (ℕ × ℕ)) (db : Database) :
    Pays (fun p => Settles gameId p ∧ db.poolAccounts.get (.escrow gameId) ≠ none) db
      (leaves (uuids randomUUID) (postSettlementLedger gameId
        (payouts.map fun x => (x.1, (x.2 : ℤ))) rake) db db 0) := by
  rw [postSettlementLedger, leaves_findAccount]
  cases hescrow : db.poolAccounts.get (.escrow gameId) with
  | none => exact Pays.refl db
  | some escrow =>
      dsimp only
      rw [leaves_read]
      split_ifs
      · exact Pays.refl db
      · obtain ⟨hkept, hopened, ⟨legs, hlegs, hsettles⟩, hstakes⟩ :=
          @settlePayments_pays gameId randomUUID escrow rake db payouts [] db 0 (Pays.refl db)
        exact ⟨hkept, hopened, ⟨legs, hlegs, fun p hp => ⟨hsettles p hp, nofun⟩⟩, hstakes⟩

end Settlement

/-! ### Calls that post nothing -/

section Quiet
variable {answer : ℕ → Answer} {db : Database}

/-- A statement that posts no leg. -/
def Posts (b : Statement) : Prop := posted b = []

/-- A call that executes no posting leaves the postings. -/
theorem leaves_posts {call : Books.Prog} (h : call.Executes Posts) :
    (leaves answer call db db 0).transactions = db.transactions := by
  refine Library.Prog.alone_keeps (I := fun db' => db'.transactions = db.transactions)
    (fun b s s' hb hexec hs => ?_) h rfl rfl
  rw [exec_transactions hexec, hb, List.append_nil, hs]

/-- A call that nobody runs beside leaves a later database. -/
theorem leaves_later (answer : ℕ → Answer) (call : Books.Prog) (db : Database) :
    Later db (leaves answer call db db 0) :=
  Library.Prog.alone_keeps (I := Later db) (fun _ _ _ _ hexec hs => hs.trans (exec_later hexec))
    call.executes_any (Later.refl db) (Later.refl db)

theorem Executes.ran {P : Statement → Prop} {b : Statement} {k : Books.Prog} (hb : P b)
    (hk : k.Executes P) : (Library.Prog.run b k).Executes P := by
  refine ⟨hb, fun error => ?_⟩
  cases error with
  | none => exact hk
  | some e => trivial

theorem Executes.found {P : Statement → Prop} {name : PoolAccountName}
    {k : Option PoolAccount → Books.Prog} (hnone : (k none).Executes P)
    (hsome : ∀ a, (k (some a)).Executes P) : (findAccount name k).Executes P := by
  intro db
  dsimp only
  cases db.poolAccounts.get name with
  | none => exact hnone
  | some a => exact hsome a

/-- Making sure of an account posts nothing. -/
theorem getOrCreateAccount_posts {name : PoolAccountName} {k : PoolAccount → Books.Prog}
    (hk : ∀ a, (k a).Executes Posts) : (getOrCreateAccount name k).Executes Posts := by
  unfold getOrCreateAccount
  extract_lets findOrThrow
  have hfind : findOrThrow.Executes Posts := Executes.found trivial hk
  apply Executes.found
  · refine ⟨rfl, fun error => ?_⟩
    cases error with
    | none => exact hfind
    | some e => exact hfind
  · exact hk

/-- A reservation posts nothing. -/
theorem reserveEntryFee_posts (userId : ℕ) (tierId : String) (lamports : ℤ) :
    (Books.reserveEntryFee userId tierId lamports).Executes Posts := by
  unfold Books.reserveEntryFee
  split_ifs with hneg hzero hpos
  · trivial
  · exact getOrCreateAccount_posts fun _ => trivial
  · refine getOrCreateAccount_posts fun _ db => ?_
    dsimp only
    cases db.reservation userId tierId with
    | some existing => trivial
    | none =>
        refine Executes.found trivial fun a => ?_
        dsimp only
        split_ifs
        · trivial
        · exact Executes.ran rfl (Executes.ran rfl trivial)
  · trivial

/-- Giving a reservation back posts nothing. -/
theorem releaseEntryFee_posts (userId : ℕ) (tierId : String) :
    (Books.releaseEntryFee userId tierId).Executes Posts := by
  intro db
  dsimp only
  cases db.reservation userId tierId with
  | none => trivial
  | some existing =>
      exact Executes.found (Executes.ran rfl trivial) fun custody =>
        Executes.ran rfl (Executes.ran rfl trivial)

end Quiet

/-! ### Runs with games -/

/-- What happens to the books while games are played. -/
inductive GameOperation where
  | stake (op : Operation)
  | account (name : PoolAccountName)
  /-- Someone writes the row of a game. -/
  | game (gameId : ℕ) (row : Game)
  | settle (gameId : ℕ) (payouts : List (ℕ × ℕ)) (rake : ℤ) (randomUUID : ℕ → ℕ)
  | cancel (params : CancelGameParams) (randomUUID : ℕ → ℕ)

def GameOperation.exec (db : Database) : GameOperation → Database
  | .stake op => op.exec db
  | .account name => leaves (uuids id) (getOrCreateAccount name fun _ => .done) db db 0
  | .game gameId row => { db with games := db.games.upd gameId row }
  | .settle gameId payouts rake randomUUID =>
      leaves (uuids randomUUID) (postSettlementLedger gameId
        (payouts.map fun x => (x.1, (x.2 : ℤ))) rake) db db 0
  | .cancel params randomUUID => (cancelGameAndRefund params randomUUID db).2

/-- One operation after another. -/
def play (ops : List GameOperation) (db : Database) : Database := ops.foldl GameOperation.exec db

/-- What a player receives from the cancellations of a game. -/
def GameOperation.refund (db : Database) (gameId userId : ℕ) : GameOperation → ℤ
  | .cancel params randomUUID =>
      if params.gameId = gameId then
        (cancelGameAndRefund params randomUUID db).2.balance (.custody userId)
          - db.balance (.custody userId)
      else 0
  | _ => 0

def received (gameId userId : ℕ) : List GameOperation → Database → ℤ
  | [], _ => 0
  | op :: ops, db => op.refund db gameId userId + received gameId userId ops (op.exec db)

/-- Nothing is staked, and no leg is of a game. -/
structure Unplayed (db : Database) : Prop extends Opening db where
  games : ∀ p ∈ db.transactions, p.row.gameId = none
  keys : ∀ p ∈ db.transactions, ∀ gameId userId escrow,
    p.idempotencyKey ≠ .refund gameId userId escrow

/-- What the operations keep. -/
structure Played (db : Database) : Prop where
  backed : Backed db
  even : ∀ gameId userId, Even db.transactions gameId userId
  stakes : ∀ p ∈ db.transactions, ∀ gameId userId, Stakes gameId userId p →
    0 < p.row.amountLamports ∧ p.idempotencyKey = .stake gameId userId true ∧
      db.poolAccounts.get (.escrow gameId) ≠ none
  settled : ∀ p ∈ db.transactions, ∀ gameId, p.row.gameId = some gameId →
    p.row.type = .payout ∨ p.row.type = .rake → db.poolAccounts.get (.escrow gameId) ≠ none

/-- Before the first call. -/
theorem Unplayed.played {db : Database} (h : Unplayed db) : Played db where
  backed := h.toOpening.backed
  even gameId userId := by
    have hnone : ∀ p ∈ db.transactions, p.row.gameId ≠ some gameId := fun p hp e =>
      nomatch (h.games p hp).symm.trans e
    refine ⟨fun ⟨p, hp, hr⟩ => absurd hr.1 (hnone p hp), fun _ => ?_, fun p hp escrow hkey => ?_⟩
    · exact refunded_eq_zero fun p hp hr => hnone p hp hr.1
    · exact absurd hkey (h.keys p hp _ _ _)
  stakes p hp gameId userId hs := nomatch (h.games p hp).symm.trans hs.1
  settled p hp gameId hgame _ := nomatch (h.games p hp).symm.trans hgame

section Step
variable {db db' : Database} {legs : List Posting}

/-- Legs added to the ledger, and no account lost. -/
theorem Played.extend (h : Played db) (hbacked : Backed db')
    (haccounts : ∀ name, db.poolAccounts.get name ≠ none → db'.poolAccounts.get name ≠ none)
    (hlegs : db'.transactions = db.transactions ++ legs)
    (heven : ∀ gameId userId, Even db'.transactions gameId userId)
    (hstakes : ∀ p ∈ legs, ∀ gameId userId, Stakes gameId userId p →
      0 < p.row.amountLamports ∧ p.idempotencyKey = .stake gameId userId true ∧
        db'.poolAccounts.get (.escrow gameId) ≠ none)
    (hsettled : ∀ p ∈ legs, ∀ gameId, p.row.gameId = some gameId →
      p.row.type = .payout ∨ p.row.type = .rake → db'.poolAccounts.get (.escrow gameId) ≠ none) :
    Played db' where
  backed := hbacked
  even := heven
  stakes p hp gameId userId hs := by
    rw [hlegs] at hp
    rcases List.mem_append.mp hp with hp | hp
    · obtain ⟨hpos, hkey, hescrow⟩ := h.stakes p hp gameId userId hs
      exact ⟨hpos, hkey, haccounts _ hescrow⟩
    · exact hstakes p hp gameId userId hs
  settled p hp gameId hgame htype := by
    rw [hlegs] at hp
    rcases List.mem_append.mp hp with hp | hp
    · exact haccounts _ (h.settled p hp gameId hgame htype)
    · exact hsettled p hp gameId hgame htype

/-- What moves no posting keeps what the calls have made true. -/
theorem Played.quiet (h : Played db) (hbacked : Backed db')
    (haccounts : ∀ name, db.poolAccounts.get name ≠ none → db'.poolAccounts.get name ≠ none)
    (htransactions : db'.transactions = db.transactions) : Played db' :=
  h.extend hbacked haccounts (by rw [htransactions, List.append_nil])
    (fun gameId userId => htransactions ▸ h.even gameId userId) (List.forall_mem_nil _)
    (List.forall_mem_nil _)

/-- An account is never deleted. -/
theorem Later.present (h : Later db db') (name : PoolAccountName)
    (hname : db.poolAccounts.get name ≠ none) : db'.poolAccounts.get name ≠ none := by
  obtain ⟨a, ha⟩ := Option.ne_none_iff_exists'.mp hname
  obtain ⟨a', ha', -⟩ := h name a ha
  rw [ha']
  exact nofun

/-- Stakes consumed delete no account. -/
theorem Consumes.present {params : ConsumeParams} {rows : List StakeReservation}
    {result : Consumed} (h : Consumes params rows db result db') (name : PoolAccountName)
    (hname : db.poolAccounts.get name ≠ none) : db'.poolAccounts.get name ≠ none := by
  by_cases hescrow : name = .escrow params.escrowAccountId
  · subst hescrow
    obtain ⟨a, ha⟩ := Option.ne_none_iff_exists'.mp hname
    obtain ⟨a', ha', -⟩ := h.credited a ha
    rw [ha']
    exact nofun
  · by_cases htaken : ∃ row ∈ rows, name = .custody row.userId
    · obtain ⟨row, hrow, rfl⟩ := htaken
      obtain ⟨a, -, -, hafter⟩ := h.taken row hrow
      rw [hafter]
      exact nofun
    · rw [h.others name (fun e => absurd e hescrow) fun row hrow e => htaken ⟨row, hrow, e⟩]
      exact hname

/-- A game that starts with stakes leaves what was true. -/
theorem Played.consumes (h : Played db) {params : ConsumeParams} {result : Consumed}
    (hc : Consumes params (reservationsForTier db params.tierId) db result db') : Played db' := by
  obtain ⟨pairs, hpairs, hlegs⟩ := hc.legs
  refine h.extend (h.backed.consumes hc) hc.present hpairs
    (fun gameId userId => hc.even (h.even gameId userId)) (fun p hp gameId userId hs => ?_)
    (fun p hp gameId _ htype => ?_)
  · obtain ⟨row, hrow, legs, hlegs, hp⟩ := mem_pairs hlegs hp
    obtain ⟨-, hgame, huser, hamount, hside⟩ := entryFeePair_mem hlegs p hp
    obtain rfl : params.gameId = gameId := Option.some.inj (hgame.symm.trans hs.1)
    obtain rfl : row.userId = userId := Option.some.inj (huser.symm.trans hs.2.2.2.2)
    rcases hside with ⟨hdirection, -⟩ | ⟨haccount, -, hkey⟩
    · cases hdirection.symm.trans hs.2.2.2.1
    · refine ⟨hamount ▸ row.pos, hkey, ?_⟩
      rw [← hs.2.1, haccount]
      refine hc.present _ (Option.isSome_iff_ne_none.mp (hc.escrow fun e => ?_))
      rw [e] at hrow
      cases hrow
  · obtain ⟨row, -, legs, hlegs, hp⟩ := mem_pairs hlegs hp
    rw [(entryFeePair_mem hlegs p hp).1] at htype
    rcases htype with htype | htype <;> cases htype

/-- A settlement leaves what was true, of a game whose escrow is there. -/
theorem Played.settles (h : Played db) {gameId : ℕ} (hp : Pays (fun p => Settles gameId p ∧
    db.poolAccounts.get (.escrow gameId) ≠ none) db db') : Played db' := by
  obtain ⟨legs, hlegs, hsettles⟩ := hp.legs
  refine h.extend (hp.backed h.backed) (fun _ => hp.present) hlegs (fun gameId' userId => ?_)
    (fun p hmem gameId' userId hs => ?_) (fun p hmem gameId' hgame _ => ?_)
  · rw [hlegs]
    refine (h.even gameId' userId).append fun p hmem htouches => ?_
    obtain ⟨⟨-, htype, hkey⟩, -⟩ := hsettles p hmem
    rcases htouches with hs | hr | hr | ⟨escrow, hkey'⟩
    · rw [hs.2.2.1] at htype
      rcases htype with htype | htype <;> cases htype
    · rw [hr.2.2.1] at htype
      rcases htype with htype | htype <;> cases htype
    · rw [hr.2.2.1] at htype
      rcases htype with htype | htype <;> cases htype
    · exact hkey _ _ _ hkey'
  · obtain ⟨⟨-, htype, -⟩, -⟩ := hsettles p hmem
    rw [hs.2.2.1] at htype
    rcases htype with htype | htype <;> cases htype
  · obtain ⟨⟨hgame', -⟩, hescrow⟩ := hsettles p hmem
    obtain rfl : gameId = gameId' := Option.some.inj (hgame'.symm.trans hgame)
    exact hp.present hescrow

variable {gameId : ℕ} {result : CancelGameResult}

/-- What becomes of the accounts when a call goes through. -/
theorem Repays.pays (h : Repays gameId db result db') : Pays (fun _ => True) db db' := by
  obtain ⟨pairs, hpairs, -⟩ := h.legs
  have hcustody : ∀ userId, (∃ x ∈ result.refunds, x.1 = userId) ∨
      db'.poolAccounts.get (.custody userId) = db.poolAccounts.get (.custody userId) := by
    intro userId
    by_cases hx : ∃ x ∈ result.refunds, x.1 = userId
    · exact .inl hx
    · exact .inr (h.others (.custody userId) nofun fun x hx' e =>
        hx ⟨x, hx', (PoolAccountName.custody.inj e).symm⟩)
  have hpaid : ∀ x ∈ result.refunds, 0 < x.2 := fun x hx => owed_pos x (h.owed x hx)
  refine ⟨fun name a ha => ?_, fun userId a' hnone ha' => ?_, ⟨pairs.flatten, hpairs,
    fun _ _ => trivial⟩, h.rest.1⟩
  · by_cases hescrow : name = .escrow gameId
    · subst hescrow
      obtain ⟨a', ha', -, hreserved⟩ := h.escrow a ha
      exact ⟨a', ha', hreserved, nofun⟩
    by_cases hx : ∃ x ∈ result.refunds, name = .custody x.1
    · obtain ⟨x, hx, rfl⟩ := hx
      refine ⟨_, h.paid x hx, ?_, fun _ _ => ?_⟩
      · rw [custodyOf, ha, repaid, Option.getD_some]
      · rw [custodyOf, ha, repaid, Option.getD_some]
        have := hpaid x hx
        dsimp only
        omega
    · exact ⟨a, (h.others name (fun e => absurd e hescrow) fun x hx' e => hx ⟨x, hx', e⟩).trans ha,
        rfl, fun _ _ => le_rfl⟩
  · rcases hcustody userId with ⟨x, hx, rfl⟩ | hsame
    · have hafter := h.paid x hx
      rw [custodyOf, hnone, Option.getD_none] at hafter
      obtain rfl := Option.some.inj (hafter.symm.trans ha')
      refine ⟨rfl, ?_⟩
      have := hpaid x hx
      simp only [repaid]
      omega
    · cases hnone.symm.trans (hsame.symm.trans ha')

/-- A player's balance rises by what the refund lists for them. -/
theorem Repays.balance_custody (h : Repays gameId db result db') (userId : ℕ) :
    db'.balance (.custody userId)
      = db.balance (.custody userId) + refundOf result.refunds userId := by
  by_cases hx : ∃ x ∈ result.refunds, x.1 = userId
  · obtain ⟨x, hx, rfl⟩ := hx
    rw [refundOf_mem h.users hx, Database.balance, h.paid x hx, Database.balance, custodyOf]
    cases db.poolAccounts.get (.custody x.1) with
    | none => rfl
    | some a => rfl
  · have hzero : refundOf result.refunds userId = 0 := by
      refine List.sum_eq_zero fun n hn => ?_
      obtain ⟨x, hx', rfl⟩ := List.mem_map.mp hn
      exact if_neg fun e => hx ⟨x, hx', e⟩
    rw [hzero, add_zero, Database.balance, h.others (.custody userId) (by rintro ⟨⟩) fun x hx' e =>
      hx ⟨x, hx', (PoolAccountName.custody.inj e).symm⟩, Database.balance]

/-- The escrow falls by the refund's total. -/
theorem Repays.balance_escrow (h : Repays gameId db result db') :
    db'.balance (.escrow gameId) = db.balance (.escrow gameId) - result.totalLamports := by
  cases hescrow : db.poolAccounts.get (.escrow gameId) with
  | none =>
      rw [h.total, h.free hescrow, refundTotal, List.map_nil, List.sum_nil, sub_zero,
        Database.balance, h.others (.escrow gameId) (fun _ => hescrow) (by rintro _ _ ⟨⟩),
        Database.balance]
  | some a =>
      obtain ⟨a', ha', hbalance, -⟩ := h.escrow a hescrow
      rw [Database.balance, ha', Database.balance, hescrow]
      exact hbalance

/-- A refund leaves what was true. -/
theorem Played.repays (h : Played db) (hr : Repays gameId db result db') : Played db' := by
  obtain ⟨pairs, hpairs, hlegs⟩ := hr.legs
  have htype : ∀ p ∈ pairs.flatten, p.row.type = .refund := fun p hp => by
    obtain ⟨x, -, legs, hlegs, hp⟩ := mem_pairs hlegs hp
    exact (refundPair_mem hlegs p hp).1
  refine h.extend (hr.pays.backed h.backed) (fun _ => hr.pays.present) hpairs
    (fun gameId' userId => hr.even (fun p hp hs => (h.stakes p hp _ _ hs).2.1) (h.even _ _))
    (fun p hp gameId' userId hs => ?_) (fun p hp gameId' _ hpaid => ?_)
  · cases (htype p hp).symm.trans hs.2.2.1
  · rw [htype p hp] at hpaid
    rcases hpaid with hpaid | hpaid <;> cases hpaid

/-- What a call that goes through did. -/
theorem cancelGameAndRefund_repays (h : Played db) {params : CancelGameParams}
    {randomUUID : ℕ → ℕ} (hok : (cancelGameAndRefund params randomUUID db).1 = .ok result) :
    Repays params.gameId db result (cancelGameAndRefund params randomUUID db).2 := by
  have hfresh : ∀ x ∈ db.owed params.gameId, ∀ escrow, ∀ p ∈ db.transactions,
      p.idempotencyKey ≠ .refund params.gameId x.1 escrow := fun x hx escrow p hp hkey =>
    (mem_owed.mp hx).2.2 ((h.even _ _).fresh p hp escrow hkey)
  have htransaction := transaction_ok hok
  obtain ⟨result', db₁, heq, hrepays⟩ :=
    cancelTransaction_ok (refundable_of_ok htransaction) randomUUID hfresh
  obtain ⟨rfl, hdb⟩ := Prod.mk.inj (Except.ok.inj (heq.symm.trans htransaction))
  rw [hdb] at hrepays
  exact hrepays

end Step

/-- The run of the operations. -/
theorem Played.step {db : Database} (h : Played db) (op : GameOperation) : Played (op.exec db) := by
  cases op with
  | stake op =>
      cases op with
      | reserve userId tierId lamports =>
          exact h.quiet (h.backed.reserve _ _ _ _) (Later.present (leaves_later _ _ _))
            (leaves_posts (reserveEntryFee_posts _ _ _))
      | release userId tierId =>
          exact h.quiet (h.backed.release _ _ _) (Later.present (leaves_later _ _ _))
            (leaves_posts (releaseEntryFee_posts _ _))
      | consume params randomUUID =>
          cases hr : (consumeReservations params randomUUID db).1 with
          | ok result =>
              exact h.consumes
                (consumeTransaction_ok h.backed.stakes h.backed.custody (transaction_ok hr))
          | error e =>
              rw [GameOperation.exec, Operation.exec, consumeReservations, transaction_error hr]
              exact h
  | account name =>
      refine h.quiet ?_ (Later.present (leaves_later _ _ _))
        (leaves_posts (getOrCreateAccount_posts fun _ => trivial))
      rw [GameOperation.exec, leaves_getOrCreateAccount]
      cases hget : db.poolAccounts.get name with
      | some a => exact h.backed
      | none => exact (Pays.account (P := fun _ => True) hget).backed h.backed
  | game gameId row =>
      exact h.quiet ⟨h.backed.stakes, h.backed.custody, h.backed.reserved⟩ (fun _ => id) rfl
  | settle gameId payouts rake randomUUID => exact h.settles (postSettlementLedger_pays payouts db)
  | cancel params randomUUID =>
      cases hr : (cancelGameAndRefund params randomUUID db).1 with
      | ok result => exact h.repays (cancelGameAndRefund_repays h hr)
      | error e =>
          rw [GameOperation.exec, cancelGameAndRefund, transaction_error hr]
          exact h

/-- **Every run of the calls keeps it.**. -/
theorem Played.play {db : Database} (h : Played db) (ops : List GameOperation) :
    Played (play ops db) := by
  induction ops generalizing db with
  | nil => exact h
  | cons op ops ih => exact ih (h.step op)

/-! ### What a player receives -/

/-- Postings that return nothing to the player leave what was refunded. -/
theorem refunded_of_pays {P : Posting → Prop} {db db' : Database} (h : Pays P db db')
    {gameId userId : ℕ} (hP : ∀ p, P p → ¬ Returns gameId userId p) :
    refunded db'.transactions gameId userId = refunded db.transactions gameId userId := by
  obtain ⟨legs, hlegs, hall⟩ := h.legs
  rw [hlegs, refunded_append, refunded_eq_zero fun p hp => hP p (hall p hp), add_zero]

/-- An operation refunds a player what its legs say. -/
theorem Played.refund_step {db : Database} (h : Played db) (op : GameOperation)
    (gameId userId : ℕ) : refunded (op.exec db).transactions gameId userId
      = refunded db.transactions gameId userId + op.refund db gameId userId := by
  cases op with
  | stake op =>
      show refunded (op.exec db).transactions gameId userId = _ + 0
      rw [add_zero]
      cases op with
      | reserve userId tierId lamports =>
          rw [Operation.exec, leaves_posts (reserveEntryFee_posts _ _ _)]
      | release userId tierId => rw [Operation.exec, leaves_posts (releaseEntryFee_posts _ _)]
      | consume params randomUUID =>
          cases hr : (consumeReservations params randomUUID db).1 with
          | ok result =>
              obtain ⟨pairs, hpairs, hlegs⟩ := (consumeTransaction_ok h.backed.stakes
                h.backed.custody (transaction_ok hr)).legs
              have hnone : refunded pairs.flatten gameId userId = 0 := by
                refine refunded_eq_zero fun p hp hreturn => ?_
                obtain ⟨row, -, legs, hlegs, hp⟩ := mem_pairs hlegs hp
                cases (entryFeePair_mem hlegs p hp).1.symm.trans hreturn.2.2.1
              rw [Operation.exec, consumeReservations, hpairs, refunded_append, hnone, add_zero]
          | error e => rw [Operation.exec, consumeReservations, transaction_error hr]
  | account name =>
      have hposts : (getOrCreateAccount name fun _ => .done).Executes Posts :=
        getOrCreateAccount_posts fun _ => trivial
      show refunded (GameOperation.exec db (.account name)).transactions gameId userId = _ + 0
      rw [add_zero, GameOperation.exec, leaves_posts hposts]
  | game => exact (add_zero _).symm
  | settle gameId' payouts rake randomUUID =>
      refine (refunded_of_pays (postSettlementLedger_pays payouts db) fun p hp hreturn => ?_).trans
        (add_zero _).symm
      have htype := hp.1.2.1
      rw [hreturn.2.2.1] at htype
      rcases htype with htype | htype <;> cases htype
  | cancel params randomUUID =>
      rw [GameOperation.refund]
      cases hr : (cancelGameAndRefund params randomUUID db).1 with
      | ok result =>
          have hrepays := cancelGameAndRefund_repays h hr
          obtain ⟨pairs, hpairs, hlegs⟩ := hrepays.legs
          rw [GameOperation.exec, hpairs, refunded_append]
          congr 1
          by_cases e : params.gameId = gameId
          · subst e
            rw [if_pos rfl, refunded_pairs hlegs, hrepays.balance_custody, add_sub_cancel_left]
          · rw [if_neg e]
            refine refunded_eq_zero fun p hp hreturn => e ?_
            exact (touches_refunds hlegs hp (.inr (.inl hreturn))).1.symm
      | error e =>
          rw [GameOperation.exec, cancelGameAndRefund, transaction_error hr, sub_self, ite_self,
            add_zero]

/-- Over a run, a player receives what the legs say. -/
theorem Played.received {db : Database} (h : Played db) (ops : List GameOperation)
    (gameId userId : ℕ) : refunded (Db.play ops db).transactions gameId userId
      = refunded db.transactions gameId userId + Db.received gameId userId ops db := by
  induction ops generalizing db with
  | nil => exact (add_zero _).symm
  | cons op ops ih =>
      rw [Db.received, ← add_assoc, ← h.refund_step op gameId userId]
      exact ih (h.step op)

/-- What a run returned to a player of a game is what its postings refund. -/
theorem Unplayed.received {db₀ : Database} (h₀ : Unplayed db₀) (ops : List GameOperation)
    (gameId userId : ℕ) : Db.received gameId userId ops db₀
      = refunded (Db.play ops db₀).transactions gameId userId := by
  have hnone : refunded db₀.transactions gameId userId = 0 :=
    refunded_eq_zero fun p hp hr => nomatch (h₀.games p hp).symm.trans hr.1
  rw [h₀.played.received, hnone, zero_add]

/-- A player has not been credited less than nothing to a game. -/
theorem Played.credited_nonneg {db : Database} (h : Played db) (gameId userId : ℕ) :
    0 ≤ credited db.transactions gameId userId := by
  refine List.sum_nonneg fun n hn => ?_
  obtain ⟨p, hp, rfl⟩ := List.mem_map.mp hn
  obtain ⟨hp, hs⟩ := List.mem_filter.mp hp
  exact (h.stakes p hp _ _ (of_decide_eq_true hs)).1.le

/-- Without an escrow nothing was staked. -/
theorem Played.owed_free {db : Database} (h : Played db) {gameId : ℕ}
    (hfree : db.poolAccounts.get (.escrow gameId) = none) : db.owed gameId = [] := by
  refine List.eq_nil_iff_forall_not_mem.mpr fun ⟨userId, lamports⟩ hx => ?_
  obtain ⟨rfl, hpos, -⟩ := mem_owed.mp hx
  exact hpos.ne' (credited_eq_zero fun p hp hs => (h.stakes p hp _ _ hs).2.2 hfree)

/-- The call refunds what the game owes. -/
theorem Played.refunds {db db' : Database} (h : Played db) {gameId : ℕ} {result : CancelGameResult}
    (hr : Repays gameId db result db') : result.refunds = db.owed gameId := by
  cases hescrow : db.poolAccounts.get (.escrow gameId) with
  | none => rw [hr.free hescrow, h.owed_free hescrow]
  | some a => exact hr.refunds (by rw [hescrow]; rfl)

/-- The call refunds each player the rest of what was staked. -/
theorem Played.refund_rest {db db' : Database} (h : Played db) {gameId : ℕ}
    {result : CancelGameResult} (hr : Repays gameId db result db') (userId : ℕ) :
    refundOf result.refunds userId
      = credited db.transactions gameId userId - refunded db.transactions gameId userId := by
  rw [h.refunds hr, refundOf_owed (h.even gameId userId) (h.credited_nonneg gameId userId)]

/-! ### Right after the stakes were consumed -/

section Restored
variable {params : ConsumeParams} {rows : List StakeReservation} {db db' : Database}
  {consumed : Consumed}

/-- A player's balance falls by the stakes of theirs that are consumed. -/
theorem Consumes.balance_custody (h : Consumes params rows db consumed db')
    (hunique : UniqueKeys StakeReservation.userId rows) (userId : ℕ) :
    db'.balance (.custody userId)
      = db.balance (.custody userId) - (rows.map (StakeReservation.of userId)).sum := by
  by_cases hx : ∃ row ∈ rows, row.userId = userId
  · obtain ⟨row, hrow, rfl⟩ := hx
    have hstake : (rows.map (StakeReservation.of row.userId)).sum = row.lamports :=
      sum_of_key StakeReservation.lamports hunique hrow
    obtain ⟨a, ha, -, hafter⟩ := h.taken row hrow
    rw [hstake, Database.balance, hafter, Database.balance, ha]
    rfl
  · have hzero : (rows.map (StakeReservation.of userId)).sum = 0 := by
      refine List.sum_eq_zero fun n hn => ?_
      obtain ⟨row, hrow, rfl⟩ := List.mem_map.mp hn
      exact if_neg fun e => hx ⟨row, hrow, e⟩
    rw [hzero, sub_zero, Database.balance,
      h.others (.custody userId) (by rintro ⟨⟩) fun row hrow e =>
        hx ⟨row, hrow, (PoolAccountName.custody.inj e).symm⟩, Database.balance]

/-- The escrow rises by the stakes. -/
theorem Consumes.balance_escrow (h : Consumes params rows db consumed db') :
    db'.balance (.escrow params.escrowAccountId)
      = db.balance (.escrow params.escrowAccountId) + stakesOf rows := by
  by_cases hrows : rows = []
  · rw [hrows, stakesOf, List.map_nil, List.sum_nil, add_zero, Database.balance,
      h.others _ (fun _ => hrows) (by simp [hrows]), Database.balance]
  · obtain ⟨a, ha⟩ := Option.isSome_iff_exists.mp (h.escrow hrows)
    obtain ⟨a', ha', hbalance, -⟩ := h.credited a ha
    rw [Database.balance, ha', Database.balance, ha]
    exact hbalance

/-- What is consumed is credited to the game for its players, and nothing is refunded or repaid by
it. -/
theorem Consumes.owes (h : Consumes params rows db consumed db')
    (hescrow : params.escrowAccountId = params.gameId) (userId : ℕ) :
    Db.credited db'.transactions params.gameId userId
      = Db.credited db.transactions params.gameId userId
        + (rows.map (StakeReservation.of userId)).sum ∧
    refunded db'.transactions params.gameId userId
      = refunded db.transactions params.gameId userId ∧
    (Repaid db'.transactions params.gameId userId ↔
      Repaid db.transactions params.gameId userId) := by
  obtain ⟨pairs, hpairs, hlegs⟩ := h.legs
  have htype : ∀ p ∈ pairs.flatten, p.row.type = .entryFee := fun p hp => by
    obtain ⟨row, -, legs, hlegs, hp⟩ := mem_pairs hlegs hp
    exact (entryFeePair_mem hlegs p hp).1
  have hreturns : refunded pairs.flatten params.gameId userId = 0 :=
    refunded_eq_zero fun p hp hr => nomatch (htype p hp).symm.trans hr.2.2.1
  have hreleases : ¬ Repaid pairs.flatten params.gameId userId := fun ⟨p, hp, hr⟩ =>
    nomatch (htype p hp).symm.trans hr.2.2.1
  rw [hpairs]
  refine ⟨?_, ?_, ?_⟩
  · rw [credited_append, credited_pairs hescrow hlegs]
  · rw [refunded_append, hreturns, add_zero]
  · rw [repaid_append, or_iff_left hreleases]

/-- The game owes the stakes besides what it owed before. -/
theorem Consumes.owed_perm (hdb : Played db)
    (h : Consumes params (reservationsForTier db params.tierId) db consumed db')
    (hescrow : params.escrowAccountId = params.gameId) :
    (db'.owed params.gameId).Perm (db.owed params.gameId ++
      (reservationsForTier db params.tierId).map fun row => (row.userId, row.lamports)) := by
  have hunique := reservationsForTier_users params.tierId hdb.backed.stakes
  generalize hrows : reservationsForTier db params.tierId = rows at *
  -- a player who is charged has not staked the game before
  have hfirst : ∀ row ∈ rows, Db.credited db.transactions params.gameId row.userId = 0 ∧
      ¬ Repaid db.transactions params.gameId row.userId := by
    intro row hrow
    refine ⟨credited_eq_zero fun p hp hs => ?_, fun hr => ?_⟩
    · exact h.fresh row hrow true p hp (hdb.stakes p hp _ _ hs).2.1
    · obtain ⟨-, p, hp, hkey⟩ := (hdb.even _ _).repaid hr
      exact h.fresh row hrow true p hp hkey
  have hstake : ∀ row ∈ rows, (rows.map (StakeReservation.of row.userId)).sum = row.lamports :=
    fun row hrow => sum_of_key StakeReservation.lamports hunique hrow
  have hnodup : ∀ {xs : List (ℕ × ℤ)}, UniqueKeys Prod.fst xs → xs.Nodup :=
    fun h => List.Nodup.of_map _ h
  refine (List.perm_ext_iff_of_nodup (hnodup (owed_users db' _)) ?_).mpr ?_
  · refine List.nodup_append.mpr ⟨hnodup (owed_users db _), hnodup ?_, ?_⟩
    · rw [UniqueKeys, List.map_map]
      exact hunique
    · rintro x hx y hy rfl
      obtain ⟨row, hrow, rfl⟩ := List.mem_map.mp hy
      obtain ⟨heq, hpos, -⟩ := mem_owed.mp hx
      rw [(hfirst row hrow).1] at heq
      omega
  · rintro ⟨userId, lamports⟩
    obtain ⟨hcredited, -, hrepaid⟩ := h.owes hescrow userId
    rw [List.mem_append, mem_owed, mem_owed, hcredited, hrepaid, List.mem_map]
    by_cases hx : ∃ row ∈ rows, row.userId = userId
    · obtain ⟨row, hrow, rfl⟩ := hx
      obtain ⟨hzero, hunpaid⟩ := hfirst row hrow
      rw [hzero, hstake row hrow, zero_add]
      constructor
      · rintro ⟨rfl, -, -⟩
        exact .inr ⟨row, hrow, rfl⟩
      · rintro (⟨rfl, hpos, -⟩ | ⟨row', hrow', e⟩)
        · exact absurd hpos (lt_irrefl _)
        · obtain ⟨huser, rfl⟩ := Prod.mk.inj e
          refine ⟨?_, row'.pos, hunpaid⟩
          rw [← hstake row' hrow', huser, hstake row hrow]
    · have hzero : (rows.map (StakeReservation.of userId)).sum = 0 := by
        refine List.sum_eq_zero fun n hn => ?_
        obtain ⟨row, hrow, rfl⟩ := List.mem_map.mp hn
        exact if_neg fun e => hx ⟨row, hrow, e⟩
      rw [hzero, add_zero, or_iff_left]
      rintro ⟨row, hrow, e⟩
      exact hx ⟨row, hrow, (Prod.mk.inj e).1⟩

/-- What a game owes rises by the stakes that it consumes. -/
theorem Consumes.owed_total (hdb : Played db)
    (h : Consumes params (reservationsForTier db params.tierId) db consumed db')
    (hescrow : params.escrowAccountId = params.gameId) :
    refundTotal (db'.owed params.gameId) = refundTotal (db.owed params.gameId)
      + stakesOf (reservationsForTier db params.tierId) := by
  rw [refundTotal, ((h.owed_perm hdb hescrow).map Prod.snd).sum_eq, List.map_append,
    List.sum_append, List.map_map, refundTotal, stakesOf]
  rfl

end Restored

/-! ### Every stake is refunded once -/

/-- When a call goes through. -/
theorem Played.refundable_iff {db : Database} (h : Played db) (params : CancelGameParams) :
    Refundable params db ↔
      (∃ game, db.games.get params.gameId = some game ∧ game.status ≠ .completed) ∧
        paidOut db params.gameId = false ∧
        refundTotal (db.owed params.gameId) ≤ db.balance (.escrow params.gameId) ∧
        params.audit = none := by
  constructor
  · rintro ⟨hgame, hunpaid, hcovered, haudit⟩
    refine ⟨hgame, ?_, ?_, haudit⟩
    · by_contra hpaid
      simp only [paidOut, Bool.not_eq_false, List.any_eq_true, Bool.and_eq_true,
        decide_eq_true_eq] at hpaid
      obtain ⟨p, hp, hgameId, htype⟩ := hpaid
      have hescrow := h.settled p hp _ hgameId htype
      have hnone := hunpaid (Option.isSome_iff_ne_none.mpr hescrow)
      simp only [paidOut, List.any_eq_false, Bool.and_eq_true, decide_eq_true_eq] at hnone
      exact hnone p hp ⟨hgameId, htype⟩
    · cases hescrow : db.poolAccounts.get (.escrow params.gameId) with
      | none =>
          rw [h.owed_free hescrow, Database.balance, hescrow]
          rfl
      | some a =>
          rw [Database.balance, hescrow]
          exact hcovered a hescrow
  · rintro ⟨hgame, hunpaid, hcovered, haudit⟩
    refine ⟨hgame, fun _ => hunpaid, fun a ha => ?_, haudit⟩
    rw [Database.balance, ha] at hcovered
    exact hcovered

/-- The call goes through if and only if it is refundable: the loop itself never fails. -/
theorem Played.ok_iff {db : Database} (h : Played db) (params : CancelGameParams)
    (randomUUID : ℕ → ℕ) :
    (∃ result, (cancelGameAndRefund params randomUUID db).1 = .ok result)
      ↔ Refundable params db := by
  constructor
  · rintro ⟨result, hok⟩
    exact refundable_of_ok (transaction_ok hok)
  · intro hr
    obtain ⟨result, db', heq, -⟩ := cancelTransaction_ok hr randomUUID fun x hx escrow p hp hkey =>
      (mem_owed.mp hx).2.2 ((h.even _ _).fresh p hp escrow hkey)
    exact ⟨result, by rw [cancelGameAndRefund, transaction, heq]⟩

/-- **Cancelling a game refunds its stakes once.**  After any operations on the books, a call goes
through unless the game is not there or completed, paid out, short of what it owes, or the audit
throws; one that throws changes nothing.  All calls together never refund a player more than the
escrow was credited with in the player's name, and exactly that once one goes through, which moves
what it refunds from the escrow to the players.  Right after a stage consumed its reservations
into the game's own escrow, each balance is what it was before, but for what the game owed already
then. -/
theorem cancelGameAndRefund_once {db₀ : Database} (h₀ : Unplayed db₀) (ops : List GameOperation)
    (params : CancelGameParams) (randomUUID : ℕ → ℕ) {db : Database} (hdb : db = play ops db₀)
    {gameId : ℕ} (hgame : gameId = params.gameId)
    {call : Except DbError CancelGameResult × Database}
    (hcall : call = cancelGameAndRefund params randomUUID db) :
    ((∃ result, call.1 = .ok result) ↔
      (∃ game, db.games.get gameId = some game ∧ game.status ≠ .completed) ∧
        paidOut db gameId = false ∧ refundTotal (db.owed gameId) ≤ db.balance (.escrow gameId) ∧
        params.audit = none) ∧
    (∀ e, call.1 = .error e → call.2 = db) ∧
    (∀ userId, received gameId userId ops db₀ ≤ credited db.transactions gameId userId) ∧
    ∀ result, call.1 = .ok result →
      (∀ userId, received gameId userId (ops ++ [.cancel params randomUUID]) db₀
        = credited db.transactions gameId userId) ∧
      (∀ userId, call.2.balance (.custody userId)
        = db.balance (.custody userId) + refundOf result.refunds userId) ∧
      call.2.balance (.escrow gameId) = db.balance (.escrow gameId) - refundTotal result.refunds ∧
      ∀ ops₁ stake randomUUID' consumed db₁, db₁ = play ops₁ db₀ →
        ops = ops₁ ++ [.stake (.consume stake randomUUID')] →
        stake.gameId = gameId → stake.escrowAccountId = gameId →
        (consumeReservations stake randomUUID' db₁).1 = .ok consumed →
        (∀ userId, call.2.balance (.custody userId)
          = db₁.balance (.custody userId) + refundOf (db₁.owed gameId) userId) ∧
        call.2.balance (.escrow gameId)
          = db₁.balance (.escrow gameId) - refundTotal (db₁.owed gameId) := by
  subst hgame hcall
  have hplayed : Played db := hdb ▸ h₀.played.play ops
  have hreceived : ∀ userId, received params.gameId userId ops db₀
      = refunded db.transactions params.gameId userId := fun userId => by
    rw [h₀.received, hdb]
  refine ⟨(hplayed.ok_iff params randomUUID).trans (hplayed.refundable_iff params),
    fun e => transaction_error, fun userId => ?_, fun result hok => ?_⟩
  · rw [hreceived]
    have heven := hplayed.even params.gameId userId
    by_cases hr : Repaid db.transactions params.gameId userId
    · exact (heven.repaid hr).1.le
    · rw [heven.unpaid hr]
      exact hplayed.credited_nonneg _ _
  have hrepays := cancelGameAndRefund_repays hplayed hok
  have hcustody := hrepays.balance_custody
  have hescrow := hrepays.balance_escrow
  rw [hrepays.total] at hescrow
  refine ⟨fun userId => ?_, hcustody, hescrow, ?_⟩
  · have hstep := hplayed.refund_step (.cancel params randomUUID) params.gameId userId
    have hrest := hplayed.refund_rest hrepays userId
    have hplay : play (ops ++ [.cancel params randomUUID]) db₀
        = GameOperation.exec db (.cancel params randomUUID) := by
      rw [play, List.foldl_append, hdb]
      rfl
    rw [GameOperation.refund, if_pos rfl, hcustody userId, add_sub_cancel_left] at hstep
    rw [h₀.received, hplay, hstep]
    omega
  · intro ops₁ stake randomUUID' consumed db₁ hdb₁ hops hgame haccount hconsumed
    have hplayed₁ : Played db₁ := hdb₁ ▸ h₀.played.play ops₁
    have hconsumes := consumeTransaction_ok hplayed₁.backed.stakes hplayed₁.backed.custody
      (transaction_ok hconsumed)
    obtain rfl : db = (consumeReservations stake randomUUID' db₁).2 := by
      rw [hdb, hops, play, List.foldl_append, hdb₁]
      rfl
    constructor
    · intro userId
      have hbefore := hconsumes.balance_custody
        (reservationsForTier_users stake.tierId hplayed₁.backed.stakes) userId
      obtain ⟨hcredited, hrefunded, -⟩ := hconsumes.owes (haccount.trans hgame.symm) userId
      rw [hgame] at hcredited hrefunded
      have howed := refundOf_owed (hplayed₁.even params.gameId userId)
        (hplayed₁.credited_nonneg params.gameId userId)
      have hrest := hplayed.refund_rest hrepays userId
      have hafter := hcustody userId
      unfold consumeReservations at hafter hrest ⊢
      omega
    · have hbefore := hconsumes.balance_escrow
      have htotal := hconsumes.owed_total hplayed₁ (haccount.trans hgame.symm)
      rw [hgame] at htotal
      rw [haccount] at hbefore
      rw [hplayed.refunds hrepays] at hescrow
      unfold consumeReservations at hescrow ⊢
      omega

theorem twoPlayers_unplayed : Unplayed twoPlayers where
  toOpening := twoPlayers_opening
  games := List.forall_mem_nil _
  keys := List.forall_mem_nil _

/-- The first player's stake is consumed, and then the second player reserves. -/
def secondStage : List GameOperation :=
  [.game 9 (Game.created "cycle" 1000), .stake (.reserve 1 "bronze" 100),
    .stake (.consume ⟨"bronze", 9, 9, none⟩ id), .stake (.reserve 2 "bronze" 100)]

/-- The match dies after its first stage: the stake is refunded. -/
theorem cancelGameAndRefund_once_died : ∃ ops,
    received 9 1 (ops ++ [.cancel ⟨9, "died", none⟩ id]) twoPlayers
      = credited (play ops twoPlayers).transactions 9 1 ∧
    credited (play ops twoPlayers).transactions 9 1 = 100 := by
  let params : CancelGameParams := ⟨9, "died", none⟩
  have hok : (cancelGameAndRefund params id (play (secondStage.take 3) twoPlayers)).1
      = .ok ⟨9, true, [(1, 100)], 100, 0⟩ := by
    decide
  refine ⟨secondStage.take 3, ?_, by decide⟩
  exact ((cancelGameAndRefund_once twoPlayers_unplayed (secondStage.take 3) params id rfl rfl
    rfl).2.2.2 _ hok).1 1

/-- A second stage of the game is not the last word: the call after it refunds the first player
too. -/
theorem cancelGameAndRefund_not_inverse :
    let stake : ConsumeParams := ⟨"bronze", 9, 9, some 100⟩
    let db₁ := play secondStage twoPlayers
    let db := (consumeReservations stake (· + 5) db₁).2
    let call := cancelGameAndRefund ⟨9, "died", none⟩ id db
    Unplayed twoPlayers ∧ (consumeReservations stake (· + 5) db₁).1 = .ok ⟨1, 100⟩ ∧
      call.1 = .ok ⟨9, true, [(1, 100), (2, 100)], 200, 0⟩ ∧
      db₁.balance (.custody 1) = 400 ∧ call.2.balance (.custody 1) = 500 ∧
      db₁.balance (.escrow 9) = 100 ∧ call.2.balance (.escrow 9) = 0 := by
  refine ⟨twoPlayers_unplayed, ?_⟩
  decide

end SnakeArena.Db
