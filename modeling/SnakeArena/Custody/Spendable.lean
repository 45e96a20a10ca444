import SnakeArena.Custody.Holdings
import SnakeArena.Gateway.Signatures
import SnakeArena.Program.Calls

/-!
# Custody — what is promised is on chain

What a player is told to have off chain, with what the withdrawals promise and the deposits that
landed and are not credited yet, is never more than the player account has (`Covered`).  Each
step of a run in which every step is `Backed` keeps it: a commit of a withdrawal by
`Commit.promises`, a credit by `credit_free`, and the chain by what its two instructions do.
-/

namespace SnakeArena.Custody
open SnakeArena.Library SnakeArena.Db
open SnakeArena.Gateway (Signature Solana)
open SnakeArena.Books (Database Stays Promises Rows single)
open SnakeArena.Books.Database (Later)

/-! ### Credits -/

/-- An account with a leg posted. -/
def afterLeg (a : PoolAccount) (delta : ℤ) : PoolAccount :=
  { a with balanceLamports := a.balanceLamports + delta, version := a.version + 1 }

section Credits
variable {db : Database}

/-- An account moved. -/
theorem free_move {name : PoolAccountName} {a : PoolAccount}
    (ha : db.poolAccounts.get name = some a)
    (a' : PoolAccount) (hreserved : a'.reservedLamports = a.reservedLamports) (userId : ℕ) :
    ({ db with poolAccounts := db.poolAccounts.upd name a' } : Database).free userId =
      db.free userId +
        if name = .custody userId then a'.balanceLamports - a.balanceLamports else 0 := by
  rw [Database.free, Books.balance_upd, Books.reserved_upd, Database.free]
  by_cases e : name = .custody userId
  · subst e
    simp only [if_true, Database.balance, Database.reserved, ha, Option.elim_some, hreserved]
    omega
  · rw [if_neg (Ne.symm e), if_neg e, if_neg e, add_zero]

/-- A leg that posts moves its account, and creates its row. -/
theorem postLeg_account {params : Gateway.PostEntryParams} {l l' : Ledger} {index : ℕ}
    {leg : Gateway.LedgerLeg} (h : Gateway.postLeg params l index leg = .ok l') :
    l.transactions.get (params.idempotencyKey index) = none ∧ ∃ a tx,
      l.poolAccounts.get leg.poolAccountId = some a ∧ l' =
        ⟨l.poolAccounts.upd leg.poolAccountId (afterLeg a leg.delta),
          l.transactions.upd (params.idempotencyKey index) tx⟩ := by
  unfold Gateway.postLeg at h
  split at h
  · cases h
  next a ha =>
      dsimp only at h
      split at h
      · cases h
      · split at h
        · cases h
        next hkey =>
            obtain rfl := Except.ok.inj h
            exact ⟨by simpa using hkey, a, _, ha, rfl⟩

/-- A leg more leaves a later database. -/
theorem later_move {name : PoolAccountName} {a : PoolAccount}
    (ha : db.poolAccounts.get name = some a)
    (delta : ℤ) :
    Later db { db with poolAccounts := db.poolAccounts.upd name (afterLeg a delta) } := by
  refine Later.upd fun a' ha' => ?_
  obtain rfl := Option.some.inj (ha.symm.trans ha')
  exact ⟨rfl, Nat.le_succ _, fun e => absurd e (Nat.succ_ne_self _)⟩

/-- **What a credit does**: its player has it, and its row is there. -/
theorem credit_free {rows : Table IdempotencyKey Transaction} {d userId : ℕ} {credited : ℤ}
    {l : Ledger}
    (h : Gateway.postEntry ⟨db.poolAccounts, rows⟩ (Gateway.depositEntry d userId credited) =
      .ok l) :
    Later db { db with poolAccounts := l.poolAccounts } ∧
      (∀ userId', ({ db with poolAccounts := l.poolAccounts } : Database).free userId' =
        db.free userId' + single userId credited userId') ∧
      rows.get (.deposit d 0) = none ∧ l.transactions.get (.deposit d 0) ≠ none ∧
      ∀ key, rows.get key ≠ none → l.transactions.get key ≠ none := by
  obtain ⟨l₁, h₁, h₂⟩ := Gateway.postEntry_two rfl h
  obtain ⟨hnone, a, tx, ha, rfl⟩ := postLeg_account h₁
  obtain ⟨-, b, tx', hb, rfl⟩ := postLeg_account h₂
  let between : Database :=
    { db with poolAccounts := db.poolAccounts.upd .external (afterLeg a (-credited)) }
  have hb : between.poolAccounts.get (.custody userId) = some b := hb
  refine ⟨(later_move ha (-credited)).trans (later_move hb credited), fun userId' => ?_, hnone, ?_,
    fun key hkey => ?_⟩
  · have hfirst := free_move ha (afterLeg a (-credited)) rfl userId'
    have hsecond := free_move hb (afterLeg b credited) rfl userId'
    refine (hsecond.trans (congrArg (· + _) hfirst)).trans ?_
    simp [single, afterLeg]
  · refine Table.upd_ne_none ?_
    show (rows.upd (.deposit d 0) tx).get (.deposit d 0) ≠ none
    rw [Table.get_upd_same]
    rintro ⟨⟩
  · exact Table.upd_ne_none (Table.upd_ne_none hkey)

/-- An account created has nothing. -/
theorem created_free (rows : Table IdempotencyKey Transaction) (userId : ℕ) :
    let l := Gateway.getOrCreateCustodyAccount ⟨db.poolAccounts, rows⟩ userId
    Later db { db with poolAccounts := l.poolAccounts } ∧
      (∀ userId', ({ db with poolAccounts := l.poolAccounts } : Database).free userId' =
        db.free userId') ∧ l.transactions = rows := by
  dsimp only [Gateway.getOrCreateCustodyAccount]
  split
  · exact ⟨Later.refl db, fun _ => rfl, rfl⟩
  next hnone =>
      refine ⟨Later.upd fun a ha => absurd (hnone.symm.trans ha) nofun, fun userId' => ?_, rfl⟩
      rw [Database.free, Books.balance_upd, Books.reserved_upd, Database.free]
      by_cases e : PoolAccountName.custody userId = .custody userId'
      · rw [if_pos e.symm, if_pos e, Database.balance, Database.reserved, ← e, hnone]
        rfl
      · rw [if_neg (Ne.symm e), if_neg e]

end Credits

/-! ### A call of `confirmDeposit` -/

section Deposits
variable {sol : Solana} {s : Holdings} {p : Gateway.Confirm} {r : ℕ}

/-- What a call does to the ledger, off its one posting. -/
theorem resume_ledger (sol : Solana) (r : ℕ) (s : Gateway.Store) (p : Gateway.Confirm)
    (a : Gateway.Answer) (hpoint : ∀ deposit result, p.point ≠ .postCredit deposit result) :
    (p.resume sol r s a).1.ledger = s.ledger ∨
      ∃ userId, (p.resume sol r s a).1.ledger =
        Gateway.getOrCreateCustodyAccount s.ledger userId := by
  have hmark : ∀ d signature slot s', s.markConfirmed d signature slot = some s' →
      s'.ledger = s.ledger := by
    intro d signature slot s' h
    simp only [Gateway.Store.markConfirmed] at h
    split at h
    · cases h
    · split at h
      · cases h
      · obtain rfl := Option.some.inj h
        rfl
  have hfail : ∀ d reason, (s.markFailed d reason).ledger = s.ledger := by
    intro d reason
    unfold Gateway.Store.markFailed
    split <;> rfl
  have hout := p.resume_outcome sol r s a
  generalize p.resume sol r s a = out at hout ⊢
  obtain ⟨s', p'⟩ := out
  cases hout with
  | ended | locked | unlocked | released | found | fresh | verified | refused => exact .inl rfl
  | failed => exact .inl (hfail _ _)
  | noSystem => exact .inr ⟨_, rfl⟩
  | custody => exact .inr ⟨_, rfl⟩
  | posted hpt => exact absurd hpt (hpoint _ _)
  | already => exact .inl rfl
  | confirmed _ h => exact .inl (hmark _ _ _ _ h)

/-- What a call does to the ledger: nothing, an account created, or its credit. -/
theorem resumeDeposit_ledger (sol : Solana) (r : ℕ) (s : Holdings) (p : Gateway.Confirm)
    (a : Gateway.Answer) :
    let ledger := (p.resume sol r s.depositStore a).1.ledger
    (s.posts p a = false ∧ (ledger = s.depositStore.ledger ∨
      ∃ userId, ledger = Gateway.getOrCreateCustodyAccount s.depositStore.ledger userId)) ∨
    ∃ deposit result, s.posts p a = true ∧ p.point = .postCredit deposit result ∧
      Gateway.postEntry s.depositStore.ledger
        (Gateway.depositEntry p.depositId deposit.userId result.observedLamports) = .ok ledger := by
  by_cases hpoint : ∃ deposit result, p.point = .postCredit deposit result
  · obtain ⟨deposit, result, hpoint⟩ := hpoint
    have hquiet : a = .throw → s.posts p a = false ∧
        (p.resume sol r s.depositStore a).1.ledger = s.depositStore.ledger := by
      rintro rfl
      exact ⟨rfl, by simp only [Gateway.Confirm.resume, hpoint]⟩
    cases hpost : Gateway.postEntry s.depositStore.ledger
        (Gateway.depositEntry p.depositId deposit.userId result.observedLamports) with
    | ok ledger =>
        cases a with
        | throw => exact .inl ⟨(hquiet rfl).1, .inl (hquiet rfl).2⟩
        | ok | notVisible =>
            refine .inr ⟨deposit, result, ?_, hpoint, ?_⟩
            · simp only [Holdings.posts, hpoint, hpost, Except.isOk, Except.toBool]
            · simp only [Gateway.Confirm.resume, hpoint, hpost]
    | error e =>
        refine .inl ⟨?_, .inl ?_⟩
        · cases a with
          | throw => rfl
          | ok | notVisible => simp only [Holdings.posts, hpoint, hpost, Except.isOk, Except.toBool]
        · cases a with
          | throw => exact (hquiet rfl).2
          | ok | notVisible =>
              simp only [Gateway.Confirm.resume, hpoint, hpost]
              cases e <;> rfl
  · have hpoint : ∀ deposit result, p.point ≠ .postCredit deposit result :=
      fun deposit result e => hpoint ⟨deposit, result, e⟩
    refine .inl ⟨?_, resume_ledger sol r _ p a hpoint⟩
    cases a with
    | throw => rfl
    | ok | notVisible => simp only [Holdings.posts]

end Deposits

/-! ### What is covered -/

/-- A deposit that landed and was not credited. -/
def LandedDeposit.inbound (creditedTo : Table Signature ℕ) (userId : ℕ) (x : LandedDeposit) : ℤ :=
  if x.userId = userId ∧ creditedTo.get x.signature = none then x.amount else 0

/-- What the player's deposits still bring. -/
def Holdings.inbound (s : Holdings) (userId : ℕ) : ℤ :=
  (s.landed.map (LandedDeposit.inbound s.creditedTo userId)).sum

/-- What the chain holds covers what the players may spend. -/
structure Covered (wallets : Wallets) (s : Holdings) : Prop where
  promises : Promises s.db s.released s.paid
  signatures : UniqueKeys LandedDeposit.signature s.landed
  posted : s.creditedTo.All fun _ d => s.deposits.ledger.transactions.get (.deposit d 0) ≠ none
  backed : ∀ userId, s.db.free userId + s.db.promised s.released s.paid userId + s.inbound userId ≤
    s.onChain wallets userId

section Covered
variable {wallets : Wallets} {s : Holdings}

/-- What is coming in is not negative. -/
theorem inbound_nonneg (s : Holdings) (userId : ℕ) : 0 ≤ s.inbound userId := by
  refine List.sum_nonneg fun n hn => ?_
  obtain ⟨x, -, rfl⟩ := List.mem_map.mp hn
  unfold LandedDeposit.inbound
  split
  · exact Int.natCast_nonneg _
  · exact le_rfl

/-- Nor is what is on the chain. -/
theorem onChain_nonneg (s : Holdings) (userId : ℕ) : 0 ≤ s.onChain wallets userId := by
  unfold Holdings.onChain Program.State.balanceOf
  split
  · exact Int.natCast_nonneg _
  · exact le_rfl

/-- **What is covered is on chain.** -/
theorem Covered.spendable_le (h : Covered wallets s) (userId : ℕ) :
    s.spendable userId ≤ s.onChain wallets userId := by
  have hbacked := h.backed userId
  have hpromised : 0 ≤ s.db.promised s.released s.paid userId := h.promises.promised_nonneg
  have hinbound := inbound_nonneg s userId
  have hchain : 0 ≤ s.onChain wallets userId := onChain_nonneg s userId
  unfold Holdings.spendable
  cases ha : s.db.poolAccounts.get (.custody userId) with
  | none => exact hchain
  | some a =>
      have hfree : s.db.free userId = a.balanceLamports - a.reservedLamports := by
        simp [Database.free, Database.balance, Database.reserved, ha]
      simp only [Option.elim_some, Books.spendable]
      split
      · omega
      · exact hchain

/-- Accounts written off the withdrawals, with what is credited. -/
theorem Covered.accounts (h : Covered wallets s) {poolAccounts : Table PoolAccountName PoolAccount}
    (hl : Later s.db { s.db with poolAccounts }) :
    Promises { s.db with poolAccounts } s.released s.paid ∧
      ∀ userId, Database.promised { s.db with poolAccounts } s.released s.paid userId =
        s.db.promised s.released s.paid userId :=
  ⟨h.promises.of_eq (h.promises.rows.of_eq hl rfl rfl) rfl rfl, fun _ =>
    Books.promised_of_eq rfl rfl⟩

/-- **A step of a withdrawal.** -/
theorem Covered.withdrawal (h : Covered wallets s) {p : Books.Call} (hp : Books.OfService s.db p)
    (hbacks : s.Backs (.withdrawal p)) (r : ℕ) (c : Books.Answer) :
    Covered wallets (s.resumeWithdrawal r p c).1 ∧ Later s.db (s.resumeWithdrawal r p c).1.db ∧
      Stays s.db (s.resumeWithdrawal r p c).1.db := by
  rcases Books.resume_gives r s.db p c with ⟨hsame, hgives⟩ | ⟨t, k, pending, committed,
    rfl, hrun, hgives⟩
  · have hstay : (s.resumeWithdrawal r p c).1 = s := by
      simp only [Holdings.resumeWithdrawal, hsame, hgives, List.append_nil]
    rw [hstay]
    exact ⟨h, Later.refl _, Stays.refl _⟩
  · obtain ⟨rfl, hchecked, htrusted, hof⟩ := hp.commit h.promises.rows
    obtain ⟨hpromises, hfree⟩ := Books.Commit.promises h.promises hchecked htrusted hof hbacks hrun
    refine ⟨⟨?_, h.signatures, h.posted, fun userId => ?_⟩, Database.runAll_later hrun,
      Books.runAll_stays hrun⟩
    · dsimp only [Holdings.resumeWithdrawal]
      rw [hgives]
      exact hpromises
    · have hbacked := h.backed userId
      have hfree := hfree userId
      rw [← hgives] at hfree
      exact (add_le_add_left hfree _).trans hbacked

/-- A signature credited. -/
theorem inbound_credit (h : Covered wallets s) {x : LandedDeposit} (hx : x ∈ s.landed)
    (hnew : s.creditedTo.get x.signature = none) (d userId : ℕ) :
    (s.landed.map (LandedDeposit.inbound (s.creditedTo.upd x.signature d) userId)).sum =
      s.inbound userId - single x.userId x.amount userId := by
  have hsum := sum_change (LandedDeposit.inbound s.creditedTo userId)
    (LandedDeposit.inbound (s.creditedTo.upd x.signature d) userId) h.signatures hx fun y _ hy => by
      simp only [LandedDeposit.inbound, Table.get_upd_other hy]
  have hbefore : x.inbound s.creditedTo userId = single x.userId x.amount userId := by
    simp only [LandedDeposit.inbound, hnew, and_true, single]
  have hafter : x.inbound (s.creditedTo.upd x.signature d) userId = 0 := by
    simp only [LandedDeposit.inbound, Table.get_upd_same, reduceCtorEq, and_false, if_false]
  rw [hbefore, hafter] at hsum
  unfold Holdings.inbound
  omega

/-- **A step of `confirmDeposit`.** -/
theorem Covered.deposit (h : Covered wallets s) {p : Gateway.Confirm}
    (hbacks : s.Backs (.deposit p))
    (sol : Solana) (r : ℕ) (a : Gateway.Answer) :
    Covered wallets (s.resumeDeposit sol r p a).1 ∧ Later s.db (s.resumeDeposit sol r p a).1.db ∧
      Stays s.db (s.resumeDeposit sol r p a).1.db := by
  have hledger := resumeDeposit_ledger sol r s p a
  dsimp only [Holdings.resumeDeposit] at hledger ⊢
  generalize p.resume sol r s.depositStore a = out at hledger ⊢
  rcases hledger with ⟨hposts, hledger⟩ | ⟨deposit, result, hposts, hpoint, hpost⟩
  · simp only [hposts, Bool.false_eq_true, if_false]
    have hquiet : Later s.db { s.db with poolAccounts := out.1.ledger.poolAccounts } ∧
        (∀ userId, Database.free { s.db with poolAccounts := out.1.ledger.poolAccounts } userId =
          s.db.free userId) ∧ out.1.ledger.transactions = s.deposits.ledger.transactions := by
      rcases hledger with hledger | ⟨userId, hledger⟩
      · rw [hledger]
        exact ⟨Later.refl _, fun _ => rfl, rfl⟩
      · rw [hledger]
        exact created_free _ userId
    obtain ⟨hl, hfree, hrows⟩ := hquiet
    obtain ⟨hpromises, hpromised⟩ := h.accounts hl
    refine ⟨⟨hpromises, h.signatures, ?_, fun userId => ?_⟩, hl, Stays.of_eq rfl⟩
    · dsimp only
      rw [hrows]
      exact h.posted
    · dsimp only
      rw [hfree, hpromised]
      exact h.backed userId
  · simp only [hposts, if_true]
    obtain ⟨userId, depositId, signature, point⟩ := p
    obtain rfl : point = .postCredit deposit result := hpoint
    obtain ⟨⟨x, hx, rfl, huser, hamount⟩, hfresh⟩ := hbacks
    obtain ⟨hl, hfree, hnone, hrow, hkept⟩ := credit_free hpost
    obtain ⟨hpromises, hpromised⟩ := h.accounts hl
    -- a signature that was credited was credited to this deposit, whose row is not there
    have hnew : s.creditedTo.get x.signature = none := by
      cases hd : s.creditedTo.get x.signature with
      | none => rfl
      | some d =>
          obtain rfl := hfresh d hd
          exact absurd hnone (h.posted _ d hd)
    refine ⟨⟨hpromises, h.signatures, ?_, fun userId => ?_⟩, hl, Stays.of_eq rfl⟩
    · exact (h.posted.mono fun _ d hd => hkept _ hd).upd hrow
    · have hinbound := inbound_credit h hx hnew depositId userId
      have hbacked := h.backed userId
      dsimp only [Holdings.inbound]
      rw [hinbound, hfree, hpromised]
      show _ ≤ s.onChain wallets userId
      simp only [single, huser]
      split_ifs <;> omega

/-- A player account written. -/
theorem onChain_upd {chain : Program.State} {userId : ℕ} {p : Program.PlayerAccount}
    (hchain : chain.players = s.chain.players.upd (wallets.address userId) p) (userId' : ℕ) :
    chain.balanceOf (wallets.address userId') =
      if userId' = userId then (p.balance : ℤ) else s.onChain wallets userId' := by
  unfold Holdings.onChain Program.State.balanceOf
  rw [hchain]
  split_ifs with e
  · subst e
    rw [Table.get_upd_same]
  · rw [Table.get_upd_other fun e' => e (wallets.unique e')]

section Chain
variable {rt : Program.Runtime} {now : ℤ} {amount userId : ℕ} {t : Program.Tx}

/-- **What `deposit` does on chain.** -/
theorem deposit_onChain {accs : Program.Deposit} (hkey : accs.player.key = wallets.address userId)
    (hexec : Program.exec rt now s.chain (.deposit accs amount) = .ok t) (userId' : ℕ) :
    t.state.balanceOf (wallets.address userId') =
      s.onChain wallets userId' + single userId amount userId' := by
  cases Program.exec_effect hexec with
  | config _ _ _ _ hcases =>
      rcases hcases with ⟨_, _, _, _, _, _, hi⟩ | ⟨_, _, hi⟩ | ⟨_, hi⟩ <;> cases hi
  | @deposit _ _ _ p _ _ _ _ _ hp =>
      have hbefore : s.onChain wallets userId = p.balance := by
        rw [Holdings.onChain, Program.State.balanceOf, ← hkey]
        rcases hp with hp | ⟨hp, rfl⟩
        · rw [hp]
        · rw [hp]
          rfl
      rw [hkey]
      refine (onChain_upd rfl userId').trans ?_
      by_cases e : userId' = userId
      · subst e
        rw [if_pos rfl, hbefore, single, if_pos rfl, Nat.cast_add]
      · rw [if_neg e, single, if_neg (Ne.symm e), add_zero]

/-- **What `withdraw` does on chain.** -/
theorem withdraw_onChain {accs : Program.Withdraw} (hkey : accs.player.key = wallets.address userId)
    (hexec : Program.exec rt now s.chain (.withdraw accs amount) = .ok t) (userId' : ℕ) :
    t.state.balanceOf (wallets.address userId') =
      s.onChain wallets userId' - single userId amount userId' := by
  cases Program.exec_effect hexec with
  | config _ _ _ _ hcases =>
      rcases hcases with ⟨_, _, _, _, _, _, hi⟩ | ⟨_, _, hi⟩ | ⟨_, hi⟩ <;> cases hi
  | @withdraw _ _ _ p _ _ _ _ hp hbal _ _ _ =>
      have hbefore : s.onChain wallets userId = p.balance := by
        rw [Holdings.onChain, Program.State.balanceOf, ← hkey, hp]
      rw [hkey]
      refine (onChain_upd rfl userId').trans ?_
      by_cases e : userId' = userId
      · subst e
        rw [if_pos rfl, hbefore, single, if_pos rfl, Nat.cast_sub hbal]
      · rw [if_neg e, single, if_neg (Ne.symm e), sub_zero]

/-- A deposit that lands is still to come off chain. -/
theorem Covered.deposited (h : Covered wallets s) {accs : Program.Deposit} {signature : Signature}
    (hkey : accs.player.key = wallets.address userId)
    (hnew : ∀ x ∈ s.landed, x.signature ≠ signature)
    (hexec : Program.exec rt now s.chain (.deposit accs amount) = .ok t) :
    Covered wallets { s with
      chain := t.state, landed := s.landed ++ [⟨signature, userId, amount⟩] } := by
  let x : LandedDeposit := ⟨signature, userId, amount⟩
  refine ⟨h.promises, h.signatures.append (x := x) hnew, h.posted, fun userId' => ?_⟩
  have hone : x.inbound s.creditedTo userId' ≤ single userId amount userId' := by
    simp only [LandedDeposit.inbound, single, x]
    by_cases e : userId = userId'
    · rw [if_pos e]
      split <;> omega
    · rw [if_neg e, if_neg fun hx => e hx.1]
  have hinbound : ((s.landed ++ [x]).map (LandedDeposit.inbound s.creditedTo userId')).sum =
      s.inbound userId' + x.inbound s.creditedTo userId' := by
    rw [List.map_append, List.sum_append, List.map_singleton, List.sum_singleton, Holdings.inbound]
  refine le_of_le_of_eq ?_ (deposit_onChain hkey hexec userId').symm
  have hbacked := h.backed userId'
  show s.db.free userId' + s.db.promised s.released s.paid userId' + _ ≤ _
  rw [Holdings.inbound, hinbound]
  omega

/-- A withdrawal that lands is promised once less. -/
theorem Covered.withdrawn (h : Covered wallets s) {accs : Program.Withdraw} {row : Books.Withdrawal}
    (hrow : s.db.withdrawal row.id = some row) (hkey : accs.player.key = wallets.address row.userId)
    (hreserved : row.id ∉ s.released) (hnew : row.id ∉ s.paid)
    (hexec : Program.exec rt now s.chain (.withdraw accs row.amountLamports.toNat) = .ok t) :
    Covered wallets { s with chain := t.state, paid := s.paid ++ [row.id] } := by
  have hmem := List.mem_of_find?_eq_some hrow
  refine ⟨⟨h.promises.rows, fun id hid => ?_, fun id hreleased hpaid => ?_⟩, h.signatures, h.posted,
    fun userId' => ?_⟩
  · by_cases e : id = row.id
    · exact ⟨row, hmem, e.symm⟩
    · simp only [List.mem_append, List.mem_singleton, e, or_false] at hid
      exact h.promises.known id hid
  · rcases List.mem_append.mp hpaid with hpaid | hpaid
    · exact h.promises.settled id hreleased hpaid
    · obtain rfl := List.mem_singleton.mp hpaid
      exact absurd hreleased hreserved
  · obtain ⟨hthis, hothers⟩ := Books.owes_land s.db s.released hnew
    have hpromised := Books.promised_change userId' h.promises.rows (.of_mem hmem) hthis hothers
    have hchain := withdraw_onChain hkey hexec userId'
    have hbacked := h.backed userId'
    have hpos := row.pos
    refine le_of_le_of_eq ?_ hchain.symm
    show s.db.free userId' + (s.db.withdrawals.map (Books.Withdrawal.promise
      (s.db.owes s.released (s.paid ++ [row.id])) userId')).sum + s.inbound userId' ≤ _
    rw [hpromised]
    simp only [Database.promised] at hbacked
    simp only [single]
    split_ifs <;> omega

end Chain

end Covered

/-! ### Runs -/

/-- A task that has not begun. -/
def Task.Fresh : Task → Prop
  | .withdrawal (.call request) => request.ofWithdrawal = true
  | .withdrawal (.running ..) => False
  | .deposit _ | .reconcileOnce _ | .findWithdrawals | .expireStaleDeposits => True

def Task.Knows (db : Database) : Task → Prop
  | .withdrawal p => Books.OfService db p
  | .deposit _ | .reconcileOnce _ | .findWithdrawals | .expireStaleDeposits => True

/-- What a job knows where it waits. -/
def Job.Knows (s : Holdings) (job : Job) : Prop :=
  job.task.Knows s.db ∧ ∀ task ∈ job.rest, task.Fresh

/-- A task that is new knows nothing yet. -/
theorem Task.Fresh.knows {task : Task} (h : task.Fresh) (db : Database) : task.Knows db := by
  cases task with
  | withdrawal p =>
      cases p with
      | call => exact h
      | running => exact h.elim
  | deposit | reconcileOnce | findWithdrawals | expireStaleDeposits => trivial

/-- The next task of a pass is new. -/
theorem nextTask_knows {s : Holdings} {rest : List Task} (h : ∀ task ∈ rest, task.Fresh) {job : Job}
    (hjob : nextTask rest = some job) : job.Knows s := by
  cases rest with
  | nil => cases hjob
  | cons task rest =>
      obtain rfl := Option.some.inj hjob
      exact ⟨(h task List.mem_cons_self).knows _, fun t ht => h t (List.mem_cons_of_mem _ ht)⟩

/-- The tasks of the rows that a pass selects. -/
theorem selected_fresh {s : Holdings} {select : ℕ → Option Task} {order : List ℕ} {rest : List Task}
    (hselect : ∀ id task, select id = some task → task.Fresh) (hrest : ∀ task ∈ rest, task.Fresh)
    {job : Job} (hjob : nextTask ((order.dedup.filterMap select).take 100 ++ rest) = some job) :
    job.Knows s := by
  refine nextTask_knows (fun task htask => ?_) hjob
  rcases List.mem_append.mp htask with htask | htask
  · obtain ⟨id, -, hid⟩ := List.mem_filterMap.mp (List.mem_of_mem_take htask)
    exact hselect id task hid
  · exact hrest task htask

/-- A deposit that is selected is looked at anew. -/
theorem selectDeposit_fresh {s : Holdings} {d : ℕ} {task : Task}
    (h : s.selectDeposit d = some task) :
    task.Fresh := by
  simp only [Holdings.selectDeposit] at h
  split at h
  · split at h
    · obtain ⟨signature, -, rfl⟩ := Option.map_eq_some_iff.mp h
      trivial
    · cases h
  · cases h

/-- So is a withdrawal. -/
theorem selectWithdrawal_fresh {s : Holdings} {id : ℕ} {task : Task}
    (h : s.selectWithdrawal id = some task) : task.Fresh := by
  simp only [Holdings.selectWithdrawal] at h
  split at h
  · split at h
    · obtain ⟨signature, -, rfl⟩ := Option.map_eq_some_iff.mp h
      rfl
    · cases h
  · cases h

section Runs
variable {sol : Solana} {rt : Program.Runtime} {wallets : Wallets}

/-- The step keeps what is covered, and what the calls know. -/
def Leads (wallets : Wallets) (s s' : Holdings) : Prop :=
  Covered wallets s' ∧ Later s.db s'.db ∧ Stays s.db s'.db

/-- A step that leaves the books. -/
theorem Covered.stays {s s' : Holdings} (h : Covered wallets s') (hdb : s'.db = s.db) :
    Leads wallets s s' := ⟨h, hdb ▸ Later.refl s.db, hdb ▸ Stays.refl s.db⟩

/-- What a job knows stays. -/
theorem Job.Knows.later {s s' : Holdings} {job : Job} (hR : Leads wallets s s') (h : job.Knows s) :
    job.Knows s' := by
  obtain ⟨htask, hrest⟩ := h
  refine ⟨?_, hrest⟩
  cases job with
  | mk task rest =>
      cases task with
      | withdrawal p => exact Books.OfService.later htask hR.2.1 hR.2.2
      | deposit | reconcileOnce | findWithdrawals | expireStaleDeposits => trivial

/-- A job that starts knows nothing. -/
theorem starts_knows {job : Job} (h : job.starts = true) (s : Holdings) : job.Knows s := by
  obtain ⟨task, rest⟩ := job
  simp only [Job.starts, Bool.and_eq_true, List.isEmpty_iff] at h
  obtain ⟨rfl, h⟩ := h
  refine ⟨?_, fun _ htask => absurd htask List.not_mem_nil⟩
  cases task with
  | withdrawal p =>
      cases p with
      | call => exact h
      | running => cases h
  | deposit | reconcileOnce | findWithdrawals | expireStaleDeposits => trivial

/-- What a pass does after its deposits. -/
theorem pass_fresh (isStale : ℕ → Bool) : ∀ task ∈ [Task.findWithdrawals, .expireStaleDeposits,
    .withdrawal (.call (.expireStaleWithdrawals isStale))], task.Fresh := by
  intro task htask
  simp only [List.mem_cons, List.not_mem_nil, or_false] at htask
  obtain rfl | rfl | rfl := htask
  · trivial
  · trivial
  · rfl

/-- Expiring deposits moves no money. -/
theorem Covered.expire {s : Holdings} (h : Covered wallets s) (old : List ℕ) :
    Covered wallets (s.expireStaleDeposits old) :=
  ⟨h.promises, h.signatures, h.posted, h.backed⟩

/-- **Every step of every job keeps the books covered**, if it is backed. -/
theorem resume_leads {s : System Holdings Job} {r : ℕ} {job : Job} {reply : Reply}
    (hI : Covered wallets s.store) (hjob : s.procs.get r = some job) (hK : job.Knows s.store)
    (hback : Backed s (.resume r reply)) :
    Processes.Leads (Leads wallets) Job.Knows s.store (resume sol r s.store job reply) := by
  have hbacks : s.store.Backs job.task := hback job hjob
  obtain ⟨task, rest⟩ := job
  obtain ⟨htask, hrest⟩ := hK
  dsimp only at htask hrest hbacks
  have hstay : Leads wallets s.store s.store := hI.stays rfl
  have hthrow : Processes.Leads (Leads wallets) Job.Knows s.store (s.store, none) := .ends hstay
  cases task with
  | withdrawal p =>
      cases reply with
      | withdrawal c =>
          obtain ⟨hI', hl, hs⟩ := hI.withdrawal htask hbacks r c
          refine ⟨⟨hI', hl, hs⟩, fun job' hjob' => ?_⟩
          dsimp only [resume] at hjob' ⊢
          cases hout : (s.store.resumeWithdrawal r p c).2 with
          | none =>
              rw [hout] at hjob'
              exact nextTask_knows hrest hjob'
          | some p' =>
              rw [hout] at hjob'
              obtain rfl := Option.some.inj hjob'
              exact ⟨Books.OfService.resume hI.promises.rows htask r c hout, hrest⟩
      | deposit | rows => exact hthrow
  | deposit p =>
      cases reply with
      | deposit a =>
          obtain ⟨hI', hl, hs⟩ := hI.deposit hbacks sol r a
          refine ⟨⟨hI', hl, hs⟩, fun job' hjob' => ?_⟩
          dsimp only [resume] at hjob' ⊢
          cases hout : (s.store.resumeDeposit sol r p a).2 with
          | none =>
              rw [hout] at hjob'
              exact nextTask_knows hrest hjob'
          | some p' =>
              rw [hout] at hjob'
              obtain rfl := Option.some.inj hjob'
              exact ⟨trivial, hrest⟩
      | withdrawal | rows => exact hthrow
  | reconcileOnce isStale =>
      cases reply with
      | rows order =>
          exact ⟨hstay, fun _ => selected_fresh (fun _ _ => selectDeposit_fresh)
            (pass_fresh isStale)⟩
      | withdrawal | deposit => exact hthrow
  | findWithdrawals =>
      cases reply with
      | rows order =>
          exact ⟨hstay, fun _ => selected_fresh (fun _ _ => selectWithdrawal_fresh) hrest⟩
      | withdrawal | deposit => exact hthrow
  | expireStaleDeposits =>
      cases reply with
      | rows old => exact ⟨(hI.expire old).stays rfl, fun _ => nextTask_knows hrest⟩
      | withdrawal | deposit => exact hthrow

/-- So does what happens outside. -/
theorem other_leads {s s' : Holdings} (hI : Covered wallets s) {e : Event}
    (h : other rt wallets s e = some s') : Leads wallets s s' := by
  cases e with
  | deposited signature userId accs amount now =>
      simp only [other] at h
      split at h
      next hnew =>
          split at h
          next t hexec =>
              obtain rfl := Option.some.inj h
              exact (hI.deposited hnew.1 hnew.2 hexec).stays rfl
          · cases h
      · cases h
  | withdrawn id accs now =>
      simp only [other] at h
      split at h
      · cases h
      next row hrow =>
          split at h
          next hnew =>
              split at h
              next t hexec =>
                  obtain rfl := Option.some.inj h
                  obtain rfl : row.id = id := by simpa using List.find?_some hrow
                  exact (hI.withdrawn hrow hnew.1 hnew.2.1 hnew.2.2 hexec).stays rfl
              · cases h
          · cases h
  | createDepositIntent depositId userId wallet amount =>
      obtain ⟨deposits, hdeposits, rfl⟩ := Option.map_eq_some_iff.mp h
      simp only [Gateway.outside, Option.ite_none_right_eq_some] at hdeposits
      obtain rfl := Option.some.inj hdeposits.2
      exact Covered.stays ⟨hI.promises, hI.signatures, hI.posted, hI.backed⟩ rfl
  | lockExpired depositId =>
      obtain ⟨deposits, hdeposits, rfl⟩ := Option.map_eq_some_iff.mp h
      simp only [Gateway.outside] at hdeposits
      split at hdeposits
      · cases hdeposits
      · obtain rfl := Option.some.inj hdeposits
        exact Covered.stays ⟨hI.promises, hI.signatures, hI.posted, hI.backed⟩ rfl

/-- The rule's invariant: the books are covered. -/
theorem custody_keeps : (custody sol rt wallets).Keeps Backed (Covered wallets)
    (fun s _ job => job.Knows s) fun _ _ => True :=
  .of_leads (R := Leads wallets) (K := Job.Knows) (fun _ _ h => h.1)
    (fun _ _ _ hR => Job.Knows.later hR) (fun s _ h => starts_knows h s)
    (fun _ _ _ _ hI hjob hK hback => resume_leads hI hjob hK hback)
    fun _ _ _ hI _ => other_leads hI

/-- Where books and chain agree to begin with. -/
theorem Equal.covered {s : System Holdings Job} (h : Equal wallets s) :
    Covered wallets s.store where
  promises := by
    refine ⟨⟨?_, ?_, ?_⟩, fun id hid => ?_, fun id hid => ?_⟩
    · rw [h.stakes]
      exact List.nodup_nil
    · rw [h.withdrawals]
      exact List.nodup_nil
    · rw [h.stakes]
      exact nofun
    · rw [h.posted, h.released, h.paid] at hid
      simp at hid
    · rw [h.released] at hid
      cases hid
  signatures := by
    rw [h.landed]
    exact List.nodup_nil
  posted := by
    rw [h.creditedTo]
    exact Table.All.empty
  backed userId := by
    have hbalance := h.balance userId
    have hreserved := h.reserved userId
    simp only [Database.free, Database.promised, Holdings.inbound, h.withdrawals, h.landed,
      List.map_nil, List.sum_nil, hreserved, hbalance]
    omega

/-- **What is promised is on chain.**  Whatever the players' transactions, the calls of the two
services and the passes of the reconciler do, a player is told to have no more than the player
account has, and a reservation of a withdrawal that the chain paid was given back only with its
debit posted, as long as each step is `Backed`. -/
theorem spendable_onChain {s : System Holdings Job}
    (hs : Reachable (Guarded (custody sol rt wallets).Step Backed) (Equal wallets) s) :
    (∀ userId, s.store.spendable userId ≤ s.store.onChain wallets userId) ∧
      ∀ id ∈ s.store.released, id ∈ s.store.paid → s.store.db.debited id = true := by
  have hs := (custody_keeps.reachable (fun s h =>
    ⟨h.covered, ?_, fun _ _ _ _ _ _ _ => trivial⟩) hs).1
  · exact ⟨hs.spendable_le, hs.promises.settled⟩
  · rw [h.procs]
    exact Table.All.empty

end Runs

/-! ### A withdrawal nobody confirms -/

/-- Each player's wallet is the key after the player's number. -/
def wallets : Wallets := ⟨fun userId => .key (userId + 1), fun _ _ e => by simpa using e⟩

/-- The program initialized, nobody holding anything. -/
def chain : Program.State where
  lamports
    | .key n => if n < 9 then 10 ^ 12 else 0
    | .pool | .treasury => 10 ^ 9
    | _ => 0
  config := some ⟨.key 1, none, .key 2, .treasury, .key 3, 500, 0, false, 0⟩
  players := .empty
  rooms := .empty
  roomPlayers := .empty

/-- The accounts of the system, and nothing else. -/
def noHoldings : System Holdings Job :=
  ⟨⟨⟨(Table.empty.upd .external ⟨.external, 0, 0, 0⟩).upd .treasury ⟨.treasury, 0, 0, 0⟩,
      [], [], [], .empty⟩,
    ⟨.empty, .empty, ⟨.empty, .empty⟩, .empty, .empty⟩, chain, [], [], [], .empty⟩, .empty⟩

theorem noHoldings_equal : Equal wallets noHoldings where
  balance _ := rfl
  reserved _ := rfl
  stakes := rfl
  withdrawals := rfl
  posted _ := rfl
  landed := rfl
  paid := rfl
  released := rfl
  creditedTo := rfl
  procs := rfl

/-- A call of the withdrawal service. -/
def withdrawalCall (request : Books.Request) (answers : List Books.Answer) :
    List (Act Job Reply Event) :=
  .start 0 ⟨.withdrawal (.call request), []⟩ :: answers.map fun c => .resume 0 (.withdrawal c)

/-- A deposit of 1000000 that landed and is confirmed, an intent of 20000, and its `withdraw`. -/
def depositedWithdrawn : List (Act Job Reply Event) :=
  [.other (.deposited "5sig" 3 ⟨.full .config, .full (.player (.key 4)), .full .pool,
    .full (.key 4),
      .full .systemProgram⟩ 1000000 1),
    .other (.createDepositIntent 0 3 (.key 4) 1000000),
    .start 0 ⟨.deposit ⟨3, 0, "5sig", .acquireLock⟩, []⟩] ++
  List.replicate 8 (.resume 0 (.deposit .ok)) ++
  withdrawalCall (.createWithdrawalIntent 3 20000 0)
    (List.replicate 4 (.wallet true) ++ List.replicate 4 (.uuid 7)) ++
  [.other (.withdrawn 7 ⟨.full .config, .full (.player (.key 4)), .full .pool, .full .treasury,
    .full (.key 4), .full .systemProgram⟩ 2)]

/-- The player confirms it. -/
theorem spendable_onChain_confirmed : ∃ s,
    Reachable (Guarded (custody Gateway.solana .validator wallets).Step Backed) (Equal wallets) s ∧
      s.store.spendable 3 = 980000 ∧ s.store.released = [7] ∧
      s.store.spendable 3 ≤ s.store.onChain wallets 3 := by
  have hrun : ((custody Gateway.solana .validator wallets).actsWhen Backed noHoldings
      (depositedWithdrawn ++ withdrawalCall (.confirmWithdrawal 3 7 "8sig")
        (List.replicate 4 (.locked true) ++ List.replicate 4 .verified ++
          List.replicate 14 (.uuid 9)))).any (fun s =>
      decide (s.store.spendable 3 = 980000) && decide (s.store.released = [7])) = true := by
    decide
  obtain ⟨s, hs, htest⟩ := (custody _ _ _).reachable_of_actsWhen noHoldings_equal hrun
  simp only [Bool.and_eq_true, decide_eq_true_eq] at htest
  exact ⟨s, hs, htest.1, htest.2, (spendable_onChain hs).1 3⟩

/-- Nobody does, and the reconciler gives the reservation back. -/
theorem spendable_onChain_expired : ¬∀ (sol : Solana) (rt : Program.Runtime) (wallets : Wallets) s,
    Reachable (custody sol rt wallets).Step (Equal wallets) s →
      (∀ userId, s.store.spendable userId ≤ s.store.onChain wallets userId) ∧
        ∀ id ∈ s.store.released, id ∈ s.store.paid → s.store.db.debited id = true := by
  intro hclaim
  have hrun : ((custody Gateway.solana .validator wallets).acts noHoldings
      (depositedWithdrawn ++ withdrawalCall (.expireStaleWithdrawals (· = 7))
        (List.replicate 8 (.uuid 9)))).any (fun s =>
      decide (s.store.spendable 3 = 1000000) &&
        decide (s.store.onChain wallets 3 = 980000)) = true := by
    decide
  obtain ⟨s, hs, htest⟩ := (custody _ _ _).reachable_of_acts noHoldings_equal hrun
  simp only [Bool.and_eq_true, decide_eq_true_eq] at htest
  have hle := (hclaim _ _ _ s hs).1 3
  rw [htest.1, htest.2] at hle
  exact absurd hle (by decide)

end SnakeArena.Custody
