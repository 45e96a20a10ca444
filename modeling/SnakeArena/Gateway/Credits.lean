import SnakeArena.Gateway.Deposit

/-!
# Gateway — one credit for a signature

The ledger keys a credit by its deposit, the replay check goes by the signature, and the
signature is written after the credit is posted.  `FreshSignature` is the condition under which
the three agree: when the chain answers for a deposit and a signature, the deposit was credited
from no other signature, and no other deposit was credited from it or is about to be.

What a call knows at each await (`Confirm.Asserts`) rests on the lock of its deposit: two calls
past it are on different deposits.
-/

namespace SnakeArena.Gateway
open SnakeArena.Library SnakeArena.Db SnakeArena.Program SnakeArena.Sdk

/-- The amount the transaction of a signature moved into the pool. -/
def Solana.moved (sol : Solana) (signature : Signature) : ℤ :=
  (parseBalanceChanges (sol.getParsedTransaction signature) sol.pool).getD 0

/-- A call whose deposit was verified and not credited yet. -/
def Confirm.Verified (p : Confirm) : Prop :=
  match p.point with
  | .findCustody _ _ | .postCredit _ _ => True
  | _ => False

/-- What a call finds when the chain answers, a deposit when it expires, and a lock. -/
def FreshSignature (sol : Solana) (s : System Store Confirm) : Act Confirm Answer Outside → Prop
  | .resume r .ok => ∀ p deposit, s.procs.get r = some p → p.point = .getTransaction deposit →
      (∀ from', s.store.creditedFrom.get p.depositId = some from' → from' = p.signature) ∧
        ((sol.verify deposit p.signature).ok = true →
          (∀ d, s.store.creditedFrom.get d = some p.signature → d = p.depositId) ∧
            ∀ r' q, s.procs.get r' = some q → q.Verified → q.signature = p.signature →
              q.depositId = p.depositId)
  | .other (.expire d) => s.store.creditedFrom.get d = none ∧
      ∀ r p, s.procs.get r = some p → p.point ≠ .acquireLock → p.depositId ≠ d
  | .other (.lockExpired d) => ∀ r, s.store.locks.get d = some r → s.procs.get r = none
  | _ => True

/-! ### What a call does -/

/-- What a call does from one await to the next. -/
inductive Confirm.Outcome (sol : Solana) (r : ℕ) (s : Store) (p : Confirm) :
    Answer → Store → Option Confirm → Prop where
  | ended {a} : Outcome sol r s p a s none
  | locked {a} (hpt : p.point = .acquireLock) (hfree : s.locks.get p.depositId = none) :
      Outcome sol r s p a { s with locks := s.locks.upd p.depositId r }
        (some { p with point := .findDeposit })
  | unlocked {a} (hmine : s.locks.get p.depositId = some r) :
      Outcome sol r s p a { s with locks := s.locks.del p.depositId } none
  | released {a} (hpt : p.point ≠ .acquireLock) :
      Outcome sol r s p a s (some { p with point := .release })
  | found {a deposit} (hpt : p.point = .findDeposit)
      (hrow : s.deposits.get p.depositId = some deposit) (hst : deposit.status = .pending) :
      Outcome sol r s p a s (some { p with point := .findSignature deposit })
  | fresh {a deposit} (hpt : p.point = .findSignature deposit) :
      Outcome sol r s p a s (some { p with point := .getTransaction deposit })
  | verified {deposit} (hpt : p.point = .getTransaction deposit)
      (hok : (sol.verify deposit p.signature).ok = true) :
      Outcome sol r s p .ok s
        (some { p with point := .findCustody deposit (sol.verify deposit p.signature) })
  | refused {deposit reason} (hpt : p.point = .getTransaction deposit)
      (hok : (sol.verify deposit p.signature).ok = false) :
      Outcome sol r s p .ok s (some { p with point := .markFailed reason })
  | failed {a reason} (hpt : p.point = .markFailed reason) :
      Outcome sol r s p a (s.markFailed p.depositId reason) (some { p with point := .release })
  | noSystem {a deposit result} (hpt : p.point = .findCustody deposit result) :
      Outcome sol r s p a
        { s with ledger := getOrCreateCustodyAccount s.ledger deposit.userId }
        (some { p with point := .release })
  | custody {a deposit result} (hpt : p.point = .findCustody deposit result)
      (hsys : getSystemAccount (getOrCreateCustodyAccount s.ledger deposit.userId) .external
        = .ok ()) :
      Outcome sol r s p a
        { s with ledger := getOrCreateCustodyAccount s.ledger deposit.userId }
        (some { p with point := .postCredit deposit result })
  | posted {a deposit result ledger} (hpt : p.point = .postCredit deposit result)
      (hpost : postEntry s.ledger
        (depositEntry p.depositId deposit.userId result.observedLamports) = .ok ledger) :
      Outcome sol r s p a
        { s with ledger, creditedFrom := s.creditedFrom.upd p.depositId p.signature }
        (some { p with point := .markConfirmed deposit result })
  | already {a deposit result} (hpt : p.point = .postCredit deposit result)
      (hpost : postEntry s.ledger
        (depositEntry p.depositId deposit.userId result.observedLamports) = .error .alreadyPosted) :
      Outcome sol r s p a s (some { p with point := .markConfirmed deposit result })
  | confirmed {a deposit result s'} (hpt : p.point = .markConfirmed deposit result)
      (hmark : s.markConfirmed p.depositId p.signature result.slot = some s') :
      Outcome sol r s p a s' (some { p with point := .release })

theorem Confirm.resume_outcome (sol : Solana) (r : ℕ) (s : Store) (p : Confirm) (a : Answer) :
    p.Outcome sol r s a (p.resume sol r s a).1 (p.resume sol r s a).2 := by
  have throw : p.point ≠ .acquireLock → p.Outcome sol r s a s (some { p with point := .release }) :=
    .released
  cases hpt : p.point with
  | acquireLock =>
      cases hl : s.locks.get p.depositId <;> cases a <;> simp only [Confirm.resume, hpt, hl]
      all_goals first | exact .ended | exact .locked hpt hl
  | release =>
      cases a <;> simp only [Confirm.resume, hpt]
      case throw => exact .ended
      all_goals
        split
        · next h => exact .unlocked h
        · exact .ended
  | findDeposit =>
      cases hrow : s.deposits.get p.depositId <;> cases a <;>
        simp only [Confirm.resume, hpt, hrow]
      all_goals try exact throw (by simp [hpt])
      all_goals
        split
        · exact throw (by simp [hpt])
        · next h => exact .found hpt hrow (by tauto)
  | findSignature deposit =>
      cases a <;> simp only [Confirm.resume, hpt]
      case throw => exact throw (by simp [hpt])
      all_goals
        split
        · exact throw (by simp [hpt])
        · exact .fresh hpt
  | getTransaction deposit =>
      cases a <;> simp only [Confirm.resume, hpt]
      case throw => exact throw (by simp [hpt])
      case notVisible => exact throw (by simp [hpt])
      case ok =>
        cases hok : (sol.verify deposit p.signature).ok
        · exact .refused hpt hok
        · exact .verified hpt hok
  | markFailed reason =>
      cases a <;> simp only [Confirm.resume, hpt]
      case throw => exact throw (by simp [hpt])
      all_goals exact .failed hpt
  | findCustody deposit result =>
      cases a <;> simp only [Confirm.resume, hpt]
      case throw => exact throw (by simp [hpt])
      all_goals
        split
        · exact .noSystem hpt
        · next h => exact .custody hpt h
  | postCredit deposit result =>
      cases a <;> simp only [Confirm.resume, hpt]
      case throw => exact throw (by simp [hpt])
      all_goals
        split
        · next h => exact .posted hpt h
        · next h => exact .already hpt h
        · exact throw (by simp [hpt])
  | markConfirmed deposit result =>
      cases a <;> simp only [Confirm.resume, hpt]
      case throw => exact throw (by simp [hpt])
      all_goals
        split
        · next h => exact .confirmed hpt h
        · exact throw (by simp [hpt])

/-! ### The books of the deposits -/

/-- The credit posted for a deposit. -/
def Store.credit (s : Store) (d : ℕ) : ℕ :=
  match s.ledger.transactions.get (.deposit d 1) with
  | some tx => tx.amountLamports.toNat
  | none => 0

/-- The credits posted from a signature, added up. -/
noncomputable def Store.creditedBy (s : Store) (signature : Signature) : ℕ :=
  s.creditedFrom.total fun d from' => if from' = signature then s.credit d else 0

structure Store.Booked (sol : Solana) (s : Store) : Prop where
  unposted : ∀ d i, s.creditedFrom.get d = none → s.ledger.transactions.get (.deposit d i) = none
  typed : s.ledger.transactions.All fun key tx => tx.type = .deposit →
    ∃ d, key = .deposit d 0 ∨ key = .deposit d 1
  posted : s.creditedFrom.All fun d signature => ∃ row tx₀ tx, s.deposits.get d = some row ∧
    (sol.verify row signature).ok = true ∧
    s.ledger.transactions.get (.deposit d 0) = some tx₀ ∧ tx₀.direction = .debit ∧
    s.ledger.transactions.get (.deposit d 1) = some tx ∧ tx.direction = .credit ∧
    tx.amountLamports = sol.moved signature
  once : ∀ d d' signature, s.creditedFrom.get d = some signature →
    s.creditedFrom.get d' = some signature → d = d'
  index : s.txSignatures.All fun signature d =>
    ∃ row, s.deposits.get d = some row ∧ row.txSignature = some signature
  recorded : s.deposits.All fun d row => ∀ signature, row.txSignature = some signature →
    s.creditedFrom.get d = some signature ∧ row.status = .confirmed
  waiting : s.deposits.All fun d row => ∀ signature, s.creditedFrom.get d = some signature →
    row.txSignature = none → row.status = .pending
  kinds : s.ledger.poolAccounts.All fun name a => a.kind = name.kind
  external : ∀ d, s.creditedFrom.get d ≠ none → s.ledger.poolAccounts.get .external ≠ none

/-- The row of a deposit is still the pending one that was read. -/
def Store.Reads (s : Store) (d : ℕ) (deposit : Deposit) : Prop :=
  ∃ row, s.deposits.get d = some row ∧ row.status = .pending ∧ row.wallet = deposit.wallet ∧
    row.amountLamports = deposit.amountLamports

/-- What a call for `d` and `signature` knows where it waits. -/
def Store.Knows (sol : Solana) (s : Store) (d : ℕ) (signature : Signature) : ConfirmPoint → Prop
  | .acquireLock | .findDeposit | .release => True
  | .findSignature deposit | .getTransaction deposit => s.Reads d deposit
  | .markFailed _ => s.creditedFrom.get d = none ∧ ∃ deposit, s.Reads d deposit
  | .findCustody deposit result | .postCredit deposit result =>
      s.Reads d deposit ∧ result = sol.verify deposit signature ∧ result.ok = true ∧
        (∀ from', s.creditedFrom.get d = some from' → from' = signature) ∧
        ∀ d', s.creditedFrom.get d' = some signature → d' = d
  | .markConfirmed deposit _ => s.Reads d deposit ∧ s.creditedFrom.get d = some signature

/-- A call past the lock holds it, and knows what it knows. -/
def Confirm.Asserts (sol : Solana) (s : Store) (r : ℕ) (p : Confirm) : Prop :=
  (p.point ≠ .acquireLock → s.locks.get p.depositId = some r) ∧
    s.Knows sol p.depositId p.signature p.point

/-- Two calls about to credit from one signature are on one deposit. -/
def Confirm.Apart (p q : Confirm) : Prop :=
  p.Verified → q.Verified → p.signature = q.signature → p.depositId = q.depositId

theorem Store.markFailed_frame (s : Store) (d : ℕ) (reason : String) :
    (s.markFailed d reason).locks = s.locks ∧
      (s.markFailed d reason).creditedFrom = s.creditedFrom ∧
      ∀ d' ≠ d, (s.markFailed d reason).deposits.get d' = s.deposits.get d' := by
  unfold Store.markFailed
  split
  · exact ⟨rfl, rfl, fun _ _ => rfl⟩
  · exact ⟨rfl, rfl, fun _ hne => Table.get_upd_other hne⟩

section Frame
variable {sol : Solana} {s s' : Store} {r r' : ℕ} {p q : Confirm}

/-- A call past the lock holds it alone. -/
theorem Confirm.Asserts.ne (hp : p.Asserts sol s r) (hq : q.Asserts sol s r') (hne : r ≠ r')
    (hpp : p.point ≠ .acquireLock) (hqp : q.point ≠ .acquireLock) : q.depositId ≠ p.depositId := by
  intro e
  have hq' := hq.1 hqp
  rw [e, hp.1 hpp] at hq'
  exact hne (Option.some.inj hq')

/-- What another call does leaves what `q` knows, when it leaves the deposit of `q` and credits
nothing from its signature. -/
theorem Confirm.Asserts.frame (h : q.Asserts sol s r)
    (hoff : q.point ≠ .acquireLock → s'.locks.get q.depositId = s.locks.get q.depositId ∧
      s'.deposits.get q.depositId = s.deposits.get q.depositId ∧
      s'.creditedFrom.get q.depositId = s.creditedFrom.get q.depositId)
    (hnew : q.Verified → ∀ d, s'.creditedFrom.get d = some q.signature →
      s.creditedFrom.get d = some q.signature) : q.Asserts sol s' r := by
  obtain ⟨hlock, hknows⟩ := h
  refine ⟨fun hne => (hoff hne).1.trans (hlock hne), ?_⟩
  cases hq : q.point with
  | acquireLock => trivial
  | findDeposit => trivial
  | release => trivial
  | _ =>
      obtain ⟨-, hrow, hcred⟩ := hoff (by simp [hq])
      simp only [hq, Store.Knows, Store.Reads, hrow, hcred] at hknows ⊢
      first
        | exact hknows
        | exact ⟨hknows.1, hknows.2.1, hknows.2.2.1, hknows.2.2.2.1,
            fun d hd => hknows.2.2.2.2 d (hnew (by simp [Confirm.Verified, hq]) d hd)⟩

end Frame

section Books
variable {sol : Solana} {s : Store}

/-- The check of a deposit reads its wallet and its amount. -/
theorem Solana.verify_congr {deposit deposit' : Deposit} (hw : deposit.wallet = deposit'.wallet)
    (ha : deposit.amountLamports = deposit'.amountLamports) (signature : Signature) :
    sol.verify deposit signature = sol.verify deposit' signature := by
  simp only [Solana.verify, hw, ha]

/-- What a verified deposit is credited with is what its transaction moved. -/
theorem Solana.verify_moved {deposit : Deposit} {signature : Signature}
    (h : (sol.verify deposit signature).ok = true) :
    (sol.verify deposit signature).observedLamports = sol.moved signature ∧
      0 < sol.moved signature := by
  obtain ⟨-, -, n, hn, hpos, -, hobserved⟩ := verifyDeposit_ok h
  have hmoved : sol.moved signature = n := by
    simp only [Solana.moved]
    exact congrArg (·.getD 0) hn
  exact ⟨hobserved.trans hmoved.symm, hmoved ▸ hpos⟩

namespace Store.Booked

theorem locks (h : s.Booked sol) (locks : Table ℕ ℕ) : Store.Booked sol { s with locks } :=
  ⟨h.unposted, h.typed, h.posted, h.once, h.index, h.recorded, h.waiting, h.kinds, h.external⟩

/-- The row of a deposit not credited, written without a signature. -/
theorem upd_row (h : s.Booked sol) {d : ℕ} {row : Deposit} (hd : s.creditedFrom.get d = none)
    (hsig : row.txSignature = none) :
    Store.Booked sol { s with deposits := s.deposits.upd d row } where
  unposted := h.unposted
  typed := h.typed
  posted d' signature hd' := by
    have hne : d' ≠ d := fun e => nomatch (e ▸ hd).symm.trans hd'
    simp only [Table.get_upd_other hne]
    exact h.posted d' signature hd'
  once := h.once
  index signature d' hd' := by
    obtain ⟨row', hrow', hs⟩ := h.index signature d' hd'
    have hne : d' ≠ d := fun e => nomatch (e ▸ hd).symm.trans (h.recorded d' row' hrow' _ hs).1
    exact ⟨row', by simpa only [Table.get_upd_other hne] using hrow', hs⟩
  recorded := h.recorded.upd fun signature hs => nomatch hsig.symm.trans hs
  waiting := h.waiting.upd fun signature hs => nomatch hd.symm.trans hs
  kinds := h.kinds
  external := h.external

/-- A pending row has no signature yet. -/
theorem pending_signature (h : s.Booked sol) {d : ℕ} {row : Deposit}
    (hrow : s.deposits.get d = some row) (hst : row.status = .pending) :
    row.txSignature = none := by
  cases hs : row.txSignature with
  | none => rfl
  | some signature => exact nomatch hst.symm.trans (h.recorded d row hrow signature hs).2

theorem markFailed (h : s.Booked sol) {d : ℕ} {deposit : Deposit} (hd : s.creditedFrom.get d = none)
    (hread : s.Reads d deposit) (reason : String) : (s.markFailed d reason).Booked sol := by
  obtain ⟨row, hrow, hst, -, -⟩ := hread
  have hsig := h.pending_signature hrow hst
  simp only [Store.markFailed, hrow]
  exact h.upd_row hd hsig

theorem account (h : s.Booked sol) {name : PoolAccountName} {a : PoolAccount}
    (ha : a.kind = name.kind) :
    Store.Booked sol { s with
      ledger := { s.ledger with poolAccounts := s.ledger.poolAccounts.upd name a } } :=
  { h with
    kinds := h.kinds.upd ha
    external := fun d hd => Table.upd_ne_none (h.external d hd) }

theorem custody (h : s.Booked sol) (userId : ℕ) :
    Store.Booked sol { s with ledger := getOrCreateCustodyAccount s.ledger userId } := by
  unfold getOrCreateCustodyAccount
  split
  · exact h
  · exact h.account rfl

/-- The credit of a deposit, posted from a signature that credited none. -/
theorem post (h : s.Booked sol) {d : ℕ} {deposit : Deposit} {signature : Signature}
    {ledger : Ledger} (hread : s.Reads d deposit)
    (hok : (sol.verify deposit signature).ok = true)
    (hfresh : ∀ d', s.creditedFrom.get d' = some signature → d' = d)
    (hpost : postEntry s.ledger (depositEntry d deposit.userId
      (sol.verify deposit signature).observedLamports) = .ok ledger) :
    Store.Booked sol { s with ledger, creditedFrom := s.creditedFrom.upd d signature } := by
  obtain ⟨row, hrow, hst, hwallet, hamount⟩ := hread
  obtain ⟨l₁, h₀, h₁⟩ := postEntry_two rfl hpost
  obtain ⟨hnone₀, a₀, a₀', tx₀, ha₀, hk₀, rfl, ht₀, hdir₀, -⟩ := postLeg_ok h₀
  obtain ⟨hnone₁, a₁, a₁', tx₁, ha₁, hk₁, rfl, ht₁, hdir₁, hamount₁⟩ := postLeg_ok h₁
  simp only [depositEntry] at hnone₀ hnone₁ ha₀ ha₁ ht₀ ht₁ hdir₀ hdir₁ hamount₁ ⊢
  -- the rows of the other deposits stay
  have other : ∀ d' i, d' ≠ d → ((s.ledger.transactions.upd (.deposit d 0) tx₀).upd (.deposit d 1)
      tx₁).get (.deposit d' i) = s.ledger.transactions.get (.deposit d' i) := by
    intro d' i hne
    rw [Table.get_upd_other (by simp [hne]), Table.get_upd_other (by simp [hne])]
  have hverify : sol.verify row signature = sol.verify deposit signature :=
    Solana.verify_congr hwallet hamount signature
  refine ⟨?_, ?_, ?_, ?_, h.index, ?_, ?_, ?_, ?_⟩
  · intro d' i hd'
    have hne : d' ≠ d := by
      rintro rfl
      simp at hd'
    rw [Table.get_upd_other hne] at hd'
    rw [other d' i hne]
    exact h.unposted d' i hd'
  · exact (h.typed.upd fun _ => ⟨d, .inl rfl⟩).upd fun _ => ⟨d, .inr rfl⟩
  · intro d' from' hd'
    by_cases e : d' = d
    · subst e
      rw [Table.get_upd_same] at hd'
      obtain rfl := Option.some.inj hd'
      refine ⟨row, tx₀, tx₁, hrow, hverify ▸ hok, ?_, hdir₀, Table.get_upd_same _ _ _, hdir₁,
        hamount₁.trans (Solana.verify_moved hok).1⟩
      rw [Table.get_upd_other (by simp), Table.get_upd_same]
    · rw [Table.get_upd_other e] at hd'
      obtain ⟨row', tx, tx', h₁, h₂, h₃, h₄, h₅, h₆⟩ := h.posted d' from' hd'
      exact ⟨row', tx, tx', h₁, h₂, (other d' 0 e).trans h₃, h₄, (other d' 1 e).trans h₅, h₆⟩
  · intro d₁ d₂ from' h₁ h₂
    by_cases e₁ : d₁ = d <;> by_cases e₂ : d₂ = d
    · exact e₁.trans e₂.symm
    · subst e₁
      rw [Table.get_upd_same] at h₁
      rw [Table.get_upd_other e₂] at h₂
      exact absurd (hfresh d₂ (h₂.trans h₁.symm)) e₂
    · subst e₂
      rw [Table.get_upd_same] at h₂
      rw [Table.get_upd_other e₁] at h₁
      exact absurd (hfresh d₁ (h₁.trans h₂.symm)) e₁
    · rw [Table.get_upd_other e₁] at h₁
      rw [Table.get_upd_other e₂] at h₂
      exact h.once d₁ d₂ from' h₁ h₂
  · intro d' row' hrow' signature' hs
    have hne : d' ≠ d := by
      rintro rfl
      obtain rfl := Option.some.inj (hrow'.symm.trans hrow)
      exact nomatch (h.pending_signature hrow hst).symm.trans hs
    simp only [Table.get_upd_other hne]
    exact h.recorded d' row' hrow' signature' hs
  · intro d' row' hrow' signature' hd' hs
    by_cases e : d' = d
    · subst e
      obtain rfl := Option.some.inj (hrow'.symm.trans hrow)
      exact hst
    · rw [Table.get_upd_other e] at hd'
      exact h.waiting d' row' hrow' signature' hd' hs
  · exact (h.kinds.upd (hk₀.trans (h.kinds _ _ ha₀))).upd
      (hk₁.trans ((h.kinds.upd (hk₀.trans (h.kinds _ _ ha₀))) _ _ ha₁))
  · exact fun _ _ => Table.upd_ne_none (by rw [Table.get_upd_same]; exact nofun)

/-- The row of a credited deposit gets its signature. -/
theorem confirm (h : s.Booked sol) {d slot : ℕ} {deposit : Deposit} {signature : Signature}
    {s' : Store} (hread : s.Reads d deposit) (hd : s.creditedFrom.get d = some signature)
    (hmark : s.markConfirmed d signature slot = some s') :
    s'.Booked sol ∧ s'.locks = s.locks ∧ s'.creditedFrom = s.creditedFrom ∧
      ∀ d' ≠ d, s'.deposits.get d' = s.deposits.get d' := by
  obtain ⟨row, hrow, hst, -, -⟩ := hread
  have hnone := h.pending_signature hrow hst
  simp only [Store.markConfirmed, hrow, hnone, Option.ite_none_left_eq_some,
    Option.some.injEq] at hmark
  obtain ⟨-, rfl⟩ := hmark
  refine ⟨{ h with posted := ?_, index := ?_, recorded := ?_, waiting := ?_ }, rfl, rfl,
    fun d' hne => Table.get_upd_other hne⟩
  · intro d' from' hd'
    obtain ⟨row', tx₀, tx, h₁, h₂, h₃⟩ := h.posted d' from' hd'
    by_cases e : d' = d
    · subst e
      obtain rfl := Option.some.inj (h₁.symm.trans hrow)
      exact ⟨_, tx₀, tx, Table.get_upd_same _ _ _, h₂, h₃⟩
    · exact ⟨row', tx₀, tx, (Table.get_upd_other e).trans h₁, h₂, h₃⟩
  · intro signature' d' hd'
    by_cases e : signature' = signature
    · subst e
      rw [Table.get_upd_same] at hd'
      obtain rfl := Option.some.inj hd'
      exact ⟨_, Table.get_upd_same _ _ _, rfl⟩
    · rw [Table.get_upd_other e] at hd'
      obtain ⟨row', hrow', hs⟩ := h.index signature' d' hd'
      have hne : d' ≠ d := by
        rintro rfl
        obtain rfl := Option.some.inj (hrow'.symm.trans hrow)
        exact nomatch hnone.symm.trans hs
      exact ⟨row', (Table.get_upd_other hne).trans hrow', hs⟩
  · exact h.recorded.upd fun signature' hs => ⟨Option.some.inj hs ▸ hd, rfl⟩
  · exact h.waiting.upd fun signature' _ hs => nomatch hs

end Store.Booked

end Books

/-! ### Every call keeps the books -/

section Calls
variable {sol : Solana} {s : System Store Confirm} {r : ℕ} {p : Confirm}

abbrev InOrder (sol : Solana) : System Store Confirm → Prop :=
  Processes.Holds (Store.Booked sol) (Confirm.Asserts sol) Confirm.Apart

/-- What a step of `r` must leave. -/
def Leaves (sol : Solana) (s : System Store Confirm) (r : ℕ) (s' : Store) (p' : Option Confirm) :
    Prop :=
  s'.Booked sol ∧
    (∀ p₁, p' = some p₁ → p₁.Asserts sol s' r ∧
      ∀ r' ≠ r, ∀ q, s.procs.get r' = some q → p₁.Apart q) ∧
    ∀ r' ≠ r, ∀ q, s.procs.get r' = some q → q.Asserts sol s' r'

/-- A call past the lock goes on with it. -/
theorem InOrder.goes (hs : InOrder sol s) (hp : s.procs.get r = some p) {s' : Store}
    {point : ConfirmPoint} (hpt : p.point ≠ .acquireLock) (hbooked : s'.Booked sol)
    (hlocks : s'.locks = s.store.locks)
    (hknows : s'.Knows sol p.depositId p.signature point)
    (hapart : Confirm.Verified { p with point } → ∀ r' ≠ r, ∀ q, s.procs.get r' = some q →
      Confirm.Apart { p with point } q)
    (hdeposits : ∀ d ≠ p.depositId, s'.deposits.get d = s.store.deposits.get d)
    (hcredits : ∀ d ≠ p.depositId, s'.creditedFrom.get d = s.store.creditedFrom.get d)
    (hnew : ∀ r' ≠ r, ∀ q, s.procs.get r' = some q → q.Verified →
      s'.creditedFrom.get p.depositId = some q.signature →
      s.store.creditedFrom.get p.depositId = some q.signature) :
    Leaves sol s r s' (some { p with point }) := by
  obtain ⟨-, hP, -⟩ := hs
  refine ⟨hbooked, ?_, fun r' hne q hq => (hP r' q hq).frame (fun hqp => ?_) fun hv d hd => ?_⟩
  · rintro p₁ ⟨⟩
    refine ⟨⟨fun _ => hlocks ▸ (hP r p hp).1 hpt, hknows⟩, fun r' hne q hq hv => ?_⟩
    exact hapart hv r' hne q hq hv
  · have hoff := (hP r p hp).ne (hP r' q hq) hne.symm hpt hqp
    exact ⟨by rw [hlocks], hdeposits _ hoff, hcredits _ hoff⟩
  · by_cases e : d = p.depositId
    · subst e
      exact hnew r' hne q hq hv hd
    · exact hcredits d e ▸ hd

/-- The same, when it leaves the store alone. -/
theorem InOrder.goes_quiet (hs : InOrder sol s) (hp : s.procs.get r = some p)
    {point : ConfirmPoint} (hpt : p.point ≠ .acquireLock)
    (hknows : s.store.Knows sol p.depositId p.signature point)
    (hapart : Confirm.Verified { p with point } → ∀ r' ≠ r, ∀ q, s.procs.get r' = some q →
      Confirm.Apart { p with point } q) :
    Leaves sol s r s.store (some { p with point }) :=
  hs.goes hp hpt hs.1 rfl hknows hapart (fun _ _ => rfl) (fun _ _ => rfl) fun _ _ _ _ _ => id

/-- A call takes the lock of its deposit, which nobody past the lock has. -/
theorem InOrder.locked (hs : InOrder sol s) (hfree : s.store.locks.get p.depositId = none) :
    Leaves sol s r { s.store with locks := s.store.locks.upd p.depositId r }
      (some { p with point := .findDeposit }) := by
  refine ⟨hs.1.locks _, ?_, fun r' hne q hq => (hs.2.1 r' q hq).frame (fun hqp => ?_) fun _ _ => id⟩
  · rintro p₁ ⟨⟩
    exact ⟨⟨fun _ => Table.get_upd_same _ _ _, trivial⟩, fun _ _ _ _ hv => hv.elim⟩
  · have hne' : q.depositId ≠ p.depositId := by
      intro e
      have := (hs.2.1 r' q hq).1 hqp
      rw [e, hfree] at this
      cases this
    exact ⟨Table.get_upd_other hne', rfl, rfl⟩

/-- A call gives back a lock that it has, so no other call loses one. -/
theorem InOrder.unlocked (hs : InOrder sol s) (hmine : s.store.locks.get p.depositId = some r) :
    Leaves sol s r { s.store with locks := s.store.locks.del p.depositId } none := by
  refine ⟨hs.1.locks _, by rintro _ ⟨⟩, fun r' hne q hq =>
    (hs.2.1 r' q hq).frame (fun hqp => ?_) fun _ _ => id⟩
  have hne' : q.depositId ≠ p.depositId := by
    intro e
    have := (hs.2.1 r' q hq).1 hqp
    rw [e, hmine] at this
    exact hne (Option.some.inj this).symm
  exact ⟨Table.get_del_other hne', rfl, rfl⟩

/-- A deposit that is refused was not credited: a credited one verified for the signature it was
credited from. -/
theorem Store.Booked.refused {s : Store} {d : ℕ} {deposit : Deposit} {signature : Signature}
    (h : s.Booked sol) (hread : s.Reads d deposit)
    (hok : (sol.verify deposit signature).ok = false)
    (hsame : ∀ from', s.creditedFrom.get d = some from' → from' = signature) :
    s.creditedFrom.get d = none := by
  cases hd : s.creditedFrom.get d with
  | none => rfl
  | some from' =>
      obtain rfl := hsame from' hd
      obtain ⟨row, _, _, hrow, hverified, -⟩ := h.posted _ _ hd
      obtain ⟨row', hrow', -, hwallet, hamount⟩ := hread
      obtain rfl := Option.some.inj (hrow'.symm.trans hrow)
      rw [Solana.verify_congr hwallet hamount, hok] at hverified
      cases hverified

/-- A deposit whose legs are there already was credited, from the signature of the call. -/
theorem Store.Booked.already {s : Store} {d userId : ℕ} {lamports : ℤ} {signature : Signature}
    (h : s.Booked sol)
    (hpost : postEntry s.ledger (depositEntry d userId lamports) = .error .alreadyPosted)
    (hsame : ∀ from', s.creditedFrom.get d = some from' → from' = signature) :
    s.creditedFrom.get d = some signature := by
  cases hd : s.creditedFrom.get d with
  | some from' => rw [hsame from' hd]
  | none =>
      rcases postEntry_two_alreadyPosted rfl (by simp [depositEntry]) hpost with hleg | hleg
      · exact absurd (h.unposted _ _ hd) hleg
      · exact absurd (h.unposted _ _ hd) hleg

/-- The credit is posted: another call about to credit from this signature would be on this
deposit, whose lock the call has. -/
theorem InOrder.posted (hs : InOrder sol s) (hp : s.procs.get r = some p) {deposit : Deposit}
    {result : VerificationResult} {ledger : Ledger} (hpt : p.point = .postCredit deposit result)
    (hpost : postEntry s.store.ledger
      (depositEntry p.depositId deposit.userId result.observedLamports) = .ok ledger) :
    Leaves sol s r
      { s.store with ledger, creditedFrom := s.store.creditedFrom.upd p.depositId p.signature }
      (some { p with point := .markConfirmed deposit result }) := by
  have hknows := (hs.2.1 r p hp).2
  rw [hpt] at hknows
  obtain ⟨hread, rfl, hok, -, hfresh⟩ := hknows
  refine hs.goes hp (by simp [hpt]) (hs.1.post hread hok hfresh hpost) rfl
    ⟨hread, Table.get_upd_same _ _ _⟩ (fun hv => hv.elim) (fun _ _ => rfl)
    (fun _ hne => Table.get_upd_other hne) fun r' hne q hq hv hd => ?_
  rw [Table.get_upd_same] at hd
  have e := hs.2.2 r r' p q hne.symm hp hq (by simp [Confirm.Verified, hpt]) hv (Option.some.inj hd)
  have hqp : q.point ≠ .acquireLock := by
    intro h
    simp [Confirm.Verified, h] at hv
  exact absurd e.symm ((hs.2.1 r p hp).ne (hs.2.1 r' q hq) hne.symm (by simp [hpt]) hqp)

/-- **A step leaves the books in order**, when it verifies what its condition lets it. -/
theorem Confirm.Outcome.leaves {a : Answer} {s' : Store} {p' : Option Confirm}
    (h : p.Outcome sol r s.store a s' p') (hs : InOrder sol s) (hp : s.procs.get r = some p)
    (hg : FreshSignature sol s (.resume r a)) : Leaves sol s r s' p' := by
  have hknows := (hs.2.1 r p hp).2
  cases h with
  | ended => exact ⟨hs.1, by rintro _ ⟨⟩, fun r' _ q hq => hs.2.1 r' q hq⟩
  | locked hpt hfree => exact hs.locked hfree
  | unlocked hmine => exact hs.unlocked hmine
  | released hpt => exact hs.goes_quiet hp hpt trivial fun hv => hv.elim
  | found hpt hrow hst =>
      exact hs.goes_quiet hp (by simp [hpt]) ⟨_, hrow, hst, rfl, rfl⟩ fun hv => hv.elim
  | fresh hpt =>
      rw [hpt] at hknows
      exact hs.goes_quiet hp (by simp [hpt]) hknows fun hv => hv.elim
  | verified hpt hok =>
      rw [hpt] at hknows
      obtain ⟨hsame, hfresh⟩ := hg p _ hp hpt
      obtain ⟨hcredits, hruns⟩ := hfresh hok
      exact hs.goes_quiet hp (by simp [hpt]) ⟨hknows, rfl, hok, hsame, hcredits⟩
        fun _ r' _ q hq _ hv e => (hruns r' q hq hv e.symm).symm
  | refused hpt hok =>
      rw [hpt] at hknows
      obtain ⟨hsame, -⟩ := hg p _ hp hpt
      exact hs.goes_quiet hp (by simp [hpt]) ⟨hs.1.refused hknows hok hsame, _, hknows⟩
        fun hv => hv.elim
  | failed hpt =>
      rw [hpt] at hknows
      obtain ⟨hnone, deposit, hread⟩ := hknows
      obtain ⟨hlocks, hcredits, hdeposits⟩ := s.store.markFailed_frame p.depositId _
      exact hs.goes hp (by simp [hpt]) (hs.1.markFailed hnone hread _) hlocks trivial
        (fun hv => hv.elim) hdeposits (fun _ _ => by rw [hcredits]) fun _ _ _ _ _ => by
          rw [hcredits]; exact id
  | noSystem hpt =>
      exact hs.goes hp (by simp [hpt]) (hs.1.custody _) rfl trivial (fun hv => hv.elim)
        (fun _ _ => rfl) (fun _ _ => rfl) fun _ _ _ _ _ => id
  | custody hpt hsys =>
      rw [hpt] at hknows
      refine hs.goes hp (by simp [hpt]) (hs.1.custody _) rfl hknows ?_ (fun _ _ => rfl)
        (fun _ _ => rfl) fun _ _ _ _ _ => id
      exact fun _ r' hne q hq hv =>
        hs.2.2 r r' p q hne.symm hp hq (by simp [Confirm.Verified, hpt])
  | posted hpt hpost => exact hs.posted hp hpt hpost
  | already hpt hpost =>
      rw [hpt] at hknows
      obtain ⟨hread, -, -, hsame, -⟩ := hknows
      exact hs.goes_quiet hp (by simp [hpt]) ⟨hread, hs.1.already hpost hsame⟩ fun hv => hv.elim
  | confirmed hpt hmark =>
      rw [hpt] at hknows
      obtain ⟨hread, hd⟩ := hknows
      obtain ⟨hbooked, hlocks, hcredits, hdeposits⟩ := hs.1.confirm hread hd hmark
      exact hs.goes hp (by simp [hpt]) hbooked hlocks trivial (fun hv => hv.elim) hdeposits
        (fun _ _ => by rw [hcredits]) fun _ _ _ _ _ => by rw [hcredits]; exact id

/-- A call that knows something of its deposit has read its row. -/
theorem Store.Knows.reads {s : Store} {d : ℕ} {signature : Signature} {point : ConfirmPoint}
    (h : s.Knows sol d signature point) :
    (∃ deposit, s.Reads d deposit) ∨ ∀ s' : Store, s'.Knows sol d signature point := by
  cases point with
  | acquireLock => exact .inr fun _ => trivial
  | findDeposit => exact .inr fun _ => trivial
  | release => exact .inr fun _ => trivial
  | markFailed => exact .inl h.2
  | findSignature => exact .inl ⟨_, h⟩
  | getTransaction => exact .inl ⟨_, h⟩
  | findCustody => exact .inl ⟨_, h.1⟩
  | postCredit => exact .inl ⟨_, h.1⟩
  | markConfirmed => exact .inl ⟨_, h.1⟩

/-- A deposit with no row was not credited. -/
theorem Store.Booked.no_row {s : Store} (h : s.Booked sol) {d : ℕ}
    (hrow : s.deposits.get d = none) : s.creditedFrom.get d = none := by
  cases hd : s.creditedFrom.get d with
  | none => rfl
  | some from' =>
      obtain ⟨_, _, _, hrow', -⟩ := h.posted d from' hd
      exact nomatch hrow.symm.trans hrow'

theorem outside_inOrder {e : Outside} {s' : Store} (hs : InOrder sol s)
    (hg : FreshSignature sol s (.other e)) (h : outside s.store e = some s') :
    s'.Booked sol ∧ s.procs.All (Confirm.Asserts sol s') := by
  obtain ⟨hI, hP, -⟩ := hs
  cases e with
  | create d userId wallet amount =>
      simp only [outside, Option.ite_none_right_eq_some, Option.some.injEq,
        Option.isNone_iff_eq_none] at h
      obtain ⟨⟨-, hnone⟩, rfl⟩ := h
      refine ⟨hI.upd_row (hI.no_row hnone) rfl, fun r q hq => ?_⟩
      by_cases e : q.depositId = d
      · -- `q` has not read a row that was not there
        refine ⟨(hP r q hq).1, ?_⟩
        rcases (hP r q hq).2.reads with ⟨_, row, hrow, -⟩ | hany
        · rw [e, hnone] at hrow
          cases hrow
        · exact hany _
      · exact (hP r q hq).frame (fun _ => ⟨rfl, Table.get_upd_other e, rfl⟩) fun _ _ => id
  | expire d =>
      obtain ⟨hcredit, hnone⟩ := hg
      simp only [outside] at h
      split at h
      · cases h
      · next row hrow =>
          simp only [Option.ite_none_right_eq_some, Option.some.injEq] at h
          obtain ⟨⟨-, hsig⟩, rfl⟩ := h
          refine ⟨hI.upd_row hcredit hsig, fun r q hq => (hP r q hq).frame (fun hqp => ?_)
            fun _ _ => id⟩
          exact ⟨rfl, Table.get_upd_other (hnone r q hq hqp), rfl⟩
  | lockExpired d =>
      simp only [outside] at h
      split at h
      · cases h
      · next holder hholder =>
          obtain rfl := Option.some.inj h
          refine ⟨hI.locks _, fun r q hq => (hP r q hq).frame (fun hqp => ?_) fun _ _ => id⟩
          -- the holder of an expired lock is not running
          have hne : q.depositId ≠ d := by
            intro e
            have hmine := (hP r q hq).1 hqp
            rw [e, hholder] at hmine
            rw [← Option.some.inj hmine, hg holder hholder] at hq
            cases hq
          exact ⟨Table.get_del_other hne, rfl, rfl⟩
  | account name balance reserved version =>
      obtain rfl := Option.some.inj h
      exact ⟨hI.account rfl, fun r q hq => (hP r q hq).frame (fun _ => ⟨rfl, rfl, rfl⟩)
        fun _ _ => id⟩

theorem confirms_keeps (sol : Solana) : (confirms sol).Keeps (FreshSignature sol)
    (Store.Booked sol) (Confirm.Asserts sol) Confirm.Apart where
  symm p q h hq hp e := (h hp hq e.symm).symm
  start s r p hs hg hstarts := by
    have hpt : p.point = .acquireLock := by
      cases hpt : p.point <;> simp [confirms, hpt] at hstarts
      rfl
    refine ⟨⟨fun hne => absurd hpt hne, by rw [hpt]; trivial⟩, fun q hp => ?_⟩
    simp [Confirm.Verified, hpt] at hp
  resume s r p c hs hp hg := (p.resume_outcome sol r s.store c).leaves hs hp hg
  other s e store hs hg h := outside_inOrder hs hg h

end Calls

end SnakeArena.Gateway
