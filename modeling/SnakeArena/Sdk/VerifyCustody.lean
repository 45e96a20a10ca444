import SnakeArena.Program.Calls
import SnakeArena.Program.Transaction

/-!
# Sdk — verifying a deposit

`verifyDeposit` reads a confirmed transaction as the RPC node reports it, and takes what the
pool gained for the deposit of a wallet that signed.

`Reports` says what the report has to do with the chain: the balances of the transaction's
accounts before and after it.  The pool gains from other accounts too, so what the check lets
through is a deposit exactly when the rest of the transaction brings the pool nothing.

A public key is compared as itself where the source compares its base58 text, which differs
for different keys; the text matters in the log lines alone.
-/

namespace SnakeArena.Sdk
open SnakeArena.Library SnakeArena.Program

/-! ### The report of a transaction -/

structure ParsedAccountKey where
  pubkey : Pubkey
  signer : Bool

structure ParsedInnerInstruction where
  /-- The `programId` of each instruction. -/
  instructions : List Pubkey

structure ParsedTransactionMeta where
  /-- A `TransactionError`, when the transaction failed. -/
  err : Option String
  preBalances : List ℕ
  postBalances : List ℕ
  innerInstructions : Option (List ParsedInnerInstruction)
  logMessages : Option (List String)

structure ParsedTransactionWithMeta where
  slot : ℕ
  blockTime : Option ℤ
  txMeta : Option ParsedTransactionMeta
  /-- `transaction.message`. -/
  accountKeys : List ParsedAccountKey
  /-- The `programId` of each top-level instruction. -/
  instructions : List Pubkey

/-! ### parse.ts -/

/-- `changes.set(key, delta)`, unless nothing moved. -/
def setChange (changes : Pubkey → Option ℤ) (key : Pubkey) (delta : ℤ) : Pubkey → Option ℤ :=
  if delta ≠ 0 then Function.update changes key (some delta) else changes

/-- Net lamport movement per account, from the balances before and after.  The later of two
entries with one key replaces the earlier, as in a `Map`. -/
def parseBalanceChanges (transaction : ParsedTransactionWithMeta) : Pubkey → Option ℤ :=
  match transaction.txMeta with
  | none => fun _ => none
  | some m =>
      transaction.accountKeys.zipIdx.foldl (fun changes k =>
        let pre : ℤ := (m.preBalances[k.2]?.getD 0 : ℕ)
        let post : ℤ := (m.postBalances[k.2]?.getD 0 : ℕ)
        setChange changes k.1.pubkey (post - pre)) fun _ => none

/-! ### verify-custody.ts -/

inductive VerificationFailure where
  | notFound | transactionFailed | programNotInvoked | signerMismatch | amountMismatch
  | wrongDirection
deriving DecidableEq

structure VerificationResult where
  ok : Bool
  failure : Option VerificationFailure
  /-- Lamports actually moved, derived from pre/post balances. -/
  observedLamports : ℤ
  slot : ℕ
  blockTime : Option ℤ

def failure (reason : VerificationFailure) : VerificationResult :=
  ⟨false, some reason, 0, 0, none⟩

/-- The transaction invoked `programId` at any nesting depth. -/
def invokedProgram (toBase58 : Pubkey → String) (transaction : ParsedTransactionWithMeta)
    (programId : Pubkey) : Bool :=
  transaction.instructions.any (· = programId) ||
  ((transaction.txMeta.bind (·.innerInstructions)).getD []).any (fun inner =>
    inner.instructions.any (· = programId)) ||
  ((transaction.txMeta.bind (·.logMessages)).getD []).any fun line =>
    line.startsWith ("Program " ++ toBase58 programId ++ " invoke")

/-- `wallet` signed the transaction. -/
def isSigner (transaction : ParsedTransactionWithMeta) (wallet : Pubkey) : Bool :=
  transaction.accountKeys.any fun key => key.signer && key.pubkey = wallet

structure VerifyDepositParams where
  transaction : ParsedTransactionWithMeta
  programId : Pubkey
  /-- Shared custody vault. -/
  pool : Pubkey
  /-- Wallet the deposit is being credited to. -/
  depositor : Pubkey
  /-- Minimum the pool must have gained for this to count. -/
  expectedLamports : ℤ

/-- Confirms a deposit really happened, and for the claimed wallet. -/
def verifyDeposit (toBase58 : Pubkey → String) (params : VerifyDepositParams) :
    VerificationResult :=
  let transaction := params.transaction
  if (transaction.txMeta.bind (·.err)).isSome then failure .transactionFailed
  else if ¬ invokedProgram toBase58 transaction params.programId then failure .programNotInvoked
  else if ¬ isSigner transaction params.depositor then failure .signerMismatch
  else
    let credited := (parseBalanceChanges transaction params.pool).getD 0
    if credited ≤ 0 then
      ⟨false, some .wrongDirection, credited, transaction.slot, transaction.blockTime⟩
    else if credited < params.expectedLamports then
      ⟨false, some .amountMismatch, credited, transaction.slot, transaction.blockTime⟩
    else ⟨true, none, credited, transaction.slot, transaction.blockTime⟩

/-! ### What the report says -/

/-- The node reports the legs `legs` executed from `s` to `s'`: of each account of the
transaction, the lamports before and after it, and only keys that can sign as signers. -/
structure Reports (rt : Runtime) (now : ℤ) (s : State) (legs : List Leg) (s' : State)
    (transaction : ParsedTransactionWithMeta) : Prop where
  executed : ∀ m, transaction.txMeta = some m → m.err = none → execLegs rt now s legs = .ok s'
  pre : ∀ m, transaction.txMeta = some m →
    m.preBalances = transaction.accountKeys.map fun k => s.lamports k.pubkey
  post : ∀ m, transaction.txMeta = some m →
    m.postBalances = transaction.accountKeys.map fun k => s'.lamports k.pubkey
  signers : ∀ k ∈ transaction.accountKeys, k.signer = true → k.pubkey.CanSign

/-- Setting every key to its `g`. -/
theorem foldl_setChange (g : Pubkey → ℤ) (a : Pubkey) (keys : List ParsedAccountKey) :
    ∀ changes, keys.foldl (fun changes k => setChange changes k.pubkey (g k.pubkey)) changes a
      = if a ∈ keys.map (·.pubkey) ∧ g a ≠ 0 then some (g a) else changes a := by
  induction keys with
  | nil => simp
  | cons k keys ih =>
      intro changes
      rw [List.foldl_cons, ih, setChange]
      by_cases e : a = k.pubkey
      · subst e
        by_cases hg : g k.pubkey = 0 <;> simp [hg]
      · by_cases hg : g k.pubkey = 0 <;> simp [hg, e]

section Verify
variable {rt : Runtime} {now : ℤ} {s s' : State} {legs : List Leg}
  {transaction : ParsedTransactionWithMeta}

/-- The balance changes are the changes on the chain of the accounts that are listed. -/
theorem Reports.changes (h : Reports rt now s legs s' transaction) {m : ParsedTransactionMeta}
    (hm : transaction.txMeta = some m) (a : Pubkey) :
    parseBalanceChanges transaction a
      = if a ∈ transaction.accountKeys.map (·.pubkey) ∧ (s'.lamports a : ℤ) - s.lamports a ≠ 0
        then some ((s'.lamports a : ℤ) - s.lamports a) else none := by
  have hdelta : ∀ changes, ∀ k ∈ transaction.accountKeys.zipIdx,
      setChange changes k.1.pubkey
        (((m.postBalances[k.2]?.getD 0 : ℕ) : ℤ) - (m.preBalances[k.2]?.getD 0 : ℕ))
      = setChange changes k.1.pubkey
        ((s'.lamports k.1.pubkey : ℤ) - s.lamports k.1.pubkey) := by
    rintro changes ⟨k, i⟩ hk
    have hk := List.mem_zipIdx_iff_getElem?.mp hk
    simp [h.pre m hm, h.post m hm, hk]
  have hkeys := foldl_setChange (fun a => (s'.lamports a : ℤ) - s.lamports a) a
    transaction.accountKeys fun _ => none
  rw [← List.zipIdx_map_fst 0 transaction.accountKeys, List.foldl_map] at hkeys
  rw [parseBalanceChanges, hm]
  dsimp only
  rw [List.foldl_ext _ _ _ hdelta, hkeys, List.zipIdx_map_fst]

/-- The balance change of an account of the transaction is its change on the chain. -/
theorem Reports.balanceChange (h : Reports rt now s legs s' transaction) {a : Pubkey} {n : ℤ}
    (hn : parseBalanceChanges transaction a = some n) :
    n = (s'.lamports a : ℤ) - s.lamports a := by
  cases hm : transaction.txMeta with
  | none => simp [parseBalanceChanges, hm] at hn
  | some m =>
      rw [h.changes hm] at hn
      split at hn
      · exact (Option.some.inj hn).symm
      · cases hn

/-- What the check lets through is what it read of the pool, more than nothing and no less than
asked for, of a transaction that did not fail and that the depositor signed. -/
theorem verifyDeposit_ok {toBase58 : Pubkey → String} {params : VerifyDepositParams}
    (hok : (verifyDeposit toBase58 params).ok = true) :
    (params.transaction.txMeta.bind (·.err)).isSome = false ∧
      isSigner params.transaction params.depositor = true ∧
      ∃ n, parseBalanceChanges params.transaction params.pool = some n ∧ 0 < n ∧
        params.expectedLamports ≤ n ∧ (verifyDeposit toBase58 params).observedLamports = n := by
  simp only [verifyDeposit, failure] at hok ⊢
  split_ifs at hok ⊢ with h₁ h₂ h₃ h₄ h₅
  rw [not_le] at h₄
  cases hn : parseBalanceChanges params.transaction params.pool with
  | none => simp [hn] at h₄
  | some n =>
      simp only [hn, Option.getD_some] at h₄ h₅ ⊢
      exact ⟨by simpa using h₁, by simpa using h₃, n, rfl, h₄, not_lt.mp h₅, rfl⟩

/-- **A verified deposit is a deposit, when** the transaction brings the pool nothing beyond
what it books on the depositor's account: the other accounts' deposits, refunds and winnings,
and what reaches the pool on nobody's account, make up no more than the other accounts'
withdrawals and entry fees. -/
theorem verified_deposit {toBase58 : Pubkey → String} {params : VerifyDepositParams}
    (h : Reports rt now s legs s' params.transaction)
    (hok : (verifyDeposit toBase58 params).ok = true) :
    s.balanceOf params.depositor + (verifyDeposit toBase58 params).observedLamports
        ≤ s'.balanceOf params.depositor ↔
      sumLegs rt now (Leg.beyond params.pool params.depositor) s legs ≤ 0 := by
  obtain ⟨hnofail, -, n, hn, -, -, hobserved⟩ := verifyDeposit_ok hok
  have hexec : execLegs rt now s legs = .ok s' := by
    cases hm : params.transaction.txMeta with
    | none => simp [parseBalanceChanges, hm] at hn
    | some m => exact h.executed m hm (by simpa [hm] using hnofail)
  have hgain := h.balanceChange hn
  have hbeyond := execLegs_beyond hexec params.pool params.depositor
  rw [hobserved]
  omega

end Verify

/-- The report of a transaction that calls the program and touches `keys`. -/
def report (programId : Pubkey) (keys : List ParsedAccountKey) (s s' : State) :
    ParsedTransactionWithMeta :=
  ⟨0, none, some ⟨none, keys.map fun k => s.lamports k.pubkey,
    keys.map fun k => s'.lamports k.pubkey, none, none⟩, keys, [programId]⟩

theorem report_reports {rt : Runtime} {now : ℤ} {s s' : State} {legs : List Leg}
    (h : execLegs rt now s legs = .ok s') (programId : Pubkey) {keys : List ParsedAccountKey}
    (hk : ∀ k ∈ keys, k.signer = true → k.pubkey.CanSign) :
    Reports rt now s legs s' (report programId keys s s') where
  executed _ _ _ := h
  pre m hm := by cases hm; rfl
  post m hm := by cases hm; rfl
  signers := hk

/-- What the check says of it, for the arena's pool. -/
def verifyReport (depositor : Pubkey) (expected : ℤ) (keys : List ParsedAccountKey)
    (s s' : State) : VerificationResult :=
  verifyDeposit (fun _ => "4y2eaLGzqmfFrMTAhVzruQ4BeuHsBZCdAR52FBFkJ9hc")
    ⟨report (.key 8) keys s s', .key 8, .pool, depositor, expected⟩

/-- A deposit signed by its depositor. -/
theorem verified_deposit_own : ∃ s s' : State,
    execLegs .validator 1 s [.arena (Call.deposit (.key 4) 1000000)] = .ok s' ∧
    s.balanceOf (.key 4) + 1000000 ≤ s'.balanceOf (.key 4) := by
  let keys : List ParsedAccountKey := [⟨.key 4, true⟩, ⟨.pool, false⟩]
  have run : (execAll .validator .funded
      [(0, Call.initializeProgram (.key 1) (.key 2) (.key 3) 500 50)]).passes (fun s =>
      (execLegs .validator 1 s [.arena (Call.deposit (.key 4) 1000000)]).passes fun s' =>
        (verifyReport (.key 4) 1000000 keys s s').ok &&
        decide ((verifyReport (.key 4) 1000000 keys s s').observedLamports = 1000000) &&
        decide (sumLegs .validator 1 (Leg.beyond .pool (.key 4)) s
          [.arena (Call.deposit (.key 4) 1000000)] ≤ 0)) = true := by
    decide +kernel
  obtain ⟨s, hs, run⟩ := Result.passes_iff.mp run
  obtain ⟨s', hs', htest⟩ := Result.passes_iff.mp run
  simp only [Bool.and_eq_true, decide_eq_true_iff] at htest
  obtain ⟨⟨hok, hobserved⟩, hbeyond⟩ := htest
  have hsound := (verified_deposit (report_reports hs' (.key 8) (by decide)) hok).mpr hbeyond
  exact ⟨s, s', hs', hobserved ▸ hsound⟩

/-- A player deposited, locked an entry fee and had the room cancelled; another wallet cranks
the refund, and the check takes the refund for that wallet's deposit. -/
theorem verified_deposit_cranked_refund : ¬ ∀ (toBase58 : Pubkey → String) (rt : Runtime) (now : ℤ)
    (s s' : State) (legs : List Leg) (params : VerifyDepositParams), Reached rt s →
    Reports rt now s legs s' params.transaction → (verifyDeposit toBase58 params).ok = true →
    s.balanceOf params.depositor + (verifyDeposit toBase58 params).observedLamports
      ≤ s'.balanceOf params.depositor := by
  intro hclaim
  let keys : List ParsedAccountKey :=
    [⟨.key 5, true⟩, ⟨.pool, false⟩, ⟨.roomVault (.ofByte 7), false⟩, ⟨.key 4, false⟩]
  have run : (execAll .validator .funded
      [(0, Call.initializeProgram (.key 1) (.key 2) (.key 3) 500 50),
        (1, Call.deposit (.key 4) 5000000),
        (2, Call.createRoom (.key 2) (.ofByte 7) 1000000 4),
        (3, Call.joinRoom (.key 4) (.ofByte 7)), (4, Call.lockEntryFee (.key 4) (.ofByte 7)),
        (5, Call.cancelRoom (.key 2) (.ofByte 7))]).passes (fun s =>
      (execLegs .validator 6 s
        [.arena (Call.claimRefund (.key 4) (.key 5) (.ofByte 7))]).passes fun s' =>
        (verifyReport (.key 5) 1000000 keys s s').ok &&
        decide (s'.balanceOf (.key 5) < s.balanceOf (.key 5) +
          (verifyReport (.key 5) 1000000 keys s s').observedLamports)) = true := by
    decide +kernel
  obtain ⟨s, hs, run⟩ := Result.passes_iff.mp run
  obtain ⟨s', hs', htest⟩ := Result.passes_iff.mp run
  simp only [Bool.and_eq_true, decide_eq_true_iff] at htest
  exact absurd (hclaim _ _ _ s s' _ ⟨report (.key 8) keys s s', .key 8, .pool, .key 5, 1000000⟩
    (reached_of_execAll hs) (report_reports hs' _ (by decide)) htest.1) (not_le.mpr htest.2)

end SnakeArena.Sdk
