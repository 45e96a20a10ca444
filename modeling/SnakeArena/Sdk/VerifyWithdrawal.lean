import SnakeArena.Sdk.VerifyCustody

/-!
# Sdk — verifying a withdrawal

`verifyWithdrawal` reads what left the pool and what the treasury gained in a transaction the
recipient signed.  An entry fee leaves the pool too, and anyone may pay the treasury, so two
net amounts do not make a withdrawal.

The report of `VerifyCustody` is asked for one thing more (`ListedReports`): a transaction
touches only the accounts it lists.  Then what the check lets through is a withdrawal exactly
when, apart from at most one withdrawal by the recipient, the transaction leaves the two vaults
alone (`RestStill`).
-/

namespace SnakeArena.Sdk
open SnakeArena.Library SnakeArena.Program

structure VerifyWithdrawalParams where
  transaction : ParsedTransactionWithMeta
  programId : Pubkey
  pool : Pubkey
  treasury : Pubkey
  /-- Wallet receiving the net payout. -/
  recipient : Pubkey
  /-- Gross amount debited from the custody balance. -/
  expectedGrossLamports : ℤ
  expectedFeeLamports : ℤ

structure WithdrawalVerificationResult extends VerificationResult where
  /-- Lamports that left the pool. -/
  debitedFromPool : ℤ
  feeToTreasury : ℤ

/-- Confirms a withdrawal drained the pool by the gross amount and paid the treasury the fee.
The recipient's own delta is not compared: the network fee comes out of the same account. -/
def verifyWithdrawal (toBase58 : Pubkey → String) (params : VerifyWithdrawalParams) :
    WithdrawalVerificationResult :=
  let transaction := params.transaction
  if (transaction.txMeta.bind (·.err)).isSome then ⟨failure .transactionFailed, 0, 0⟩
  else if ¬ invokedProgram toBase58 transaction params.programId then
    ⟨failure .programNotInvoked, 0, 0⟩
  else if ¬ isSigner transaction params.recipient then ⟨failure .signerMismatch, 0, 0⟩
  else
    let changes := parseBalanceChanges transaction
    let poolDelta := (changes params.pool).getD 0
    let treasuryDelta := (changes params.treasury).getD 0
    let debitedFromPool := if poolDelta < 0 then -poolDelta else 0
    let feeToTreasury := if treasuryDelta > 0 then treasuryDelta else 0
    let base (ok : Bool) (failure : Option VerificationFailure) : WithdrawalVerificationResult :=
      ⟨⟨ok, failure, debitedFromPool, transaction.slot, transaction.blockTime⟩,
        debitedFromPool, feeToTreasury⟩
    if poolDelta ≥ 0 then base false (some .wrongDirection)
    else if debitedFromPool ≠ params.expectedGrossLamports then base false (some .amountMismatch)
    else if feeToTreasury ≠ params.expectedFeeLamports then base false (some .amountMismatch)
    else base true none

/-! ### A withdrawal, and the rest of the transaction -/

/-- What came to `a` from one state to another. -/
def gained (a : Pubkey) (s t : State) : ℤ := (t.lamports a : ℤ) - s.lamports a

theorem gained_add (a : Pubkey) (s t u : State) : gained a s t + gained a t u = gained a s u := by
  unfold gained
  ring

/-- The transaction contains a withdrawal by `recipient` that lowers its custody balance by
`gross` and pays `fee` to the treasury. -/
def Withdraws (rt : Runtime) (now : ℤ) (s : State) (legs : List Leg) (recipient : Pubkey)
    (gross fee : ℤ) : Prop :=
  ∃ before accs amount after s₁ t, legs = before ++ .arena (.withdraw accs amount) :: after ∧
    execLegs rt now s before = .ok s₁ ∧ exec rt now s₁ (.withdraw accs amount) = .ok t ∧
    accs.player.key = recipient ∧
    t.state.balanceOf recipient = s₁.balanceOf recipient - gross ∧
    gained .treasury s₁ t.state = fee

/-- The leg is a withdrawal by `recipient`. -/
def WithdrawalBy (recipient : Pubkey) : Leg → Prop
  | .arena (.withdraw accs _) => accs.player.key = recipient
  | _ => False

theorem WithdrawalBy.eq {recipient : Pubkey} {leg : Leg} (h : WithdrawalBy recipient leg) :
    ∃ accs amount, leg = .arena (.withdraw accs amount) ∧ accs.player.key = recipient := by
  cases leg with
  | arena i =>
      cases i with
      | withdraw accs amount => exact ⟨accs, amount, rfl, h⟩
      | _ => exact h.elim
  | other ms => exact h.elim

/-- Apart from at most one withdrawal by `recipient`, the transaction from `s` to `s'` leaves the
pool and the treasury with what they had; where that withdrawal is free of a fee, the treasury
may have lost. -/
def RestStill (rt : Runtime) (now : ℤ) (s : State) (legs : List Leg) (s' : State)
    (recipient : Pubkey) : Prop :=
  ∃ before mid after s₁ s₂, legs = before ++ mid ++ after ∧ mid.length ≤ 1 ∧
    (∀ leg ∈ mid, WithdrawalBy recipient leg) ∧
    execLegs rt now s before = .ok s₁ ∧ execLegs rt now s₁ mid = .ok s₂ ∧
    execLegs rt now s₂ after = .ok s' ∧
    gained .pool s s₁ + gained .pool s₂ s' = 0 ∧
    (gained .treasury s s₁ + gained .treasury s₂ s' = 0 ∨
      gained .treasury s₁ s₂ = 0 ∧ gained .treasury s s₁ + gained .treasury s₂ s' < 0)

/-- A report of a transaction that touched only the accounts it lists. -/
structure ListedReports (rt : Runtime) (now : ℤ) (s : State) (legs : List Leg) (s' : State)
    (transaction : ParsedTransactionWithMeta) : Prop
    extends Reports rt now s legs s' transaction where
  listed : ∀ a, a ∉ transaction.accountKeys.map (·.pubkey) → s'.lamports a = s.lamports a

section Verify
variable {rt : Runtime} {now : ℤ} {s s' : State} {legs : List Leg}
  {transaction : ParsedTransactionWithMeta}

theorem execLegs_append {before after : List Leg} : ∀ {s : State},
    execLegs rt now s (before ++ after) = .ok s' ↔
      ∃ s₁, execLegs rt now s before = .ok s₁ ∧ execLegs rt now s₁ after = .ok s' := by
  induction before with
  | nil => simp [execLegs]
  | cons leg before ih =>
      intro s
      simp only [List.cons_append, execLegs, bind_eq_ok, ih]
      constructor
      · rintro ⟨t, ht, s₁, h₁, h₂⟩
        exact ⟨s₁, ⟨t, ht, h₁⟩, h₂⟩
      · rintro ⟨s₁, ⟨t, ht, h₁⟩, h₂⟩
        exact ⟨t, ht, s₁, h₁, h₂⟩

theorem execLegs_singleton {leg : Leg} :
    execLegs rt now s [leg] = .ok s' ↔ ∃ t, leg.exec rt now s = .ok t ∧ t.state = s' := by
  simp [execLegs, bind_eq_ok]

/-- A withdrawal takes the same amount from the pool and from the balance of its signer, and
nothing from the treasury. -/
theorem withdrawal_change {accs : Withdraw} {n : ℕ} {t : Program.Tx}
    (h : exec rt now s (.withdraw accs n) = .ok t) :
    gained .pool s t.state = -n ∧ 0 ≤ gained .treasury s t.state ∧
      t.state.balanceOf accs.player.key = s.balanceOf accs.player.key - n := by
  have hbal := (exec_effect h).balanceOf accs.player.key
  cases exec_effect h with
  | @withdraw _ _ _ _ fee l _ hsig _ _ _ hle hl =>
      have hpool := hl.balance .pool
      have htreasury := hl.balance .treasury
      simp only [outflow_append, inflow_append, outflow_payment, inflow_payment,
        hsig.ne (b := .pool) trivial, hsig.ne (b := .treasury) trivial, ↓reduceIte, reduceCtorEq]
        at hpool htreasury
      refine ⟨?_, ?_, ?_⟩
      · simp only [gained]
        omega
      · simp only [gained]
        omega
      · simpa [Instruction.credit, Instruction.entries, sub_eq_add_neg] using hbal
  | config _ _ _ _ hi => simp at hi

/-- With every account it touched listed, the balance changes are those of the chain. -/
theorem ListedReports.balanceChange_getD (h : ListedReports rt now s legs s' transaction)
    {m : ParsedTransactionMeta} (hm : transaction.txMeta = some m) (a : Pubkey) :
    (parseBalanceChanges transaction a).getD 0 = gained a s s' := by
  rw [h.toReports.changes hm, gained]
  split
  · rfl
  · next hnot =>
      by_cases ha : a ∈ transaction.accountKeys.map (·.pubkey)
      · have : (s'.lamports a : ℤ) - s.lamports a = 0 := not_not.mp fun hne => hnot ⟨ha, hne⟩
        rw [this]
        rfl
      · rw [h.listed a ha]
        simp

/-- What the check lets through: the pool lost the gross amount, and the treasury gained the fee
or, with no fee, nothing. -/
theorem verifyWithdrawal_ok {toBase58 : Pubkey → String} {params : VerifyWithdrawalParams}
    (hok : (verifyWithdrawal toBase58 params).ok = true) :
    (params.transaction.txMeta.bind (·.err)).isSome = false ∧
      (parseBalanceChanges params.transaction params.pool).getD 0 < 0 ∧
      (parseBalanceChanges params.transaction params.pool).getD 0 = -params.expectedGrossLamports ∧
      max ((parseBalanceChanges params.transaction params.treasury).getD 0) 0
        = params.expectedFeeLamports := by
  simp only [verifyWithdrawal, failure] at hok
  split_ifs at hok with h₁ h₂ h₃ h₄ h₅ h₆ h₇ h₈ <;>
  · rw [not_le] at h₄
    refine ⟨by simpa using h₁, h₄, ?_, ?_⟩ <;> omega

/-- **A verified withdrawal is a withdrawal, when** apart from at most one withdrawal by the
recipient the transaction leaves the pool and the treasury with what they had. -/
theorem verified_withdrawal {toBase58 : Pubkey → String} {programId recipient : Pubkey}
    {gross fee : ℤ} (h : ListedReports rt now s legs s' transaction)
    (hok : (verifyWithdrawal toBase58
      ⟨transaction, programId, .pool, .treasury, recipient, gross, fee⟩).ok = true) :
    Withdraws rt now s legs recipient gross fee ↔ RestStill rt now s legs s' recipient := by
  obtain ⟨hnofail, hneg, hgross, hfee⟩ := verifyWithdrawal_ok hok
  dsimp only at hnofail hneg hgross hfee
  obtain ⟨m, hm⟩ : ∃ m, transaction.txMeta = some m := by
    cases hm : transaction.txMeta with
    | none => simp [parseBalanceChanges, hm] at hneg
    | some m => exact ⟨m, rfl⟩
  have hexec : execLegs rt now s legs = .ok s' :=
    h.executed m hm (by simpa [hm] using hnofail)
  rw [h.balanceChange_getD hm] at hneg hgross hfee
  constructor
  · rintro ⟨before, accs, amount, after, s₁, t, rfl, hbefore, ht, rfl, hbalance, htreasury⟩
    obtain ⟨hpool, hnonneg, hown⟩ := withdrawal_change ht
    obtain ⟨s₁', hbefore', hrest⟩ := execLegs_append.mp hexec
    obtain rfl : s₁ = s₁' := Except.ok.inj (hbefore.symm.trans hbefore')
    simp only [execLegs, Leg.exec, bind_eq_ok, ht, Except.ok.injEq, exists_eq_left'] at hrest
    refine ⟨before, [.arena (.withdraw accs amount)], after, s₁, t.state, by simp, by simp,
      by simp [WithdrawalBy], hbefore, execLegs_singleton.mpr ⟨t, ht, rfl⟩, hrest, ?_, ?_⟩
    · have := gained_add .pool s s₁ t.state
      have := gained_add .pool s t.state s'
      omega
    · have := gained_add .treasury s s₁ t.state
      have := gained_add .treasury s t.state s'
      omega
  · rintro ⟨before, mid, after, s₁, s₂, rfl, hlen, hmid, hbefore, hs₂, hafter, hpool, htreasury⟩
    have htotal := gained_add .pool s s₁ s₂
    have htotal' := gained_add .pool s s₂ s'
    rcases mid with _ | ⟨leg, _ | ⟨leg', mid⟩⟩
    · -- nothing took the lamports out of the pool
      obtain rfl : s₁ = s₂ := Except.ok.inj hs₂
      omega
    · obtain ⟨t, ht, rfl⟩ := execLegs_singleton.mp hs₂
      obtain ⟨accs, amount, rfl, hby⟩ := (hmid leg (by simp)).eq
      obtain ⟨hout, hnonneg, hown⟩ := withdrawal_change ht
      have := gained_add .treasury s s₁ t.state
      have := gained_add .treasury s t.state s'
      refine ⟨before, accs, amount, after, s₁, t, by simp, hbefore, ht, hby, ?_, by omega⟩
      rw [← hby, hown]
      omega
    · simp at hlen

end Verify

/-- What the check says of the arena's vaults, for the transaction that touches `keys`. -/
def verifyWithdrawalReport (recipient : Pubkey) (gross fee : ℤ) (keys : List ParsedAccountKey)
    (s s' : State) : WithdrawalVerificationResult :=
  verifyWithdrawal (fun _ => "4y2eaLGzqmfFrMTAhVzruQ4BeuHsBZCdAR52FBFkJ9hc")
    ⟨report (.key 8) keys s s', .key 8, .pool, .treasury, recipient, gross, fee⟩

/-- A leg whose lamports all move between `keys` leaves the others with what they had. -/
theorem Leg.exec_listed {rt : Runtime} {now : ℤ} {s : State} {leg : Leg} {t : Program.Tx}
    (h : leg.exec rt now s = .ok t) {keys : List Pubkey}
    (hk : t.moves.all (fun m => decide (m.source ∈ keys ∧ m.dest ∈ keys)) = true) {a : Pubkey}
    (ha : a ∉ keys) : t.state.lamports a = s.lamports a := by
  simp only [List.all_eq_true, decide_eq_true_iff] at hk
  refine (Leg.exec_moved h).same (fun m hm e => ha ?_) fun m hm e => ha ?_
  · exact e ▸ (hk m hm).1
  · exact e ▸ (hk m hm).2

/-- A withdrawal signed by its recipient. -/
theorem verified_withdrawal_own : ∃ s s' : State,
    execLegs .validator 2 s [.arena (Call.withdraw (.key 4) 1000000)] = .ok s' ∧
    Withdraws .validator 2 s [.arena (Call.withdraw (.key 4) 1000000)] (.key 4) 1000000 5000 := by
  let keys : List ParsedAccountKey := [⟨.key 4, true⟩, ⟨.pool, false⟩, ⟨.treasury, false⟩]
  let leg : Leg := .arena (Call.withdraw (.key 4) 1000000)
  have run : (execAll .validator .funded
      [(0, Call.initializeProgram (.key 1) (.key 2) (.key 3) 500 50),
        (1, Call.deposit (.key 4) 5000000)]).passes (fun s =>
      (leg.exec .validator 2 s).passes fun t =>
        (verifyWithdrawalReport (.key 4) 1000000 5000 keys s t.state).ok &&
        t.moves.all fun m =>
          decide (m.source ∈ keys.map (·.pubkey) ∧ m.dest ∈ keys.map (·.pubkey))) = true := by
    decide
  obtain ⟨s, hs, run⟩ := Result.passes_iff.mp run
  obtain ⟨t, ht, htest⟩ := Result.passes_iff.mp run
  rw [Bool.and_eq_true] at htest
  have hlegs : execLegs .validator 2 s [leg] = .ok t.state :=
    execLegs_singleton.mpr ⟨t, ht, rfl⟩
  have hreports : ListedReports .validator 2 s [leg] t.state (report (.key 8) keys s t.state) :=
    ⟨report_reports hlegs (.key 8) (by decide), fun _ ha => Leg.exec_listed ht htest.2 ha⟩
  refine ⟨s, t.state, hlegs, (verified_withdrawal hreports htest.1).mpr ?_⟩
  exact ⟨[], [leg], [], s, t.state, rfl, by simp, by simp [leg, WithdrawalBy, Call.withdraw],
    rfl, hlegs, rfl, by simp [gained], .inl (by simp [gained])⟩

/-- A player locks an entry fee and pays the treasury what a withdrawal of the same amount would
cost: the check takes it for the withdrawal. -/
theorem verified_withdrawal_entry_fee : ¬ ∀ (toBase58 : Pubkey → String) (rt : Runtime) (now : ℤ)
    (s s' : State) (legs : List Leg) (transaction : ParsedTransactionWithMeta)
    (programId recipient : Pubkey) (gross fee : ℤ), Reached rt s → fee ≤ gross →
    ListedReports rt now s legs s' transaction →
    (verifyWithdrawal toBase58
      ⟨transaction, programId, .pool, .treasury, recipient, gross, fee⟩).ok = true →
    Withdraws rt now s legs recipient gross fee := by
  intro hclaim
  let keys : List ParsedAccountKey := [⟨.key 4, true⟩, ⟨.pool, false⟩,
    ⟨.roomVault (.ofByte 7), false⟩, ⟨.treasury, false⟩]
  let lock : Leg := .arena (Call.lockEntryFee (.key 4) (.ofByte 7))
  let pay : Leg := .other [⟨.key 4, .treasury, 5000⟩]
  have run : (execAll .validator .funded
      [(0, Call.initializeProgram (.key 1) (.key 2) (.key 3) 500 50),
        (1, Call.deposit (.key 4) 5000000),
        (2, Call.createRoom (.key 2) (.ofByte 7) 1000000 4),
        (3, Call.joinRoom (.key 4) (.ofByte 7))]).passes (fun s =>
      (lock.exec .validator 4 s).passes fun t => (pay.exec .validator 4 t.state).passes fun u =>
        (verifyWithdrawalReport (.key 4) 1000000 5000 keys s u.state).ok &&
        t.moves.all (fun m =>
          decide (m.source ∈ keys.map (·.pubkey) ∧ m.dest ∈ keys.map (·.pubkey))) &&
        u.moves.all fun m =>
          decide (m.source ∈ keys.map (·.pubkey) ∧ m.dest ∈ keys.map (·.pubkey))) = true := by
    decide
  obtain ⟨s, hs, run⟩ := Result.passes_iff.mp run
  obtain ⟨t, ht, run⟩ := Result.passes_iff.mp run
  obtain ⟨u, hu, htest⟩ := Result.passes_iff.mp run
  simp only [Bool.and_eq_true] at htest
  obtain ⟨⟨hok, ht'⟩, hu'⟩ := htest
  have hlegs : execLegs .validator 4 s ([lock] ++ [pay]) = .ok u.state :=
    execLegs_append.mpr ⟨t.state, execLegs_singleton.mpr ⟨t, ht, rfl⟩,
      execLegs_singleton.mpr ⟨u, hu, rfl⟩⟩
  have hlisted : ∀ a, a ∉ keys.map (·.pubkey) → u.state.lamports a = s.lamports a :=
    fun a ha => (Leg.exec_listed hu hu' ha).trans (Leg.exec_listed ht ht' ha)
  obtain ⟨before, accs, amount, after, _, _, hsplit, -⟩ := hclaim _ _ _ s u.state _ _ _ _
    1000000 5000 (reached_of_execAll hs) (by decide)
    ⟨report_reports hlegs (.key 8) (by decide), hlisted⟩ hok
  have hmem : Leg.arena (.withdraw accs amount) ∈ [lock] ++ [pay] := hsplit ▸ by simp
  simp [lock, pay, Call.lockEntryFee] at hmem

end SnakeArena.Sdk
