import SnakeArena.Program.Utils

/-!
# Program — setup and administration (`instructions/admin.rs`)

A handler takes the accounts as the caller passes them, tests the constraints of its
`#[derive(Accounts)]` struct in the order of its fields, and then runs its body.
-/

namespace SnakeArena.Program

/-! ### initialize -/

structure Initialize where
  config : AccountInfo
  pool : AccountInfo
  treasury : AccountInfo
  admin : AccountInfo
  systemProgram : AccountInfo

/-- One-time setup: creates the config and funds the pool and treasury vaults to rent
exemption. -/
def initializeProgram (rt : Runtime) (accs : Initialize)
    (settlementAuthority feeDestination : Pubkey)
    (feeBps withdrawalFeeBps : ℕ) (s : State) : Result Tx := do
  let t ← initAccount rt (.start s) accs.admin accs.config .config configSpace
  mutable accs.pool
  seeds accs.pool .pool
  mutable accs.treasury
  seeds accs.treasury .treasury
  mutable accs.admin
  signer accs.admin
  system accs.systemProgram
  require (feeBps ≤ maxFeeBps) (.arena .feeTooHigh)
  require (withdrawalFeeBps ≤ maxWithdrawalFeeBps) (.arena .feeTooHigh)
  let t ← fundRentExemption rt t accs.admin .pool
  let t ← fundRentExemption rt t accs.admin .treasury
  .ok (t.setConfig
    { admin := accs.admin.key
      pendingAdmin := none
      settlementAuthority
      treasury := accs.treasury.key
      feeDestination
      feeBps
      withdrawalFeeBps
      paused := false
      totalRooms := 0 })

/-! ### update_config -/

structure UpdateConfig where
  config : AccountInfo
  admin : AccountInfo

/-- The optional fee write. -/
def cappedBps (cap old : ℕ) : Option ℕ → Result ℕ
  | none => .ok old
  | some bps => do
      require (bps ≤ cap) (.arena .feeTooHigh)
      .ok bps

/-- Every field is optional, so a caller can change one without restating the rest. -/
def updateConfig (accs : UpdateConfig) (feeBps withdrawalFeeBps : Option ℕ)
    (settlementAuthority feeDestination : Option Pubkey) (paused : Option Bool) (s : State) :
    Result Tx := do
  let config ← loadConfig s accs.config.key
  mutable accs.config
  seeds accs.config .config
  require (config.admin = accs.admin.key) (.arena .unauthorizedAdmin)
  signer accs.admin
  let feeBps ← cappedBps maxFeeBps config.feeBps feeBps
  let withdrawalFeeBps ← cappedBps maxWithdrawalFeeBps config.withdrawalFeeBps withdrawalFeeBps
  .ok ((Tx.start s).setConfig
    { config with
      feeBps
      withdrawalFeeBps
      settlementAuthority := settlementAuthority.getD config.settlementAuthority
      feeDestination := feeDestination.getD config.feeDestination
      paused := paused.getD config.paused })

/-! ### transfer_admin / accept_admin -/

structure TransferAdmin where
  config : AccountInfo
  admin : AccountInfo

/-- Step one of a two-step handover. -/
def transferAdmin (accs : TransferAdmin) (newAdmin : Pubkey) (s : State) : Result Tx := do
  let config ← loadConfig s accs.config.key
  mutable accs.config
  seeds accs.config .config
  require (config.admin = accs.admin.key) (.arena .unauthorizedAdmin)
  signer accs.admin
  .ok ((Tx.start s).setConfig { config with pendingAdmin := some newAdmin })

structure AcceptAdmin where
  config : AccountInfo
  newAdmin : AccountInfo

/-- Completes the admin handover. -/
def acceptAdmin (accs : AcceptAdmin) (s : State) : Result Tx := do
  let config ← loadConfig s accs.config.key
  mutable accs.config
  seeds accs.config .config
  signer accs.newAdmin
  match config.pendingAdmin with
  | none => .error (.arena .noPendingAdmin)
  | some pending => do
      require (pending = accs.newAdmin.key) (.arena .notPendingAdmin)
      .ok ((Tx.start s).setConfig { config with admin := pending, pendingAdmin := none })

/-! ### withdraw_treasury -/

structure WithdrawTreasury where
  config : AccountInfo
  treasury : AccountInfo
  destination : AccountInfo
  admin : AccountInfo
  systemProgram : AccountInfo

/-- Moves accumulated rake out of the treasury vault. -/
def withdrawTreasury (rt : Runtime) (accs : WithdrawTreasury) (amount : ℕ) (s : State) :
    Result Tx := do
  let config ← loadConfig s accs.config.key
  seeds accs.config .config
  require (config.admin = accs.admin.key) (.arena .unauthorizedAdmin)
  mutable accs.treasury
  seeds accs.treasury .treasury
  require (accs.treasury.key = config.treasury) (.arena .treasuryMismatch)
  mutable accs.destination
  signer accs.admin
  system accs.systemProgram
  transferFromVault rt (.start s) .treasury accs.destination.key amount

/-! ### What each does when it succeeds -/

section Ok
variable {rt : Runtime} {s : State} {t : Tx}
open SnakeArena.Library

theorem cappedBps_eq_ok {cap old bps : ℕ} {new : Option ℕ} (h : cappedBps cap old new = .ok bps)
    (hold : old ≤ cap) : bps ≤ cap := by
  cases new with
  | none =>
      obtain rfl : old = bps := Except.ok.inj h
      exact hold
  | some n =>
      simp only [cappedBps, bind_eq_ok, require_eq_ok, Except.ok.injEq] at h
      obtain ⟨-, hn, rfl⟩ := h
      exact hn

/-- The config is written once, at rates under their caps, and the two vaults hold their rent
afterwards. -/
theorem initializeProgram_eq_ok {accs : Initialize} {sa fd : Pubkey} {fee wfee : ℕ}
    (h : initializeProgram rt accs sa fd fee wfee s = .ok t) :
    ∃ n a b l, s.config = none ∧ accs.admin.key.CanSign ∧
      fee ≤ maxFeeBps ∧ wfee ≤ maxWithdrawalFeeBps ∧
      Moved s.lamports ([⟨accs.admin.key, .config, n⟩] ++ payment accs.admin.key .pool a ++
        payment accs.admin.key .treasury b) l ∧
      rt.minimumBalance 0 ≤ l .pool ∧
      t = ⟨{ s with
              lamports := l
              config := some ⟨accs.admin.key, none, sa, .treasury, fd, fee, wfee, false, 0⟩ },
            [⟨accs.admin.key, .config, n⟩] ++ payment accs.admin.key .pool a ++
              payment accs.admin.key .treasury b, []⟩ := by
  simp only [initializeProgram, bind_eq_ok, mutable_eq_ok, seeds_eq_ok, signer_eq_ok, system_eq_ok,
    require_eq_ok, Except.ok.injEq] at h
  obtain ⟨t₁, h₁, -, -, -, -, -, -, -, htr, -, -, -, hsig, -, -, -, hfee, -, hw, t₂, h₂, t₃, h₃,
    rfl⟩ := h
  obtain ⟨-, hnone, l₁, m₁, rfl⟩ := initAccount_eq_ok h₁
  obtain ⟨l₂, m₂, rfl⟩ := fundRentExemption_eq_ok h₂
  obtain ⟨l₃, m₃, rfl⟩ := fundRentExemption_eq_ok h₃
  have hs : accs.admin.key.CanSign := accs.admin.signer_ok hsig
  have hp : accs.admin.key ≠ .pool := fun e => by rw [e] at hs; exact hs
  refine ⟨_, _, _, l₃, by simpa [Tx.start, State.account] using hnone, hs, hfee, hw,
    (m₁.append m₂).append m₃, ?_, by simp [Tx.setConfig, Tx.start, htr]⟩
  have e₂ := m₂.balance .pool
  have e₃ := m₃.balance .pool
  simp only [inflow_payment, outflow_payment, hp, ↓reduceIte, reduceCtorEq] at e₂ e₃
  omega

/-- The three writers of an existing config keep the treasury and the caps, and touch nothing
else. -/
theorem updateConfig_eq_ok {accs : UpdateConfig} {fee wfee : Option ℕ} {sa fd : Option Pubkey}
    {p : Option Bool} (h : updateConfig accs fee wfee sa fd p s = .ok t) :
    ∃ c c', s.config = some c ∧ c'.treasury = c.treasury ∧ c'.totalRooms = c.totalRooms ∧
      (c.feeBps ≤ maxFeeBps → c'.feeBps ≤ maxFeeBps) ∧
      (c.withdrawalFeeBps ≤ maxWithdrawalFeeBps →
        c'.withdrawalFeeBps ≤ maxWithdrawalFeeBps) ∧
      c.admin = accs.admin.key ∧ accs.admin.key.CanSign ∧
      t = ⟨{ s with config := some c' }, [], []⟩ := by
  simp only [updateConfig, bind_eq_ok, loadConfig_eq_ok, mutable_eq_ok, seeds_eq_ok,
    require_eq_ok, signer_eq_ok, Except.ok.injEq] at h
  obtain ⟨c, ⟨-, hc⟩, -, -, -, -, -, hadmin, -, hsig, f, hf, w, hw, rfl⟩ := h
  refine ⟨c, _, hc, ?_, ?_, ?_, ?_, hadmin, accs.admin.signer_ok hsig, rfl⟩
  · rfl
  · rfl
  · exact cappedBps_eq_ok hf
  · exact cappedBps_eq_ok hw

theorem transferAdmin_eq_ok {accs : TransferAdmin} {a : Pubkey}
    (h : transferAdmin accs a s = .ok t) :
    ∃ c, s.config = some c ∧
      t = ⟨{ s with config := some { c with pendingAdmin := some a } }, [], []⟩ := by
  simp only [transferAdmin, bind_eq_ok, loadConfig_eq_ok, mutable_eq_ok, seeds_eq_ok,
    require_eq_ok, signer_eq_ok, Except.ok.injEq] at h
  obtain ⟨c, ⟨-, hc⟩, -, -, -, -, -, -, -, -, rfl⟩ := h
  exact ⟨c, hc, rfl⟩

theorem acceptAdmin_eq_ok {accs : AcceptAdmin} (h : acceptAdmin accs s = .ok t) :
    ∃ c, s.config = some c ∧
      t = ⟨{ s with config := some { c with admin := accs.newAdmin.key, pendingAdmin := none } },
        [], []⟩ := by
  simp only [acceptAdmin, bind_eq_ok, loadConfig_eq_ok, mutable_eq_ok, seeds_eq_ok,
    signer_eq_ok] at h
  obtain ⟨c, ⟨-, hc⟩, -, -, -, -, -, -, h⟩ := h
  cases hp : c.pendingAdmin with
  | none => rw [hp] at h; cases h
  | some pending =>
      simp only [hp, bind_eq_ok, require_eq_ok, Except.ok.injEq] at h
      obtain ⟨-, rfl, rfl⟩ := h
      exact ⟨c, hc, rfl⟩

theorem withdrawTreasury_eq_ok {accs : WithdrawTreasury} {n : ℕ}
    (h : withdrawTreasury rt accs n s = .ok t) :
    ∃ l, Moved s.lamports (payment .treasury accs.destination.key n) l ∧
      t = ⟨{ s with lamports := l }, payment .treasury accs.destination.key n, []⟩ := by
  simp only [withdrawTreasury, bind_eq_ok, loadConfig_eq_ok, mutable_eq_ok, seeds_eq_ok,
    require_eq_ok, signer_eq_ok, system_eq_ok] at h
  obtain ⟨c, -, -, -, -, -, -, -, -, -, -, -, -, -, -, -, -, -, h⟩ := h
  obtain ⟨⟨l, hl, rfl⟩, -⟩ := transferFromVault_eq_ok h
  exact ⟨l, hl, rfl⟩

end Ok

end SnakeArena.Program
