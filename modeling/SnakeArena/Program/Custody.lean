import SnakeArena.Program.Utils

/-!
# Program — player custody (`instructions/custody.rs`)

All player funds sit in the pool vault; a `PlayerAccount` is a number against it.
-/

namespace SnakeArena.Program
open SnakeArena.Library

/-! ### deposit -/

structure Deposit where
  config : AccountInfo
  playerAccount : AccountInfo
  pool : AccountInfo
  player : AccountInfo
  systemProgram : AccountInfo

def deposit (rt : Runtime) (accs : Deposit) (amount : ℕ) (s : State) : Result Tx := do
  let config ← loadConfig s accs.config.key
  seeds accs.config .config
  require (config.paused = false) (.arena .programPaused)
  let (t, p) ← initPlayerIfNeeded rt (.start s) accs.player accs.playerAccount accs.player.key
  mutable accs.pool
  seeds accs.pool .pool
  mutable accs.player
  signer accs.player
  system accs.systemProgram
  require (amount ≥ minDepositLamports) (.arena .depositTooSmall)
  -- a zeroed owner means the account was created above
  let owner := if p.owner = .systemProgram then accs.player.key else p.owner
  require (owner = accs.player.key) (.arena .playerOwnerMismatch)
  let t ← transferToVault t accs.player accs.pool.key amount
  let balance ← add p.balance amount
  let totalDeposited ← add p.totalDeposited amount
  .ok (t.setPlayer accs.player.key { p with owner, balance, totalDeposited })

/-! ### withdraw -/

structure Withdraw where
  config : AccountInfo
  playerAccount : AccountInfo
  pool : AccountInfo
  treasury : AccountInfo
  player : AccountInfo
  systemProgram : AccountInfo

/-- Returns lamports to the player's wallet, less the withdrawal fee.  Not gated on
`paused`. -/
def withdraw (rt : Runtime) (accs : Withdraw) (amount : ℕ) (s : State) : Result Tx := do
  let config ← loadConfig s accs.config.key
  seeds accs.config .config
  let p ← loadPlayer s accs.playerAccount.key
  mutable accs.playerAccount
  seeds accs.playerAccount (.player accs.player.key)
  require (p.owner = accs.player.key) (.arena .playerOwnerMismatch)
  mutable accs.pool
  seeds accs.pool .pool
  mutable accs.treasury
  seeds accs.treasury .treasury
  require (accs.treasury.key = config.treasury) (.arena .treasuryMismatch)
  mutable accs.player
  signer accs.player
  system accs.systemProgram
  require (amount ≥ minWithdrawalLamports) (.arena .withdrawalTooSmall)
  let fee ← applyBps amount config.withdrawalFeeBps
  let net ← sub amount fee
  require (p.balance ≥ amount) (.arena .insufficientBalance)
  let balance ← sub p.balance amount
  let totalWithdrawn ← add p.totalWithdrawn amount
  let t := (Tx.start s).setPlayer accs.player.key { p with balance, totalWithdrawn }
  let t ← transferFromVault rt t accs.pool.key accs.player.key net
  transferFromVault rt t accs.pool.key accs.treasury.key fee

/-! ### What each does when it succeeds -/

section Ok
variable {rt : Runtime} {s : State} {t : Tx}

/-- The account of a first deposit is the zeroed one, paid for by the depositor. -/
theorem initPlayerIfNeeded_eq_ok {payer info : AccountInfo} {o : Pubkey} {p : PlayerAccount}
    (h : initPlayerIfNeeded rt (.start s) payer info o = .ok (t, p)) :
    ∃ ms l, (s.players.get o = some p ∨ s.players.get o = none ∧ p = .zeroed) ∧
      (∀ m ∈ ms, m.source = payer.key ∧ m.dest = .player o) ∧ Moved s.lamports ms l ∧
      t = ⟨{ s with lamports := l }, ms, []⟩ := by
  unfold initPlayerIfNeeded at h
  cases hp : s.players.get o with
  | some q =>
      simp only [Tx.start, hp, bind_eq_ok, seeds_eq_ok, mutable_eq_ok, Except.ok.injEq,
        Prod.mk.injEq] at h
      obtain ⟨-, -, -, -, rfl, rfl⟩ := h
      exact ⟨[], s.lamports, .inl rfl, by simp, .nil _, rfl⟩
  | none =>
      simp only [Tx.start, hp, bind_eq_ok, Except.ok.injEq, Prod.mk.injEq] at h
      obtain ⟨t₁, h₁, rfl, rfl⟩ := h
      obtain ⟨-, -, l, hl, rfl⟩ := initAccount_eq_ok h₁
      exact ⟨_, l, .inr ⟨rfl, rfl⟩, by simp, hl, rfl⟩

/-- A deposit raises the signer's balance by what it pays into the pool. -/
theorem deposit_eq_ok {accs : Deposit} {n : ℕ} (h : deposit rt accs n s = .ok t) :
    ∃ c p ms l, s.config = some c ∧ c.paused = false ∧ accs.player.key.CanSign ∧
      (s.players.get accs.player.key = some p ∨
        s.players.get accs.player.key = none ∧ p = .zeroed) ∧
      (∀ m ∈ ms, m.source = accs.player.key ∧ m.dest = .player accs.player.key) ∧
      Moved s.lamports (ms ++ [⟨accs.player.key, .pool, n⟩]) l ∧
      t = ⟨{ s with
              lamports := l
              players := s.players.upd accs.player.key
                { p with
                  owner := accs.player.key
                  balance := p.balance + n
                  totalDeposited := p.totalDeposited + n } },
            ms ++ [⟨accs.player.key, .pool, n⟩], []⟩ := by
  simp only [deposit, bind_eq_ok, loadConfig_eq_ok, seeds_eq_ok, require_eq_ok, mutable_eq_ok,
    signer_eq_ok, system_eq_ok, add_eq_ok, Prod.exists, Except.ok.injEq] at h
  obtain ⟨c, ⟨-, hc⟩, -, -, -, hpaused, t₁, p, h₁, -, -, -, hpool, -, -, -, hsig, -, -, -, -, -,
    howner, t₂, h₂, _, ⟨-, rfl⟩, _, ⟨-, rfl⟩, rfl⟩ := h
  obtain ⟨ms, l, hp, hms, hl, rfl⟩ := initPlayerIfNeeded_eq_ok h₁
  rw [hpool] at h₂
  obtain ⟨l', hl', rfl⟩ := transfer_eq_ok h₂
  exact ⟨c, p, ms, l', hc, hpaused, accs.player.signer_ok hsig, hp, hms, hl.append hl', by
    simp [Tx.setPlayer, howner]⟩

/-- A withdrawal takes the gross amount off the signer's balance and out of the pool, the fee
to the treasury and the rest to the signer's wallet. -/
theorem withdraw_eq_ok {accs : Withdraw} {n : ℕ} (h : withdraw rt accs n s = .ok t) :
    ∃ c p fee l, s.config = some c ∧ accs.player.key.CanSign ∧
      s.players.get accs.player.key = some p ∧ n ≤ p.balance ∧
      fee = n * c.withdrawalFeeBps / bpsDenominator ∧ fee ≤ n ∧
      Moved s.lamports
        (payment .pool accs.player.key (n - fee) ++ payment .pool .treasury fee) l ∧
      t = ⟨{ s with
              lamports := l
              players := s.players.upd accs.player.key
                { p with
                  balance := p.balance - n
                  totalWithdrawn := p.totalWithdrawn + n } },
            payment .pool accs.player.key (n - fee) ++ payment .pool .treasury fee, []⟩ := by
  simp only [withdraw, bind_eq_ok, loadConfig_eq_ok, loadPlayer_eq_ok, seeds_eq_ok,
    require_eq_ok, mutable_eq_ok, signer_eq_ok, system_eq_ok, add_eq_ok, sub_eq_ok] at h
  obtain ⟨c, ⟨-, hc⟩, -, -, p, ⟨o, ho, hp⟩, -, -, -, hkey, -, -, -, -, -, hpool, -, -, -, htr, -,
    -, -, -, -, hsig, -, -, -, -, fee, hfee, _, ⟨hle, rfl⟩, -, hbal, _, ⟨-, rfl⟩, _, ⟨-, rfl⟩,
    t₁, h₁, h₂⟩ := h
  obtain rfl : o = accs.player.key := Pubkey.player.inj (ho.symm.trans hkey)
  rw [hpool] at h₁ h₂
  rw [htr] at h₂
  obtain ⟨⟨l₁, m₁, rfl⟩, -⟩ := transferFromVault_eq_ok h₁
  obtain ⟨⟨l₂, m₂, rfl⟩, -⟩ := transferFromVault_eq_ok h₂
  exact ⟨c, p, fee, l₂, hc, accs.player.signer_ok hsig, hp, hbal, applyBps_eq_ok hfee, hle,
    m₁.append m₂, by simp [Tx.setPlayer, Tx.start]⟩

end Ok

end SnakeArena.Program
