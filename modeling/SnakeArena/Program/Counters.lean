import SnakeArena.Program.Calls
import SnakeArena.Program.Transaction

/-!
# Program — the lifetime counters of an account

`PlayerAccount.surplus` is how far the balance of an account exceeds what its counters explain.
Every instruction that moves the balance moves a counter with it, `claim_refund` among them: it
lowers `total_wagered` by the stake it gives back.  But a stake that went in by `enter_room` was
never counted as wagered, and the subtraction saturates.  What it saturates by
(`Instruction.uncovered`) is the only change of the surplus (`Effect.surplus`), and it is never
negative; so the counters explain the balance exactly when no refund of the account was of more
than the account had wagered (`counters_explain`).

The counters are added to with checks and fail rather than overflow.
-/

namespace SnakeArena.Program
open SnakeArena.Library

/-- The balance is what the counters say. -/
def PlayerAccount.Explained (p : PlayerAccount) : Prop :=
  (p.balance : ℤ) = p.totalDeposited + p.totalWinnings - p.totalWithdrawn - p.totalWagered

instance (p : PlayerAccount) : Decidable p.Explained := by
  unfold PlayerAccount.Explained; infer_instance

def PlayerAccount.surplus (p : PlayerAccount) : ℤ :=
  p.balance - (p.totalDeposited + p.totalWinnings - p.totalWithdrawn - p.totalWagered)

theorem PlayerAccount.explained_iff {p : PlayerAccount} : p.Explained ↔ p.surplus = 0 := by
  unfold Explained surplus
  omega

/-- The surplus of the account of a wallet; one without an account has none. -/
def State.surplus (s : State) (o : Pubkey) : ℤ := (s.players.get o).elim 0 PlayerAccount.surplus

theorem State.surplus_some {s : State} {o : Pubkey} {p : PlayerAccount}
    (h : s.players.get o = some p) : s.surplus o = p.surplus := by
  rw [surplus, h, Option.elim_some]

/-- What a refund to `o` gives back beyond what the account of `o` has wagered. -/
def Instruction.uncovered (s : State) (o : Pubkey) : Instruction → ℕ
  | .claimRefund accs =>
      match s.roomPlayers.get (accs.room.key, accs.player.key), s.players.get accs.player.key with
      | some rp, some p => if accs.player.key = o then rp.lockedAmount - p.totalWagered else 0
      | _, _ => 0
  | _ => 0

/-! ### One instruction -/

/-- One account written. -/
theorem State.surplus_upd (s : State) (l : Pubkey → ℕ) (rooms : Table RoomId Room)
    (rps : Table (Pubkey × Pubkey) RoomPlayer) (c : Option Config) (k o : Pubkey)
    (p : PlayerAccount) :
    State.surplus ⟨l, c, s.players.upd k p, rooms, rps⟩ o
      = if k = o then p.surplus else s.surplus o := by
  by_cases e : k = o
  · subst e
    simp [State.surplus]
  · simp [State.surplus, Table.get_upd_other (Ne.symm e), e]

theorem Credited.surplus {room : Pubkey} {s s' : State} {ws : List (Pubkey × ℕ)}
    (h : Credited room s ws s') (o : Pubkey) : s'.surplus o = s.surplus o := by
  induction h with
  | nil => rfl
  | @cons s _ w n _ _ p _ _ _ _ hp _ _ ih =>
      rw [ih, State.surplus_upd]
      split
      · next e =>
          subst e
          rw [State.surplus_some hp]
          simp only [PlayerAccount.surplus, Nat.cast_add]
          omega
      · rfl

/-- An instruction changes a surplus by what it leaves uncovered. -/
theorem Effect.surplus {rt : Runtime} {now : ℤ} {s : State} {i : Instruction} {t : Tx}
    (h : Effect rt now s i t) (o : Pubkey) :
    t.state.surplus o = s.surplus o + i.uncovered s o := by
  -- one account written, whose surplus rises by `n`
  have one : ∀ {k : Pubkey} {p p' : PlayerAccount} {n : ℤ} {l c rooms rps},
      s.surplus k = p.surplus → p'.surplus = p.surplus + n →
      State.surplus ⟨l, c, s.players.upd k p', rooms, rps⟩ o
        = s.surplus o + if k = o then n else 0 := by
    intro k p p' n l c rooms rps hp hn
    rw [State.surplus_upd]
    split
    · next e => rw [← e, hp, hn]
    · rw [add_zero]
  cases h with
  | deposit _ _ _ hp =>
      refine (one (n := 0) (p := ?_) ?_ ?_).trans (by simp [Instruction.uncovered])
      · assumption
      · rcases hp with hp | ⟨hp, rfl⟩
        · exact State.surplus_some hp
        · simp [State.surplus, hp, PlayerAccount.zeroed, PlayerAccount.surplus]
      · simp only [PlayerAccount.surplus, Nat.cast_add]
        omega
  | withdraw _ _ hp hbal =>
      refine (one (n := 0) (State.surplus_some hp) ?_).trans (by simp [Instruction.uncovered])
      simp only [PlayerAccount.surplus]
      omega
  | joinRoom _ _ _ _ _ _ hp =>
      refine (one (n := 0) (State.surplus_some hp) ?_).trans (by simp [Instruction.uncovered])
      simp [PlayerAccount.surplus]
  | lockEntryFee _ _ _ _ _ _ hp _ _ hbal =>
      refine (one (n := 0) (State.surplus_some hp) ?_).trans (by simp [Instruction.uncovered])
      simp only [PlayerAccount.surplus]
      omega
  | @claimRefund _ r rp p _ _ hkey hrp hp =>
      refine (one (n := (rp.lockedAmount - p.totalWagered : ℕ)) (State.surplus_some hp) ?_).trans ?_
      · simp only [PlayerAccount.surplus]
        omega
      · simp [Instruction.uncovered, hkey, hrp, hp]
  | distributeWinnings _ _ _ _ _ _ _ _ _ hcr =>
      simp only [Instruction.uncovered, Nat.cast_zero, add_zero]
      exact hcr.surplus o
  | config _ _ _ _ hi =>
      rcases hi with ⟨_, _, _, _, _, _, rfl⟩ | ⟨_, _, rfl⟩ | ⟨_, rfl⟩ <;>
        simp [Instruction.uncovered, State.surplus]
  | _ => simp [Instruction.uncovered, State.surplus]

/-! ### The run -/

/-- Every refund to `o` in the run, at the state it was executed in, was of a stake the account
had wagered. -/
def RefundsCovered (rt : Runtime) (s₀ : State) (ls : List Event) (s : State) (o : Pubkey) : Prop :=
  ∀ before now accs after s₁ s₂, ls = before ++ .exec now (.claimRefund accs) :: after →
    Run (Step rt) s₀ before s₁ → Step rt s₁ (.exec now (.claimRefund accs)) s₂ →
    Run (Step rt) s₂ after s → accs.player.key = o →
    ∀ rp p, s₁.roomPlayers.get (accs.room.key, o) = some rp → s₁.players.get o = some p →
      rp.lockedAmount ≤ p.totalWagered

section Runs
variable {rt : Runtime} {s₀ s s' : State} {ls : List Event}

theorem Step.surplus_mono {l : Event} (h : Step rt s l s') (o : Pubkey) :
    s.surplus o ≤ s'.surplus o := by
  cases h with
  | exec h =>
      rw [(exec_effect h).surplus o]
      omega
  | outside => exact le_rfl

theorem Run.surplus_mono (h : Run (Step rt) s ls s') (o : Pubkey) :
    s.surplus o ≤ s'.surplus o := by
  induction h with
  | nil => exact le_rfl
  | cons hstep _ ih => exact (hstep.surplus_mono o).trans ih

theorem State.Genesis.surplus (h : s.Genesis) (o : Pubkey) : s.surplus o = 0 := by
  simp [State.surplus, h.2.1]

/-- A refund that was not covered leaves a surplus for good. -/
theorem surplus_pos (h₀ : s₀.Genesis) {before after : List Event} {now : ℤ} {accs : ClaimRefund}
    {s₁ s₂ : State} (hbefore : Run (Step rt) s₀ before s₁)
    (hstep : Step rt s₁ (.exec now (.claimRefund accs)) s₂) (hafter : Run (Step rt) s₂ after s)
    {rp : RoomPlayer} {p : PlayerAccount}
    (hrp : s₁.roomPlayers.get (accs.room.key, accs.player.key) = some rp)
    (hp : s₁.players.get accs.player.key = some p) (hlt : p.totalWagered < rp.lockedAmount) :
    0 < s.surplus accs.player.key := by
  have hsince := Run.surplus_mono hafter accs.player.key
  have hbefore := Run.surplus_mono hbefore accs.player.key
  rw [h₀.surplus] at hbefore
  cases hstep with
  | exec h =>
      have hchange := (exec_effect h).surplus accs.player.key
      simp only [Instruction.uncovered, hrp, hp, ↓reduceIte] at hchange
      omega

/-- Without one there is no surplus. -/
theorem surplus_zero (h₀ : s₀.Genesis) (hrun : Run (Step rt) s₀ ls s) {o : Pubkey}
    (h : RefundsCovered rt s₀ ls s o) : s.surplus o = 0 := by
  revert h
  refine hrun.history (I := fun ls s => RefundsCovered rt s₀ ls s o → s.surplus o = 0)
    (fun _ => h₀.surplus o) ?_
  intro ls s l s' hrun ih hstep h
  have hbefore : s.surplus o = 0 := by
    refine ih fun before now accs after s₁ s₂ e h₁ h₂ h₃ => ?_
    exact h before now accs (after ++ [l]) s₁ s₂ (by rw [e]; simp) h₁ h₂ (h₃.snoc hstep)
  cases hstep with
  | outside => exact hbefore
  | @exec now i t hexec =>
      rw [(exec_effect hexec).surplus o, hbefore, zero_add, Nat.cast_eq_zero]
      cases i with
      | claimRefund accs =>
          by_cases e : accs.player.key = o
          · have hcovered := h ls now accs [] s _ rfl hrun (.exec hexec) (.nil _) e
            simp only [Instruction.uncovered, e, ↓reduceIte]
            split
            · next rp p hrp hp => exact Nat.sub_eq_zero_of_le (hcovered rp p hrp hp)
            · rfl
          · simp only [Instruction.uncovered, e, ↓reduceIte]
            split <;> rfl
      | _ => rfl

/-- **The counters explain the balance** of an account exactly when every refund to it was of a
stake no larger than its `total_wagered` at the time. -/
theorem counters_explain (h₀ : s₀.Genesis) (hrun : Run (Step rt) s₀ ls s) {o : Pubkey}
    {p : PlayerAccount} (hp : s.players.get o = some p) :
    p.Explained ↔ RefundsCovered rt s₀ ls s o := by
  rw [PlayerAccount.explained_iff, ← State.surplus_some hp]
  constructor
  · rintro hzero before now accs after s₁ s₂ - h₁ h₂ h₃ rfl rp q hrp hq
    by_contra hlt
    have := surplus_pos h₀ h₁ h₂ h₃ hrp hq (not_le.mp hlt)
    omega
  · exact surplus_zero h₀ hrun

end Runs

/-- A stake locked from the balance, and refunded. -/
theorem counters_explain_locked : ∃ ls s p, Run (Step .validator) .funded ls s ∧
    s.players.get (.key 4) = some p ∧ p.balance = 5000000 ∧
    RefundsCovered .validator .funded ls s (.key 4) := by
  have run : (execAll .validator .funded
      [(0, Call.initializeProgram (.key 1) (.key 2) (.key 3) 500 50),
        (1, Call.createRoom (.key 2) (.ofByte 7) 1000000 4),
        (2, Call.deposit (.key 4) 5000000),
        (3, Call.joinRoom (.key 4) (.ofByte 7)),
        (4, Call.lockEntryFee (.key 4) (.ofByte 7)),
        (5, Call.cancelRoom (.key 2) (.ofByte 7)),
        (6, Call.claimRefund (.key 4) (.key 5) (.ofByte 7))]).passes (fun s =>
      (s.players.get (.key 4)).any fun p => decide (p.balance = 5000000 ∧ p.Explained)) = true := by
    decide
  obtain ⟨s, hs, htest⟩ := Result.passes_iff.mp run
  obtain ⟨p, hp, htest⟩ := (Option.any_eq_true _ _).mp htest
  obtain ⟨hbalance, hexplained⟩ := of_decide_eq_true htest
  exact ⟨_, s, p, execAll_run hs, hp, hbalance,
    (counters_explain State.funded_genesis (execAll_run hs) hp).mp hexplained⟩

/-- A stake paid in by `enter_room` comes back to the balance, and no counter says where from. -/
theorem counters_explain_entered : ¬ ∀ s, Reached .validator s → ∀ o p,
    s.players.get o = some p → p.Explained := by
  intro hall
  have run : (execAll .validator .funded
      [(0, Call.initializeProgram (.key 1) (.key 2) (.key 3) 500 50),
        (1, Call.createRoom (.key 2) (.ofByte 7) 1000000 4),
        (2, Call.deposit (.key 4) 10000),
        (3, Call.enterRoom (.key 4) (.ofByte 7)),
        (4, Call.cancelRoom (.key 2) (.ofByte 7)),
        (5, Call.claimRefund (.key 4) (.key 4) (.ofByte 7))]).passes (fun s =>
      (s.players.get (.key 4)).any fun p => decide (¬ p.Explained)) = true := by
    decide
  obtain ⟨s, hs, htest⟩ := Result.passes_iff.mp run
  obtain ⟨p, hp, htest⟩ := (Option.any_eq_true _ _).mp htest
  exact of_decide_eq_true htest (hall s (reached_of_execAll hs) _ p hp)

end SnakeArena.Program
