import SnakeArena.Program.Calls

/-!
# Program — custody solvency

The pool vault backs the player accounts: it holds its rent and the sum of every
`PlayerAccount.balance`.  No instruction raises the sum of the balances by more than it brings
to the pool (`Effect.books`), which is what carries the invariant; that a withdrawal never
finds the pool short is read off it.
-/

namespace SnakeArena.Program
open SnakeArena.Library

/-- The sum of the balances the player accounts record. -/
noncomputable def State.balances (s : State) : ℕ := s.players.total fun _ p => p.balance

/-- What the pool must hold beside the balances: nothing before it is set up, then its rent. -/
def State.poolFloor (rt : Runtime) (s : State) : ℕ :=
  if s.config = none then 0 else rt.minimumBalance 0

def State.Solvent (rt : Runtime) (s : State) : Prop :=
  s.poolFloor rt + s.balances ≤ s.lamports .pool

/-- The payout loop credits the sum of the payouts. -/
theorem Credited.balances {room : Pubkey} {s s' : State} {ws : List (Pubkey × ℕ)}
    (h : Credited room s ws s') : s'.balances = s.balances + (ws.map Prod.snd).sum := by
  induction h with
  | nil => simp
  | @cons s _ w n ws rp p _ _ _ _ hp _ _ ih =>
      have e := Table.total_modify (fun _ p => p.balance)
        { p with balance := p.balance + n, totalWinnings := p.totalWinnings + n } hp
      simp only [State.balances, List.map_cons, List.sum_cons] at ih e ⊢
      omega

/-! ### The books, instruction by instruction -/

section Books
variable {s s' : State} {ms : List (Move Pubkey)} {player : Pubkey} {p p' : PlayerAccount} {n : ℕ}

/-- Where the balances stay, it is enough that nothing leaves the pool. -/
theorem books_players (hplayers : s'.players = s.players) (hl : Moved s.lamports ms s'.lamports)
    (hms : ∀ m ∈ ms, m.source ≠ .pool) :
    s'.balances + s.lamports .pool ≤ s.balances + s'.lamports .pool := by
  have := hl.le hms
  simp only [State.balances, hplayers]
  omega

/-- One account is written. -/
theorem State.balances_written (hp : s.players.get player = some p)
    (hplayers : s'.players = s.players.upd player p') :
    s'.balances + p.balance = s.balances + p'.balance := by
  rw [State.balances, hplayers]
  exact Table.total_modify (fun _ p => p.balance) p' hp

/-- A deposit reaches the pool; what creates the account comes from the player too. -/
theorem books_deposit (hsig : player.CanSign)
    (hp : s.players.get player = some p ∨ s.players.get player = none ∧ p = .zeroed)
    (hms : ∀ m ∈ ms, m.source = player ∧ m.dest = .player player)
    (hl : Moved s.lamports (ms ++ [⟨player, .pool, n⟩]) s'.lamports)
    (hplayers : s'.players = s.players.upd player p') (hbalance : p'.balance = p.balance + n) :
    s'.balances + s.lamports .pool ≤ s.balances + s'.lamports .pool := by
  have hpool := hl.balance .pool
  have hout : outflow .pool ms = 0 := outflow_eq_zero fun m hm => (hms m hm).1 ▸ hsig.ne trivial
  have hin : inflow .pool ms = 0 := inflow_eq_zero fun m hm => by
    rw [(hms m hm).2]
    rintro ⟨⟩
  simp only [outflow_append, outflow_cons, outflow_nil, inflow_append, inflow_cons, inflow_nil,
    hout, hin, hsig.ne (b := .pool) trivial, ↓reduceIte] at hpool
  rcases hp with hp | ⟨hp, rfl⟩
  · have := State.balances_written hp hplayers
    omega
  · have : s'.balances = s.balances + p'.balance := by
      rw [State.balances, hplayers]
      exact Table.total_insert _ _ hp
    simp only [PlayerAccount.zeroed] at hbalance
    omega

/-- What a withdrawal takes from the balance is what leaves the pool, fee included. -/
theorem books_withdraw {fee : ℕ} (hsig : player.CanSign) (hp : s.players.get player = some p)
    (hle : n ≤ p.balance) (hfee : fee ≤ n)
    (hl : Moved s.lamports (payment .pool player (n - fee) ++ payment .pool .treasury fee)
      s'.lamports)
    (hplayers : s'.players = s.players.upd player p') (hbalance : p'.balance = p.balance - n) :
    s'.balances + s.lamports .pool ≤ s.balances + s'.lamports .pool := by
  have hpool := hl.balance .pool
  simp only [outflow_append, outflow_payment, inflow_append, inflow_payment,
    hsig.ne (b := .pool) trivial, reduceCtorEq, ↓reduceIte] at hpool
  have := State.balances_written hp hplayers
  omega

/-- A player joins: the balance stays, and the rent of the entry is the player's. -/
theorem books_join {room : Pubkey} (hsig : player.CanSign) (hp : s.players.get player = some p)
    (hl : Moved s.lamports [⟨player, .roomPlayer room player, n⟩] s'.lamports)
    (hplayers : s'.players = s.players.upd player p') (hbalance : p'.balance = p.balance) :
    s'.balances + s.lamports .pool ≤ s.balances + s'.lamports .pool := by
  have hpool := hl.balance .pool
  simp only [outflow_cons, outflow_nil, inflow_cons, inflow_nil, hsig.ne (b := .pool) trivial,
    reduceCtorEq, ↓reduceIte] at hpool
  have := State.balances_written hp hplayers
  omega

/-- An entry fee goes from the pool to a room, and off the balance. -/
theorem books_lock {id : RoomId} (hp : s.players.get player = some p) (hle : n ≤ p.balance)
    (hl : Moved s.lamports (payment .pool (.roomVault id) n) s'.lamports)
    (hplayers : s'.players = s.players.upd player p') (hbalance : p'.balance = p.balance - n) :
    s'.balances + s.lamports .pool ≤ s.balances + s'.lamports .pool := by
  have hpool := hl.balance .pool
  simp only [outflow_payment, inflow_payment, reduceCtorEq, ↓reduceIte] at hpool
  have := State.balances_written hp hplayers
  omega

/-- A refund comes back from the room, and onto the balance. -/
theorem books_refund {id : RoomId} (hp : s.players.get player = some p)
    (hl : Moved s.lamports (payment (.roomVault id) .pool n) s'.lamports)
    (hplayers : s'.players = s.players.upd player p') (hbalance : p'.balance = p.balance + n) :
    s'.balances + s.lamports .pool ≤ s.balances + s'.lamports .pool := by
  have hpool := hl.balance .pool
  simp only [outflow_payment, inflow_payment, reduceCtorEq, ↓reduceIte] at hpool
  have := State.balances_written hp hplayers
  omega

/-- The prize reaches the pool, and the winners' balances get no more. -/
theorem books_winnings {id : RoomId} {dest : Pubkey} {ws : List (Pubkey × ℕ)} {s₁ : State}
    {rake : ℕ} (hcredited : Credited (.room id) s ws s₁) (hsum : (ws.map Prod.snd).sum = n)
    (hl : Moved s₁.lamports (payment (.roomVault id) .pool n ++ payment (.roomVault id) dest rake)
      s'.lamports) (hplayers : s'.players = s₁.players) (hlamports : s₁.lamports = s.lamports) :
    s'.balances + s.lamports .pool ≤ s.balances + s'.lamports .pool := by
  have hpool := hl.balance .pool
  simp only [outflow_append, outflow_payment, inflow_append, inflow_payment, reduceCtorEq,
    ↓reduceIte, hlamports] at hpool
  have hcredits := hcredited.balances
  simp only [State.balances, hplayers] at hcredits ⊢
  omega

end Books

/-- **The books.**  The balances rise by no more than the pool does. -/
theorem Effect.books {rt : Runtime} {now : ℤ} {s : State} {i : Instruction} {t : Tx}
    (h : Effect rt now s i t) :
    t.state.balances + s.lamports .pool ≤ s.balances + t.state.lamports .pool := by
  cases h with
  | initializeProgram _ hsig _ _ hl =>
      refine books_players rfl hl fun m hm => ?_
      simp only [List.append_assoc, List.mem_append, List.mem_singleton] at hm
      rcases hm with rfl | hm | hm
      · exact hsig.ne trivial
      · rw [mem_payment hm]
        exact hsig.ne trivial
      · rw [mem_payment hm]
        exact hsig.ne trivial
  | config | startRoom | unlockPrize | cancelRoom => exact books_players rfl (.nil _) (by simp)
  | withdrawTreasury hl =>
      refine books_players rfl hl fun m hm => ?_
      rw [mem_payment hm]
      rintro ⟨⟩
  | deposit _ _ hsig hp hms hl => exact books_deposit hsig hp hms hl rfl rfl
  | withdraw _ hsig hp hbal _ hle hl => exact books_withdraw hsig hp hbal hle hl rfl rfl
  | createRoom _ _ _ _ hsig _ _ _ hl =>
      refine books_players rfl hl fun m hm => ?_
      simp only [List.mem_append, List.mem_singleton] at hm
      rcases hm with rfl | hm
      · exact hsig.ne trivial
      · rw [mem_payment hm]
        exact hsig.ne trivial
  | joinRoom _ _ _ _ hsig _ hp _ _ hl => exact books_join hsig hp hl rfl rfl
  | lockEntryFee _ _ _ _ _ _ hp _ _ hbal _ hl => exact books_lock hp hbal hl rfl rfl
  | enterRoom _ _ _ _ hsig _ _ _ _ hl =>
      refine books_players rfl hl fun m hm => ?_
      simp only [List.mem_cons, List.not_mem_nil, or_false] at hm
      rcases hm with rfl | rfl
      · exact hsig.ne trivial
      · exact hsig.ne trivial
  | distributeWinnings _ _ _ _ _ _ hsnd _ hsum hcr hl =>
      exact books_winnings hcr (hsnd ▸ hsum) hl rfl hcr.lamports
  | settleToWinner _ _ _ _ _ _ _ _ _ hl =>
      refine books_players rfl hl fun m hm => ?_
      rcases List.mem_append.mp hm with hm | hm
      · rw [mem_payment hm]
        rintro ⟨⟩
      · rw [mem_payment hm]
        rintro ⟨⟩
  | claimRefund _ _ _ hp _ _ _ hl => exact books_refund hp hl rfl rfl
  | closeRoom _ _ _ _ _ hl =>
      refine books_players rfl hl fun m hm => ?_
      simp only [List.mem_cons, List.not_mem_nil, or_false] at hm
      rcases hm with rfl | rfl <;> rintro ⟨⟩
  | closeRoomPlayer _ _ _ _ _ _ hl =>
      refine books_players rfl hl fun m hm => ?_
      rw [List.mem_singleton.mp hm]
      rintro ⟨⟩

/-- The config is created by `initialize` alone, which funds the pool. -/
theorem Effect.config_created {rt : Runtime} {now : ℤ} {s : State} {i : Instruction} {t : Tx}
    (h : Effect rt now s i t) (hw : s.WellFormed) (hn : s.config = none) :
    t.state.config = none ∨
      t.state.players = .empty ∧ rt.minimumBalance 0 ≤ t.state.lamports .pool := by
  cases h with
  | initializeProgram _ _ _ _ _ hrent => exact .inr ⟨(hw.started hn).1, hrent⟩
  | withdrawTreasury => exact .inl hn
  | claimRefund hr => exact absurd hn (hw.config_of_room hr)
  | closeRoomPlayer hr => exact absurd hn (hw.config_of_room hr)
  | _ => simp_all

theorem Effect.config_kept {rt : Runtime} {now : ℤ} {s : State} {i : Instruction} {t : Tx}
    (h : Effect rt now s i t) (hc : s.config ≠ none) : t.state.config ≠ none := by
  cases h with
  | distributeWinnings _ _ _ _ _ _ _ _ _ hcr => exact hcr.config ▸ hc
  | _ => first | exact hc | exact nofun

theorem Effect.solvent {rt : Runtime} {now : ℤ} {s : State} {i : Instruction} {t : Tx}
    (h : Effect rt now s i t) (hw : s.WellFormed) (hs : s.Solvent rt) : t.state.Solvent rt := by
  have hb := h.books
  simp only [State.Solvent, State.poolFloor] at hs ⊢
  by_cases hn : s.config = none
  · rcases h.config_created hw hn with hn' | ⟨hp, hrent⟩
    · simp only [hn, hn', ↓reduceIte] at hs ⊢
      omega
    · have : t.state.balances = 0 := by simp [State.balances, hp]
      split <;> omega
  · rw [if_neg hn] at hs
    rw [if_neg (h.config_kept hn)]
    omega

theorem Step.solvent {rt : Runtime} {s s' : State} {e : Event} (h : Step rt s e s')
    (hw : s.WellFormed) (hs : s.Solvent rt) : s'.Solvent rt := by
  cases h with
  | exec h => exact (exec_effect h).solvent hw hs
  | outside hd _ => exact Nat.le_trans hs (hd .pool trivial)

/-- The pool is solvent in every reached state. -/
theorem Reached.solvent {rt : Runtime} {s : State} (h : Reached rt s) : s.Solvent rt := by
  refine (h.invariant (I := fun s => s.WellFormed ∧ s.Solvent rt) ?_ ?_).2
  · intro s hs
    exact ⟨.genesis hs, by simp [State.Solvent, State.poolFloor, State.balances, hs.1, hs.2.1]⟩
  · rintro s e s' ⟨hw, hs⟩ hstep
    exact ⟨hstep.wellFormed hw, hstep.solvent hw hs⟩

/-! ### Withdrawals -/

/-- A withdrawal finds the pool short in one of its two payments. -/
theorem withdraw_shortage {rt : Runtime} {accs : Withdraw} {n : ℕ} {s : State} {e : Error}
    (he : Shortage e) (h : withdraw rt accs n s = .error e) :
    ∃ t fee, fee ≤ n ∧ accs.player.key.CanSign ∧ t.state.lamports = s.lamports ∧
      (transferFromVault rt t .pool accs.player.key (n - fee) = .error e ∨
        ∃ t₁, transferFromVault rt t .pool accs.player.key (n - fee) = .ok t₁ ∧
          transferFromVault rt t₁ .pool .treasury fee = .error e) := by
  have noConfig : ∀ a, loadConfig s a ≠ .error e := fun a h => he.not_anchor (loadConfig_error h)
  have noPlayer : ∀ a, loadPlayer s a ≠ .error e := fun a h => he.not_anchor (loadPlayer_error h)
  have noFee : ∀ a b, applyBps a b ≠ .error e := fun a b h => by
    rw [applyBps_eq_error h] at he; cases he
  cases he
  all_goals
    simp only [withdraw, bind_eq_error, seeds, mutable, signer, system,
      require_eq_error, require_eq_ok, sub_eq_error, sub_eq_ok, add_eq_error, add_eq_ok, noConfig,
      noPlayer, noFee, reduceCtorEq, Error.arena.injEq, and_false, false_or] at h
    obtain ⟨c, -, -, -, p, -, -, -, -, -, -, -, -, -, -, hpool, -, -, -, htr, -, -, -,
      -, -, hsig, -,
      -, -, -, fee, -, _, ⟨hle, rfl⟩, -, -, _, -, _, -, h⟩ := h
    rw [hpool, htr] at h
    exact ⟨_, fee, hle, accs.player.signer_ok hsig, rfl, h⟩

/-- A pool that holds the amount and its rent is not found short. -/
theorem withdraw_covered {rt : Runtime} {accs : Withdraw} {n : ℕ} {s : State} {e : Error}
    (hc : n + rt.minimumBalance 0 ≤ s.lamports .pool) (he : Shortage e) :
    withdraw rt accs n s ≠ .error e := by
  intro h
  obtain ⟨t, fee, hle, hsig, hl, h | ⟨t₁, h₁, h⟩⟩ := withdraw_shortage he h
  · exact transferFromVault_covered (fun _ => by rw [hl]; omega) he h
  · refine transferFromVault_covered (fun _ => ?_) he h
    obtain ⟨⟨l, hm, rfl⟩, -⟩ := transferFromVault_eq_ok h₁
    have := hm.balance .pool
    simp only [outflow_payment, inflow_payment, hsig.ne (b := .pool) trivial, ↓reduceIte] at this
    rw [hl] at this
    show fee + _ ≤ l .pool
    omega

/-- **Custody solvency.**  In every reached state the pool holds the sum of the players'
balances, and once the program is set up its own rent besides; so a withdrawal within the
player's balance is never refused for want of lamports in the pool. -/
theorem custody_solvency {rt : Runtime} {s : State} (h : Reached rt s) :
    s.balances ≤ s.lamports .pool ∧
      (s.config ≠ none → rt.minimumBalance 0 + s.balances ≤ s.lamports .pool) ∧
      ∀ (now : ℤ) (accs : Withdraw) (n : ℕ) (p : PlayerAccount) (e : Error),
        s.players.get accs.player.key = some p → n ≤ p.balance → Shortage e →
        exec rt now s (.withdraw accs n) ≠ .error e := by
  have hs := h.solvent
  have full : s.config ≠ none → rt.minimumBalance 0 + s.balances ≤ s.lamports .pool := by
    intro hc
    simpa [State.Solvent, State.poolFloor, hc] using hs
  refine ⟨?_, full, ?_⟩
  · simp only [State.Solvent] at hs
    omega
  · intro now accs n p e hp hn he herr
    simp only [exec, bind_eq_error, require_eq_error] at herr
    rcases herr with herr | ⟨t, -, ⟨-, rfl⟩ | ⟨-, -, hok⟩⟩
    · refine withdraw_covered ?_ he herr
      have hpart : p.balance ≤ s.balances := by
        rw [← Table.part_of_get (f := fun _ p => p.balance) hp]
        exact Table.part_le_total _ _ _
      have := full (h.wellFormed.config_of_player hp)
      omega
    · cases he
    · cases hok

/-- A player who deposited can withdraw it all. -/
theorem custody_solvency_deposited : ∃ s, Reached .validator s ∧
    s.players.get (.key 4) = some ⟨.key 4, 1000000, 1000000, 0, 0, 0, 0⟩ ∧
    890880 + s.balances ≤ s.lamports .pool ∧
    ∀ e, Shortage e → exec .validator 2 s (Call.withdraw (.key 4) 1000000) ≠ .error e := by
  have run : (execAll .validator .funded
      [(0, Call.initializeProgram (.key 1) (.key 2) (.key 3) 500 50),
        (1, Call.deposit (.key 4) 1000000)]).passes (fun s => s.config.isSome &&
      decide (s.players.get (.key 4) = some ⟨.key 4, 1000000, 1000000, 0, 0, 0, 0⟩)) = true := by
    decide
  obtain ⟨s, hs, htest⟩ := Result.passes_iff.mp run
  rw [Bool.and_eq_true, decide_eq_true_iff] at htest
  have hr := reached_of_execAll hs
  obtain ⟨-, hfull, hw⟩ := custody_solvency hr
  exact ⟨s, hr, htest.2, hfull (Option.isSome_iff_ne_none.mp htest.1),
    fun e he => hw 2 _ _ _ e htest.2 (Nat.le_refl _) he⟩

end SnakeArena.Program
