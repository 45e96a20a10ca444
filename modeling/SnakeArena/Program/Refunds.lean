import SnakeArena.Program.Escrow
import SnakeArena.Program.Funding
import SnakeArena.Program.Solvency

/-!
# Program — refunds

When a locked player of a cancelled room gets the stake back.  `claim_refund` credits a custody
account, which `lock_entry_fee` needs and `enter_room` does not: a player who entered directly
may have none, and only `deposit` would create it, which a pause refuses.

`Refundable` is the exact condition, on the state the room is cancelled in, for the refund to
succeed and the refunded amount to be withdrawn after it.
-/

namespace SnakeArena.Program
open SnakeArena.Library

/-- The player has a custody account, the stake is one that can be withdrawn at all, the
account's counter has room for it, and the room still accounts for it. -/
def Refundable (s : State) (r : Room) (p : Pubkey) (rp : RoomPlayer) : Prop :=
  ∃ acct, s.players.get p = some acct ∧ minWithdrawalLamports ≤ rp.lockedAmount ∧
    acct.totalWithdrawn + rp.lockedAmount ≤ u64Max ∧ rp.lockedAmount ≤ r.totalLocked

section Refunds
variable {rt : Runtime} {s : State} {id : RoomId} {r : Room} {p claimant : Pubkey}
  {rp : RoomPlayer} {acct : PlayerAccount}

/-- An instruction that writes no lamports itself passes the runtime's comparison. -/
theorem exec_ok {now : ℤ} {i : Instruction} {t : Tx} (h : handle rt now s i = .ok t)
    (hd : t.debits = []) : exec rt now s i = .ok t := by
  simp only [exec, bind_eq_ok, require_eq_ok, Except.ok.injEq]
  refine ⟨t, h, (), fun _ a ha => ?_, rfl⟩
  rw [hd] at ha
  cases ha

/-- The balance of one account is in the pool. -/
theorem Reached.backed (h : Reached rt s) (hp : s.players.get p = some acct) :
    acct.balance + rt.minimumBalance 0 ≤ s.lamports .pool := by
  have hpart : acct.balance ≤ s.balances := by
    rw [← Table.part_of_get (f := fun _ p => p.balance) hp]
    exact Table.part_le_total _ _ _
  have hs := h.solvent
  simp only [State.Solvent, State.poolFloor, h.wellFormed.config_of_player hp, ↓reduceIte] at hs
  omega

/-- A refund to a player with a custody account succeeds, as long as the room accounts for
it. -/
theorem claimRefund_succeeds (h : Reached rt s) (now : ℤ) (hr : s.rooms.get id = some r)
    (hst : r.status = .cancelled) (hrp : s.roomPlayers.get (.room id, p) = some rp)
    (hlocked : rp.state = .locked) (hp : s.players.get p = some acct)
    (hle : rp.lockedAmount ≤ r.totalLocked) (hclaimant : claimant.CanSign) :
    ∃ t, exec rt now s (Call.claimRefund p claimant id) = .ok t := by
  have hw := h.wellFormed
  obtain ⟨c, hc⟩ := Option.ne_none_iff_exists'.mp (hw.config_of_room hr)
  obtain rfl : r.roomId = id := (hw.rooms _ _ hr).1
  obtain ⟨hroom, hplayer, hcan⟩ := hw.record hrp
  have howner : acct.owner = p := (hw.players _ _ hp).1
  have hvault := (h.escrowed _ _ hr (by rw [hst]; exact nofun)).1
  have hpair := hw.supply.pair (show Pubkey.pool ≠ .roomVault r.roomId from nofun)
  -- the balance is backed by the pool, so it has room for the stake
  have hbal := h.backed hp
  let t₀ : Tx := (((Tx.start s).setRoomPlayer (.room r.roomId) p { rp with state := .refunded }
    ).setPlayer p
      { acct with
        balance := acct.balance + rp.lockedAmount
        totalWagered := acct.totalWagered - rp.lockedAmount }).setRoom r.roomId
    { r with totalLocked := r.totalLocked - rp.lockedAmount }
  obtain ⟨t, ht⟩ : ∃ t, transferFromVault rt t₀ (.roomVault r.roomId) .pool
      rp.lockedAmount = .ok t :=
    transferFromVault_ok nofun (by show _ ≤ s.lamports _; omega) hw.supply
  have hd : t.debits = [] := by
    obtain ⟨⟨l, -, rfl⟩, -⟩ := transferFromVault_eq_ok ht
    rfl
  refine ⟨t, exec_ok ?_ hd⟩
  simp only [handle, Call.claimRefund, claimRefund, bind_eq_ok, loadConfig_eq_ok, loadRoom_eq_ok,
    loadRoomPlayer_eq_ok, loadPlayer_eq_ok, seeds_eq_ok, require_eq_ok, mutable_eq_ok,
    signer_eq_ok, system_eq_ok, add_eq_ok, sub_eq_ok, AccountInfo.full_key,
    AccountInfo.full_isWritable, AccountInfo.full_isSigner]
  exact ⟨c, ⟨trivial, hc⟩, (), trivial, r, ⟨_, rfl, hr⟩, (), trivial, (), rfl, rp,
    ⟨_, _, rfl, hrp⟩, (), trivial, (), trivial, (), require_eq_ok.mpr hroom, (),
    require_eq_ok.mpr hplayer, acct, ⟨_, rfl, hp⟩, (), trivial, (), trivial, (),
    require_eq_ok.mpr howner, (), trivial, (), rfl, (), trivial, (), trivial, (), trivial, (),
    hclaimant, (), trivial, (), hst, (), hlocked, _,
    ⟨by omega, rfl⟩, _, ⟨hle, rfl⟩, ht⟩

/-- When a withdrawal goes through: at least the minimum, within the balance and the lifetime
counter.  The pool is never the obstacle. -/
theorem withdraw_succeeds (h : Reached rt s) (now : ℤ) {n : ℕ}
    (hp : s.players.get p = some acct) (hmin : minWithdrawalLamports ≤ n)
    (hbal : n ≤ acct.balance) (htot : acct.totalWithdrawn + n ≤ u64Max) :
    ∃ t, exec rt now s (Call.withdraw p n) = .ok t := by
  have hw := h.wellFormed
  obtain ⟨c, hc⟩ := Option.ne_none_iff_exists'.mp (hw.config_of_player hp)
  obtain ⟨htr, -, hfee⟩ := hw.config c hc
  obtain ⟨howner, hcan⟩ := hw.players _ _ hp
  have hpool := h.backed hp
  have hmax := hw.supply.get .pool
  have hbps : c.withdrawalFeeBps ≤ bpsDenominator := hfee.trans (by decide)
  have hle : n * c.withdrawalFeeBps / bpsDenominator ≤ n := bps_le hbps
  have hcharge := applyBps_of_le (show n ≤ u64Max by omega) hbps
  generalize n * c.withdrawalFeeBps / bpsDenominator = fee at hle hcharge
  let t₀ : Tx := (Tx.start s).setPlayer p
    { acct with balance := acct.balance - n, totalWithdrawn := acct.totalWithdrawn + n }
  -- the net amount to the wallet, then the fee to the treasury
  obtain ⟨t₁, h₁⟩ : ∃ t, transferFromVault rt t₀ .pool p (n - fee) = .ok t :=
    transferFromVault_ok (hcan.ne (b := .pool) trivial).symm
      (by show _ ≤ s.lamports _; omega) hw.supply
  obtain ⟨⟨l₁, m₁, rfl⟩, -⟩ := transferFromVault_eq_ok h₁
  have hleft : l₁ .pool + (n - fee) = s.lamports .pool := by
    have := m₁.balance .pool
    simp only [outflow_payment, inflow_payment, hcan.ne (b := .pool) trivial, ↓reduceIte,
      Nat.add_zero] at this
    exact this
  obtain ⟨t₂, h₂⟩ : ∃ t, transferFromVault rt { t₀ with
      state := { t₀.state with lamports := l₁ }
      moves := t₀.moves ++ payment .pool p (n - fee) } .pool .treasury fee = .ok t :=
    transferFromVault_ok (by rintro ⟨⟩) (by show _ ≤ l₁ .pool; omega) (m₁.bounded hw.supply)
  have hd : t₂.debits = [] := by
    obtain ⟨⟨l₂, -, rfl⟩, -⟩ := transferFromVault_eq_ok h₂
    rfl
  refine ⟨t₂, exec_ok ?_ hd⟩
  simp only [handle, Call.withdraw, withdraw, bind_eq_ok, loadConfig_eq_ok, loadPlayer_eq_ok,
    seeds_eq_ok, require_eq_ok, mutable_eq_ok, signer_eq_ok, system_eq_ok, add_eq_ok, sub_eq_ok,
    AccountInfo.full_key, AccountInfo.full_isWritable, AccountInfo.full_isSigner]
  exact ⟨c, ⟨trivial, hc⟩, (), trivial, acct, ⟨_, rfl, hp⟩, (), trivial, (), trivial, (),
    require_eq_ok.mpr howner, (), trivial, (), trivial, (), trivial, (), trivial, (),
    require_eq_ok.mpr htr.symm, (), trivial, (), hcan, (), trivial, (), hmin, fee, hcharge, _,
    ⟨hle, rfl⟩, (), hbal, _, ⟨hbal, rfl⟩, _, ⟨htot, rfl⟩, _, h₁, h₂⟩

/-- A withdrawal that went through was of at least the minimum and fitted the counter. -/
theorem withdraw_limits {now : ℤ} {n : ℕ} {t : Tx} (hp : s.players.get p = some acct)
    (h : exec rt now s (Call.withdraw p n) = .ok t) :
    minWithdrawalLamports ≤ n ∧ acct.totalWithdrawn + n ≤ u64Max := by
  simp only [exec, handle, Call.withdraw, withdraw, bind_eq_ok, loadPlayer_eq_ok, require_eq_ok,
    add_eq_ok, sub_eq_ok, AccountInfo.full_key] at h
  obtain ⟨_, ⟨_, -, -, -, p', ⟨o, ho, hp'⟩, -, -, -, -, -, -, -, -, -, -, -, -, -, -, -, -, -, -, -,
    -, -, -, -, hmin, -, -, -, -, -, -, -, -, _, ⟨htot, -⟩, -⟩, -⟩ := h
  obtain rfl : p = o := Pubkey.player.inj ho
  obtain rfl := Option.some.inj (hp'.symm.trans hp)
  exact ⟨hmin, htot⟩

/-- A refund that went through, and the balance it left. -/
theorem claimRefund_effect {now : ℤ} {t : Tx} (hr : s.rooms.get id = some r)
    (hrp : s.roomPlayers.get (.room id, p) = some rp)
    (h : exec rt now s (Call.claimRefund p claimant id) = .ok t) :
    ∃ acct, s.players.get p = some acct ∧ rp.lockedAmount ≤ r.totalLocked ∧
      t.state.config = s.config ∧ t.state.players.get p = some
        { acct with
          balance := acct.balance + rp.lockedAmount
          totalWagered := acct.totalWagered - rp.lockedAmount } := by
  have hf := exec_effect h
  generalize hi : Call.claimRefund p claimant id = i at hf
  cases hf with
  | @claimRefund accs r' rp' acct l hr' hkey hrp' hp hst hlocked hle hl =>
      obtain rfl := Instruction.claimRefund.inj hi
      simp only [AccountInfo.full_key] at hrp' hp hkey
      obtain rfl : id = r'.roomId := Pubkey.room.inj hkey
      obtain rfl := Option.some.inj (hr'.symm.trans hr)
      obtain rfl := Option.some.inj (hrp'.symm.trans hrp)
      exact ⟨acct, hp, hle, rfl, Table.get_upd_same _ _ _⟩
  | config _ _ _ _ hcases =>
      rcases hcases with ⟨_, _, _, _, _, _, rfl⟩ | ⟨_, _, rfl⟩ | ⟨_, rfl⟩ <;> cases hi
  | _ => cases hi

end Refunds

/-! ### What the entries of a room guarantee -/

/-- Every room asks for a stake that can be withdrawn, and every locked record is of one, held
by a player with a custody account. -/
structure State.Withdrawable (s : State) : Prop where
  fees : s.rooms.All fun _ r => minWithdrawalLamports ≤ r.entryFee
  locked : s.roomPlayers.All fun k rp => rp.state = .locked →
    minWithdrawalLamports ≤ rp.lockedAmount ∧ s.players.get k.2 ≠ none

/-- A room opens with no locked record at its address and an entry fee that can be withdrawn;
a player enters directly only with a custody account. -/
def StakesWithdrawable (s : State) : Event → Prop
  | .exec now (.createRoom accs id fee max) =>
      OpensUnlocked s (.exec now (.createRoom accs id fee max)) ∧ minWithdrawalLamports ≤ fee
  | .exec _ (.enterRoom accs) => s.players.get accs.player.key ≠ none
  | _ => True

theorem StakesWithdrawable.opensUnlocked {s : State} {l : Event} (h : StakesWithdrawable s l) :
    OpensUnlocked s l := by
  cases l with
  | outside => trivial
  | exec now i => cases i with
    | createRoom accs id fee max => exact h.1
    | _ => trivial

theorem Credited.players_kept {room : Pubkey} {s s' : State} {ws : List (Pubkey × ℕ)}
    (h : Credited room s ws s') {o : Pubkey} (ho : s.players.get o ≠ none) :
    s'.players.get o ≠ none := by
  induction h with
  | nil => exact ho
  | cons _ _ _ _ _ _ _ ih => exact ih (Table.upd_ne_none ho)

/-- The payout loop locks nothing. -/
theorem Credited.locked {room : Pubkey} {s s' : State} {ws : List (Pubkey × ℕ)}
    {P : Pubkey × Pubkey → RoomPlayer → Prop} (h : Credited room s ws s')
    (hP : s.roomPlayers.All fun k rp => rp.state = .locked → P k rp) :
    s'.roomPlayers.All fun k rp => rp.state = .locked → P k rp := by
  induction h with
  | nil => exact hP
  | cons _ _ _ _ _ _ _ ih => exact ih (hP.upd nofun)

/-- A custody account is never closed. -/
theorem Effect.players_kept {rt : Runtime} {now : ℤ} {s : State} {i : Instruction} {t : Tx}
    (h : Effect rt now s i t) {o : Pubkey} (ho : s.players.get o ≠ none) :
    t.state.players.get o ≠ none := by
  cases h with
  | deposit => exact Table.upd_ne_none ho
  | withdraw => exact Table.upd_ne_none ho
  | joinRoom => exact Table.upd_ne_none ho
  | lockEntryFee => exact Table.upd_ne_none ho
  | claimRefund => exact Table.upd_ne_none ho
  | distributeWinnings _ _ _ _ _ _ _ _ _ hcr => exact hcr.players_kept ho
  | _ => exact ho

theorem Step.withdrawable {rt : Runtime} {s s' : State} {l : Event}
    (h : Guarded (Step rt) StakesWithdrawable s l s') (hs : s.Withdrawable) : s'.Withdrawable := by
  obtain ⟨h, hg⟩ := h
  cases h with
  | outside => exact ⟨hs.fees, hs.locked⟩
  | @exec now i t ht =>
      have hf := exec_effect ht
      have kept := fun o => hf.players_kept (o := o)
      -- the records this instruction leaves alone
      have locked := hs.locked.mono fun k rp h hl => (h hl).imp_right (kept k.2)
      cases hf with
      | createRoom => exact ⟨hs.fees.upd hg.2, locked⟩
      | joinRoom _ _ hr => exact ⟨hs.fees.modify hr id, locked.upd nofun⟩
      | lockEntryFee _ _ hr _ _ _ hp =>
          exact ⟨hs.fees.modify hr id, locked.upd fun _ => ⟨hs.fees _ _ hr, kept _ (hp ▸ nofun)⟩⟩
      | enterRoom _ _ hr =>
          exact ⟨hs.fees.modify hr id, locked.upd fun _ => ⟨hs.fees _ _ hr, hg⟩⟩
      | startRoom _ hr => exact ⟨hs.fees.modify hr id, locked⟩
      | unlockPrize _ hr => exact ⟨hs.fees.modify hr id, locked⟩
      | distributeWinnings _ hr _ _ _ _ _ _ _ hcr =>
          exact ⟨(hcr.rooms ▸ hs.fees).modify (hcr.rooms ▸ hr) id, hcr.locked locked⟩
      | settleToWinner _ hr => exact ⟨hs.fees.modify hr id, locked.upd nofun⟩
      | cancelRoom _ hr => exact ⟨hs.fees.modify hr id, locked⟩
      | claimRefund hr => exact ⟨hs.fees.modify hr id, locked.upd nofun⟩
      | closeRoom => exact ⟨hs.fees.del, locked⟩
      | closeRoomPlayer => exact ⟨hs.fees, locked.del⟩
      | _ => exact ⟨hs.fees, locked⟩

/-! ### Refunds of a cancelled room -/

/-- **A pause or a cancellation traps no stake, when** it is `Refundable`: for a locked record
of a cancelled room, a refund by any wallet followed by a withdrawal of the stake goes through,
at any clocks and under the same config, exactly then.  In a run whose steps are all
`StakesWithdrawable` the only limit left is the lifetime counter of withdrawals. -/
theorem refund_then_withdraw {rt : Runtime} {s : State} (h : Reached rt s) {id : RoomId}
    {r : Room} {p : Pubkey} {rp : RoomPlayer} (hr : s.rooms.get id = some r)
    (hst : r.status = .cancelled) (hrp : s.roomPlayers.get (.room id, p) = some rp)
    (hlocked : rp.state = .locked) :
    (∀ (claimant : Pubkey) (now now' : ℤ), claimant.CanSign →
      ((∃ t t', exec rt now s (Call.claimRefund p claimant id) = .ok t ∧
          t.state.config = s.config ∧
          exec rt now' t.state (Call.withdraw p rp.lockedAmount) = .ok t') ↔
        Refundable s r p rp)) ∧
      (Reachable (Guarded (Step rt) StakesWithdrawable) State.Genesis s →
        ∃ acct, s.players.get p = some acct ∧
          (Refundable s r p rp ↔ acct.totalWithdrawn + rp.lockedAmount ≤ u64Max)) := by
  refine ⟨fun claimant now now' hclaimant => ⟨?_, ?_⟩, fun hrun => ?_⟩
  · rintro ⟨t, t', ht, -, ht'⟩
    obtain ⟨acct, hp, hle, -, hp'⟩ := claimRefund_effect hr hrp ht
    obtain ⟨hmin, htot⟩ := withdraw_limits hp' ht'
    exact ⟨acct, hp, hmin, htot, hle⟩
  · rintro ⟨acct, hp, hmin, htot, hle⟩
    obtain ⟨t, ht⟩ := claimRefund_succeeds h now hr hst hrp hlocked hp hle hclaimant
    obtain ⟨_, hp', -, hconfig, hacct⟩ := claimRefund_effect hr hrp ht
    obtain rfl := Option.some.inj (hp'.symm.trans hp)
    obtain ⟨t', ht'⟩ := withdraw_succeeds (h.step (.exec ht)) now' hacct hmin
      (Nat.le_add_left _ _) htot
    exact ⟨t, t', ht, hconfig, ht'⟩
  · have hfunded : s.Funded := by
      refine hrun.invariant (I := State.Funded) ?_ fun _ _ _ hs hstep =>
        Step.funded ⟨hstep.1, hstep.2.opensUnlocked⟩ hs
      intro s hs
      rw [State.Funded, hs.2.2.1]
      exact .empty
    have hwithdrawable : s.Withdrawable := by
      refine hrun.invariant ?_ fun _ _ _ hs hstep => Step.withdrawable hstep hs
      intro s hs
      exact ⟨hs.2.2.1 ▸ .empty, hs.2.2.2.1 ▸ .empty⟩
    obtain ⟨hmin, hacct⟩ := hwithdrawable.locked _ _ hrp hlocked
    obtain ⟨acct, hp⟩ := Option.ne_none_iff_exists'.mp hacct
    -- the record is one of those that add up to what the room holds
    have hle : rp.lockedAmount ≤ r.totalLocked := by
      have := Table.part_le_total (fun k rp => if k.1 = .room id then rp.claim else 0)
        s.roomPlayers (.room id, p)
      rw [Table.part_of_get hrp, if_pos rfl, RoomPlayer.claim_of hlocked] at this
      exact this.trans_eq (hfunded id r hr (by rw [hst]; rintro ⟨⟩))
    refine ⟨acct, hp, ?_, fun htot => ⟨acct, hp, hmin, htot, hle⟩⟩
    rintro ⟨acct', hp', -, htot, -⟩
    obtain rfl := Option.some.inj (hp'.symm.trans hp)
    exact htot

/-- A player with a custody account enters directly; the room is cancelled and the program
paused, and the stake goes back and out. -/
theorem refund_then_withdraw_paused : ∃ (s : State) (c : Config) (t t' : Tx),
    Reached .validator s ∧ s.config = some c ∧ c.paused = true ∧
    exec .validator 6 s (Call.claimRefund (.key 4) (.key 5) (.ofByte 7)) = .ok t ∧
    exec .validator 7 t.state (Call.withdraw (.key 4) 1000000) = .ok t' := by
  let rest : List (ℤ × Instruction) :=
    [(4, Call.cancelRoom (.key 2) (.ofByte 7)), (5, Call.setPaused (.key 1) true)]
  have run : (exec .validator 0 .funded
      (Call.initializeProgram (.key 1) (.key 2) (.key 3) 500 50)).passes (fun t₀ =>
      (exec .validator 1 t₀.state (Call.createRoom (.key 2) (.ofByte 7) 1000000 4)).passes fun t₁ =>
      (exec .validator 2 t₁.state (Call.deposit (.key 4) 5000000)).passes fun t₂ =>
      (exec .validator 3 t₂.state (Call.enterRoom (.key 4) (.ofByte 7))).passes fun t₃ =>
      (execAll .validator t₃.state rest).passes fun s =>
        decide (t₂.state.players.get (.key 4) ≠ none) &&
        s.config.any (fun c => c.paused) &&
        (s.rooms.get (.ofByte 7)).any (fun r => decide (r.status = .cancelled)) &&
        (s.roomPlayers.get (.room (.ofByte 7), .key 4)).any (fun rp =>
          decide (rp.state = .locked ∧ rp.lockedAmount = 1000000)) &&
        (s.players.get (.key 4)).any fun p => decide (p.totalWithdrawn = 0)) = true := by
    decide
  obtain ⟨t₀, h₀, run⟩ := Result.passes_iff.mp run
  obtain ⟨t₁, h₁, run⟩ := Result.passes_iff.mp run
  obtain ⟨t₂, h₂, run⟩ := Result.passes_iff.mp run
  obtain ⟨t₃, h₃, run⟩ := Result.passes_iff.mp run
  obtain ⟨s, hs, htest⟩ := Result.passes_iff.mp run
  simp only [Bool.and_eq_true, Option.any_eq_true, decide_eq_true_iff] at htest
  obtain ⟨⟨⟨⟨hacct, c, hc, hpaused⟩, r, hr, hst⟩, rp, hrp, hlocked, hamount⟩, p, hp, hzero⟩ := htest
  have hnone := State.funded_initialized h₀
  have hopens : StakesWithdrawable t₀.state
      (.exec 1 (Call.createRoom (.key 2) (.ofByte 7) 1000000 4)) :=
    And.intro (fun p rp hrp => by rw [hnone] at hrp; cases hrp) (by decide)
  have hreach : Reachable (Guarded (Step .validator) StakesWithdrawable) State.Genesis s :=
    ⟨_, _, State.funded_genesis,
      .cons ⟨.exec h₀, trivial⟩ <|
      .cons ⟨.exec h₁, hopens⟩ <| .cons ⟨.exec h₂, trivial⟩ <| .cons ⟨.exec h₃, hacct⟩ <|
      execAll_guarded (by simp [rest, StakesWithdrawable, Call.cancelRoom, Call.setPaused]) hs⟩
  have hreached : Reached .validator s := by
    obtain ⟨s₀, ls, h₀, hrun⟩ := hreach
    exact ⟨s₀, ls, h₀, hrun.of_guarded⟩
  obtain ⟨hiff, hcounter⟩ := refund_then_withdraw hreached hr hst hrp hlocked
  obtain ⟨acct, hp', hrefundable⟩ := hcounter hreach
  obtain rfl := Option.some.inj (hp'.symm.trans hp)
  obtain ⟨t, t', ht, -, ht'⟩ := (hiff (.key 5) 6 7 (by decide)).mpr
    (hrefundable.mpr (by rw [hzero, hamount]; decide))
  exact ⟨s, c, t, t', hreached, hc, hpaused, ht, hamount ▸ ht'⟩

/-- A player with no custody account enters directly; the room is cancelled and the program
paused.  The refund finds no account to credit, and the deposit that would create it is
refused. -/
theorem refund_then_withdraw_no_account : ∃ (s : State) (r : Room) (rp : RoomPlayer),
    Reached .validator s ∧ s.rooms.get (.ofByte 7) = some r ∧ r.status = .cancelled ∧
    s.roomPlayers.get (.room (.ofByte 7), .key 4) = some rp ∧ rp.state = .locked ∧
    exec .validator 5 s (Call.claimRefund (.key 4) (.key 5) (.ofByte 7)) =
      .error (.anchor .accountNotInitialized) ∧
    exec .validator 5 s (Call.deposit (.key 4) 5000000) = .error (.arena .programPaused) := by
  have run : (execAll .validator .funded
      [(0, Call.initializeProgram (.key 1) (.key 2) (.key 3) 500 50),
        (1, Call.createRoom (.key 2) (.ofByte 7) 1000000 4),
        (2, Call.enterRoom (.key 4) (.ofByte 7)), (3, Call.cancelRoom (.key 2) (.ofByte 7)),
        (4, Call.setPaused (.key 1) true)]).passes (fun s =>
      (s.rooms.get (.ofByte 7)).any (fun r => decide (r.status = .cancelled)) &&
      (s.roomPlayers.get (.room (.ofByte 7), .key 4)).any (fun rp => decide (rp.state = .locked)) &&
      (exec .validator 5 s (Call.claimRefund (.key 4) (.key 5) (.ofByte 7))).failsWith
        (.anchor .accountNotInitialized) &&
      (exec .validator 5 s (Call.deposit (.key 4) 5000000)).failsWith
        (.arena .programPaused)) = true := by
    decide
  obtain ⟨s, hs, htest⟩ := Result.passes_iff.mp run
  simp only [Bool.and_eq_true, Option.any_eq_true, decide_eq_true_iff,
    Result.failsWith_iff] at htest
  obtain ⟨⟨⟨⟨r, hr, hst⟩, rp, hrp, hlocked⟩, hrefund⟩, hdeposit⟩ := htest
  exact ⟨s, r, rp, reached_of_execAll hs, hr, hst, hrp, hlocked, hrefund, hdeposit⟩

end SnakeArena.Program
