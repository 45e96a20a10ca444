import SnakeArena.Program.Escrow

/-!
# Program — authority over money

Who must sign what (`exec_signed`), which addresses' lamports and which player accounts an
instruction can change at all (`Effect.frame_lamports`, `Effect.frame_players`), when a player's
balance falls, and what leaves a room vault.
-/

namespace SnakeArena.Program
open SnakeArena.Library

/-! ### Signatures -/

/-- The accounts whose signature an instruction needs. -/
def Instruction.signers : Instruction → List AccountInfo
  | .initializeProgram accs _ _ _ _ => [accs.admin]
  | .updateConfig accs _ _ _ _ _ => [accs.admin]
  | .transferAdmin accs _ => [accs.admin]
  | .acceptAdmin accs => [accs.newAdmin]
  | .withdrawTreasury accs _ => [accs.admin]
  | .deposit accs _ => [accs.player]
  | .withdraw accs _ => [accs.player]
  | .createRoom accs _ _ _ => [accs.settlementAuthority]
  | .joinRoom accs => [accs.player]
  | .enterRoom accs => [accs.player]
  | .lockEntryFee accs => [accs.player]
  | .startRoom accs => [accs.settlementAuthority]
  | .unlockPrize accs => [accs.settlementAuthority]
  | .distributeWinnings accs _ => [accs.settlementAuthority]
  | .settleToWinner accs => [accs.settlementAuthority]
  | .cancelRoom accs => [accs.signer]
  | .claimRefund accs => [accs.claimant]
  | .closeRoom _ => []
  | .closeRoomPlayer _ => []

/-- An instruction succeeds only with its signatures. -/
theorem exec_signed {rt : Runtime} {now : ℤ} {s : State} {i : Instruction} {t : Tx}
    (h : exec rt now s i = .ok t) : ∀ a ∈ i.signers, a.isSigner = true := by
  simp only [exec, bind_eq_ok] at h
  obtain ⟨_, h, -⟩ := h
  cases i
  all_goals
    simp only [Instruction.signers, List.mem_singleton, List.not_mem_nil, forall_eq,
      false_imp_iff, implies_true]
  all_goals
    simp only [handle, initializeProgram, updateConfig, transferAdmin, acceptAdmin,
      withdrawTreasury, deposit, withdraw, createRoom, joinRoom, enterRoom, lockEntryFee,
      startRoom, unlockPrize, distributeWinnings, settleToWinner, cancelRoom, claimRefund,
      bind_eq_ok, signer_eq_ok] at h
    grind

/-! ### What an instruction can change -/

/-- The vault of the room at an address. -/
def vaultOf : Pubkey → Pubkey
  | .room id => .roomVault id
  | a => a

/-- The addresses whose lamports an instruction can change. -/
def Instruction.lamportAccounts (s : State) : Instruction → List Pubkey
  | .initializeProgram accs _ _ _ _ => [accs.admin.key, .config, .pool, .treasury]
  | .updateConfig _ _ _ _ _ _ | .transferAdmin _ _ | .acceptAdmin _ => []
  | .withdrawTreasury accs _ => [.treasury, accs.destination.key]
  | .deposit accs _ => [accs.player.key, .player accs.player.key, .pool]
  | .withdraw accs _ => [.pool, accs.player.key, .treasury]
  | .createRoom accs id _ _ => [accs.settlementAuthority.key, .room id, .roomVault id]
  | .joinRoom accs => [accs.player.key, .roomPlayer accs.room.key accs.player.key]
  | .enterRoom accs =>
      [accs.player.key, .roomPlayer accs.room.key accs.player.key, vaultOf accs.room.key]
  | .lockEntryFee accs => [.pool, vaultOf accs.room.key]
  | .startRoom _ | .unlockPrize _ | .cancelRoom _ => []
  | .distributeWinnings accs _ =>
      [vaultOf accs.room.key, .pool] ++ (s.config.map Config.feeDestination).toList
  | .settleToWinner accs =>
      [vaultOf accs.room.key, accs.winner.key] ++ (s.config.map Config.feeDestination).toList
  | .claimRefund accs => [vaultOf accs.room.key, .pool]
  | .closeRoom accs =>
      [vaultOf accs.room.key, accs.room.key] ++
        (s.config.map Config.settlementAuthority).toList
  | .closeRoomPlayer accs => [.roomPlayer accs.room.key accs.player.key, accs.player.key]

/-- The player accounts an instruction can write. -/
def Instruction.WritesPlayer (s : State) (o : Pubkey) : Instruction → Prop
  | .deposit accs _ => o = accs.player.key
  | .withdraw accs _ => o = accs.player.key
  | .joinRoom accs => o = accs.player.key
  | .lockEntryFee accs => o = accs.player.key
  | .claimRefund accs => o = accs.player.key
  | .distributeWinnings accs _ =>
      ∃ rp, s.roomPlayers.get (accs.room.key, o) = some rp ∧ rp.state = .locked
  | _ => False

section Frame
variable {rt : Runtime} {now : ℤ} {s : State} {i : Instruction} {t : Tx}

/-- Every move is between two of the instruction's addresses. -/
theorem Effect.endpoints (h : Effect rt now s i t) {m : Move Pubkey} (hm : m ∈ t.moves) :
    m.source ∈ i.lamportAccounts s ∧ m.dest ∈ i.lamportAccounts s := by
  cases h with
  | initializeProgram =>
      simp only [List.append_assoc, List.mem_append, List.mem_singleton] at hm
      rcases hm with rfl | hm | hm
      · simp [Instruction.lamportAccounts]
      · rw [mem_payment hm]; simp [Instruction.lamportAccounts]
      · rw [mem_payment hm]; simp [Instruction.lamportAccounts]
  | config => simp at hm
  | withdrawTreasury => rw [mem_payment hm]; simp [Instruction.lamportAccounts]
  | deposit _ _ _ _ hms =>
      rcases List.mem_append.mp hm with hm | hm
      · rw [(hms m hm).1, (hms m hm).2]; simp [Instruction.lamportAccounts]
      · rw [List.mem_singleton.mp hm]; simp [Instruction.lamportAccounts]
  | withdraw =>
      rcases List.mem_append.mp hm with hm | hm
      · rw [mem_payment hm]; simp [Instruction.lamportAccounts]
      · rw [mem_payment hm]; simp [Instruction.lamportAccounts]
  | createRoom _ _ _ hsa =>
      rcases List.mem_append.mp hm with hm | hm
      · rw [List.mem_singleton.mp hm]; simp [Instruction.lamportAccounts, hsa]
      · rw [mem_payment hm]; simp [Instruction.lamportAccounts, hsa]
  | joinRoom _ _ _ hkey =>
      rw [List.mem_singleton.mp hm]; simp [Instruction.lamportAccounts, hkey]
  | lockEntryFee _ _ _ hkey =>
      rw [mem_payment hm]; simp [Instruction.lamportAccounts, hkey, vaultOf]
  | enterRoom _ _ _ hkey =>
      simp only [List.mem_cons, List.not_mem_nil, or_false] at hm
      rcases hm with rfl | rfl
      · simp [Instruction.lamportAccounts, hkey]
      · simp [Instruction.lamportAccounts, hkey, vaultOf]
  | startRoom => simp at hm
  | unlockPrize => simp at hm
  | distributeWinnings hc _ hkey =>
      rcases List.mem_append.mp hm with hm | hm
      · rw [mem_payment hm]; simp [Instruction.lamportAccounts, hkey, vaultOf]
      · rw [mem_payment hm]; simp [Instruction.lamportAccounts, hkey, vaultOf, hc]
  | settleToWinner hc _ hkey =>
      rcases List.mem_append.mp hm with hm | hm
      · rw [mem_payment hm]; simp [Instruction.lamportAccounts, hkey, vaultOf]
      · rw [mem_payment hm]; simp [Instruction.lamportAccounts, hkey, vaultOf, hc]
  | cancelRoom => simp at hm
  | claimRefund _ hkey =>
      rw [mem_payment hm]; simp [Instruction.lamportAccounts, hkey, vaultOf]
  | closeRoom hc _ hkey =>
      simp only [List.mem_cons, List.not_mem_nil, or_false] at hm
      rcases hm with rfl | rfl
      · simp [Instruction.lamportAccounts, hkey, vaultOf, hc]
      · simp [Instruction.lamportAccounts, hkey, vaultOf, hc]
  | closeRoomPlayer _ hkey =>
      rw [List.mem_singleton.mp hm]; simp [Instruction.lamportAccounts, hkey]

theorem Effect.frame_lamports (h : Effect rt now s i t) {a : Pubkey}
    (ha : a ∉ i.lamportAccounts s) : t.state.lamports a = s.lamports a :=
  h.moved.same (fun _ hm e => ha (e ▸ (h.endpoints hm).1)) fun _ hm e =>
    ha (e ▸ (h.endpoints hm).2)

theorem Effect.frame_players (h : Effect rt now s i t) {o : Pubkey}
    (ho : ¬ i.WritesPlayer s o) : t.state.players.get o = s.players.get o := by
  cases h with
  | deposit => exact Table.get_upd_other ho
  | withdraw => exact Table.get_upd_other ho
  | joinRoom => exact Table.get_upd_other ho
  | lockEntryFee => exact Table.get_upd_other ho
  | claimRefund => exact Table.get_upd_other ho
  | distributeWinnings _ _ hkey _ _ _ _ hnodup _ hcr =>
      refine hcr.player_frame fun hmem => ho ?_
      obtain ⟨⟨w, n⟩, hw, rfl⟩ := List.mem_map.mp hmem
      obtain ⟨rp, p, hrp, -, -, hlocked, -⟩ := hcr.winner hnodup hw
      exact ⟨rp, by rw [hkey]; exact hrp, hlocked⟩
  | _ => rfl

end Frame

/-! ### Debits of a player -/

/-- The two instructions that lower the balance of `o`, signed by `o`, and by how much. -/
inductive PlayerDebit (s : State) (o : Pubkey) (p p' : PlayerAccount) : Instruction → Prop where
  | withdraw {accs : Withdraw} {n : ℕ} (ho : accs.player.key = o)
      (hsig : accs.player.isSigner = true) (hn : p.balance = p'.balance + n) :
      PlayerDebit s o p p' (.withdraw accs n)
  | lockEntryFee {accs : LockEntryFee} {r : Room} (ho : accs.player.key = o)
      (hsig : accs.player.isSigner = true) (hkey : accs.room.key = .room r.roomId)
      (hr : s.rooms.get r.roomId = some r) (hn : p.balance = p'.balance + r.entryFee) :
      PlayerDebit s o p p' (.lockEntryFee accs)

/-- A player account stays, and its balance falls only by a debit. -/
theorem Effect.debits {rt : Runtime} {now : ℤ} {s : State} {i : Instruction} {t : Tx}
    (h : Effect rt now s i t) (hsig : ∀ a ∈ i.signers, a.isSigner = true) {o : Pubkey}
    {p : PlayerAccount} (hp : s.players.get o = some p) :
    ∃ p', t.state.players.get o = some p' ∧
      (p.balance ≤ p'.balance ∨ PlayerDebit s o p p' i) := by
  by_cases ho : i.WritesPlayer s o
  case neg => exact ⟨p, (h.frame_players ho).trans hp, .inl (Nat.le_refl _)⟩
  cases h with
  | deposit _ _ _ hp' =>
      obtain rfl : o = _ := ho
      rcases hp' with hp' | ⟨hp', -⟩
      · obtain rfl := Option.some.inj (hp.symm.trans hp')
        exact ⟨_, Table.get_upd_same _ _ _, .inl (Nat.le_add_right _ _)⟩
      · cases hp.symm.trans hp'
  | withdraw _ _ hp' hbal =>
      obtain rfl : o = _ := ho
      obtain rfl := Option.some.inj (hp.symm.trans hp')
      exact ⟨_, Table.get_upd_same _ _ _,
        .inr (.withdraw rfl (hsig _ (by simp [Instruction.signers]))
          (Nat.sub_add_cancel hbal).symm)⟩
  | joinRoom _ _ _ _ _ _ hp' =>
      obtain rfl : o = _ := ho
      obtain rfl := Option.some.inj (hp.symm.trans hp')
      exact ⟨_, Table.get_upd_same _ _ _, .inl (Nat.le_refl _)⟩
  | lockEntryFee _ _ hr hkey _ _ hp' _ _ hbal =>
      obtain rfl : o = _ := ho
      obtain rfl := Option.some.inj (hp.symm.trans hp')
      exact ⟨_, Table.get_upd_same _ _ _, .inr (.lockEntryFee rfl
        (hsig _ (by simp [Instruction.signers])) hkey hr (Nat.sub_add_cancel hbal).symm)⟩
  | claimRefund _ _ _ hp' =>
      obtain rfl : o = _ := ho
      obtain rfl := Option.some.inj (hp.symm.trans hp')
      exact ⟨_, Table.get_upd_same _ _ _, .inl (Nat.le_add_right _ _)⟩
  | @distributeWinnings _ _ _ _ ws _ _ _ _ _ _ _ _ _ hnodup _ hcr =>
      by_cases hmem : o ∈ ws.map Prod.fst
      · obtain ⟨⟨w, n⟩, hw, rfl⟩ := List.mem_map.mp hmem
        obtain ⟨rp, p', -, -, -, -, -, hp', hp''⟩ := hcr.winner hnodup hw
        obtain rfl := Option.some.inj (hp.symm.trans hp')
        exact ⟨_, hp'', .inl (Nat.le_add_right _ _)⟩
      · exact ⟨p, (hcr.player_frame hmem).trans hp, .inl (Nat.le_refl _)⟩
  | config => exact ⟨p, hp, .inl (Nat.le_refl _)⟩
  | _ => exact ho.elim

/-! ### Debits of a room vault -/

/-- The four instructions that take lamports out of the vault of `id`, with what each takes,
for whom and on whose word. -/
inductive VaultDebit (rt : Runtime) (s : State) (t : Tx) (id : RoomId) : Instruction → Prop where
  | claimRefund {accs : ClaimRefund} {r : Room} {rp : RoomPlayer} {p : PlayerAccount}
      (hkey : accs.room.key = .room id) (hr : s.rooms.get id = some r)
      (hst : r.status = .cancelled)
      (hrp : s.roomPlayers.get (.room id, accs.player.key) = some rp)
      (hlocked : rp.state = .locked)
      (hrp' : t.state.roomPlayers =
        s.roomPlayers.upd (.room id, accs.player.key) { rp with state := .refunded })
      (hp : s.players.get accs.player.key = some p)
      (hp' : ∃ p', t.state.players.get accs.player.key = some p' ∧
        p'.balance = p.balance + rp.lockedAmount)
      (hm : t.moves = payment (.roomVault id) .pool rp.lockedAmount) :
      VaultDebit rt s t id (.claimRefund accs)
  | distributeWinnings {accs : DistributeWinnings} {payouts : List ℕ} {c : Config} {r : Room}
      (hkey : accs.room.key = .room id) (hc : s.config = some c) (hr : s.rooms.get id = some r)
      (hsa : accs.settlementAuthority.key = c.settlementAuthority)
      (hsig : accs.settlementAuthority.isSigner = true)
      (hwinners : ∃ ws : List (Pubkey × ℕ), ws.map Prod.snd = payouts ∧
        payouts.sum = r.prizePool ∧
        (∀ w n, (w, n) ∈ ws → ∃ rp p p',
          s.roomPlayers.get (.room id, w) = some rp ∧ rp.state = .locked ∧
          s.players.get w = some p ∧ t.state.players.get w = some p' ∧
          p'.balance = p.balance + n) ∧
        ∀ o, o ∉ ws.map Prod.fst → t.state.players.get o = s.players.get o)
      (hm : t.moves = payment (.roomVault id) .pool r.prizePool ++
        payment (.roomVault id) c.feeDestination r.rakeAmount) :
      VaultDebit rt s t id (.distributeWinnings accs payouts)
  | settleToWinner {accs : SettleToWinner} {c : Config} {r : Room} {rp : RoomPlayer}
      (hkey : accs.room.key = .room id) (hc : s.config = some c) (hr : s.rooms.get id = some r)
      (hsa : accs.settlementAuthority.key = c.settlementAuthority)
      (hsig : accs.settlementAuthority.isSigner = true)
      (hrp : s.roomPlayers.get (.room id, accs.winner.key) = some rp)
      (hlocked : rp.state = .locked)
      (hm : t.moves = payment (.roomVault id) accs.winner.key r.prizePool ++
        payment (.roomVault id) c.feeDestination r.rakeAmount) :
      VaultDebit rt s t id (.settleToWinner accs)
  | closeRoom {accs : CloseRoom} {r : Room} (hkey : accs.room.key = .room id)
      (hr : s.rooms.get id = some r) (hfin : r.status = .settled ∨ r.status = .cancelled)
      (hfloor : s.lamports (.roomVault id) ≤ rt.minimumBalance 0) :
      VaultDebit rt s t id (.closeRoom accs)

theorem Effect.vault_debit {rt : Runtime} {now : ℤ} {s : State} {i : Instruction} {t : Tx}
    (h : Effect rt now s i t) (hsig : ∀ a ∈ i.signers, a.isSigner = true) {id : RoomId}
    (hi : i.PaysFrom id) : VaultDebit rt s t id i := by
  cases h with
  | @claimRefund _ r _ _ _ hr hkey hrp hp hst hlocked =>
      obtain rfl : id = r.roomId := Pubkey.room.inj (hi.symm.trans hkey)
      exact .claimRefund hkey hr hst hrp hlocked rfl hp ⟨_, Table.get_upd_same _ _ _, rfl⟩ rfl
  | @distributeWinnings _ _ _ r ws _ _ hc hr hkey hsa _ _ hsnd hnodup hsum hcr =>
      obtain rfl : id = r.roomId := Pubkey.room.inj (hi.symm.trans hkey)
      refine .distributeWinnings hkey hc hr hsa (hsig _ (by simp [Instruction.signers]))
        ⟨ws, hsnd, hsum, fun w n hw => ?_, fun o ho => hcr.player_frame ho⟩ rfl
      obtain ⟨rp, p, hrp, -, -, hlocked, -, hp, hp'⟩ := hcr.winner hnodup hw
      exact ⟨rp, p, _, hrp, hlocked, hp, hp', rfl⟩
  | @settleToWinner _ _ r _ _ hc hr hkey hsa _ hrp _ _ hlocked =>
      obtain rfl : id = r.roomId := Pubkey.room.inj (hi.symm.trans hkey)
      exact .settleToWinner hkey hc hr hsa (hsig _ (by simp [Instruction.signers])) hrp hlocked rfl
  | @closeRoom _ _ r _ _ _ hr hkey hfin hfloor =>
      obtain rfl : id = r.roomId := Pubkey.room.inj (hi.symm.trans hkey)
      exact .closeRoom hkey hr hfin hfloor
  | config _ _ _ _ hcases =>
      rcases hcases with ⟨_, _, _, _, _, _, rfl⟩ | ⟨_, _, rfl⟩ | ⟨_, rfl⟩ <;> exact hi.elim
  | _ => exact hi.elim

/-- **Authority over money.**  Whatever the state an instruction succeeds in: a player account
is never removed, and its balance falls only in a withdrawal or an entry fee its owner signed,
by exactly that amount; lamports leave a room vault only in a refund, a settlement or a close,
each as `VaultDebit` says; and no other lamports and no other player account change. -/
theorem authority_over_money {rt : Runtime} {now : ℤ} {s : State} {i : Instruction} {t : Tx}
    (h : exec rt now s i = .ok t) :
    (∀ o p, s.players.get o = some p → ∃ p', t.state.players.get o = some p' ∧
      (p'.balance < p.balance → PlayerDebit s o p p' i)) ∧
      (∀ id, (t.state.lamports (.roomVault id) < s.lamports (.roomVault id) ∨
        ∃ m ∈ t.moves, m.source = .roomVault id) → VaultDebit rt s t id i) ∧
      (∀ a, a ∉ i.lamportAccounts s → t.state.lamports a = s.lamports a) ∧
      ∀ o, ¬ i.WritesPlayer s o → t.state.players.get o = s.players.get o := by
  have hf := exec_effect h
  have hsig := exec_signed h
  refine ⟨fun o p hp => ?_, fun id hid => ?_, fun a ha => hf.frame_lamports ha,
    fun o ho => hf.frame_players ho⟩
  · obtain ⟨p', hp', hle | hd⟩ := hf.debits hsig hp
    · exact ⟨p', hp', fun hlt => absurd hle (Nat.not_le.mpr hlt)⟩
    · exact ⟨p', hp', fun _ => hd⟩
  · refine hf.vault_debit hsig ?_
    rcases hid with hlt | ⟨m, hm, hs⟩
    · by_contra hi
      exact absurd (hf.vault_le hi) (Nat.not_le.mpr hlt)
    · exact hf.vault_source hm hs

/-- A distribution between two players, as a debit of their room's vault. -/
theorem authority_over_money_distribution : ∃ s t, Reached .validator s ∧
    exec .validator 9 s (Call.distributeWinnings (.key 2) (.key 3) (.ofByte 7)
      [(.key 4, 1000000), (.key 5, 900000)]) = .ok t ∧
    VaultDebit .validator s t (.ofByte 7) (Call.distributeWinnings (.key 2) (.key 3) (.ofByte 7)
      [(.key 4, 1000000), (.key 5, 900000)]) := by
  have run : (execAll .validator .funded
      [(0, Call.initializeProgram (.key 1) (.key 2) (.key 3) 500 50),
        (1, Call.deposit (.key 4) 5000000), (1, Call.deposit (.key 5) 5000000),
        (2, Call.createRoom (.key 2) (.ofByte 7) 1000000 4),
        (3, Call.joinRoom (.key 4) (.ofByte 7)), (3, Call.joinRoom (.key 5) (.ofByte 7)),
        (4, Call.lockEntryFee (.key 4) (.ofByte 7)), (4, Call.lockEntryFee (.key 5) (.ofByte 7)),
        (6, Call.startRoom (.key 2) (.ofByte 7)),
        (7, Call.unlockPrize (.key 2) (.ofByte 7))]).passes (fun s =>
      (exec .validator 9 s (Call.distributeWinnings (.key 2) (.key 3) (.ofByte 7)
        [(.key 4, 1000000), (.key 5, 900000)])).passes fun t => decide
          (t.state.lamports (.roomVault (.ofByte 7)) < s.lamports (.roomVault (.ofByte 7)))) =
      true := by
    decide
  obtain ⟨s, hs, htest⟩ := Result.passes_iff.mp run
  obtain ⟨t, ht, hlt⟩ := Result.passes_iff.mp htest
  exact ⟨s, t, reached_of_execAll hs, ht,
    (authority_over_money ht).2.1 _ (.inl (of_decide_eq_true hlt))⟩

end SnakeArena.Program
