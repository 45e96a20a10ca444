import SnakeArena.Program.Errors
import SnakeArena.Program.Placeholders
import SnakeArena.Program.Refunds

/-!
# Program — the calls of a settlement

A worker settles a room with three calls, one after the other: `start_room`, `unlock_prize` and
`settle_to_winner`.  While the stake of the winner is locked in the room (`Ready`), each of them
succeeds at its own status of the room, and leaves the next one's: open or in progress
(`Startable`), in progress (`Started`), unlocked (`Unlocked`).  The first two move no lamports, and
the third pays the winner and the fee, once (`PaidOnce`).
-/

namespace SnakeArena.Program
open SnakeArena.Library

section Succeeds
variable {rt : Runtime} {s : State} {id : RoomId} {r : Room} {c : Config} {w : Pubkey}
  {rp : RoomPlayer}

/-- A room that is started already says so. -/
theorem startRoom_started (h : Reached rt s) (now : ℤ) (hr : s.rooms.get id = some r)
    (hst : r.status = .inProgress) (hc : s.config = some c)
    (hsa : c.settlementAuthority.CanSign) :
    exec rt now s (Call.startRoom c.settlementAuthority id) = .error (.arena .roomNotOpen) := by
  obtain rfl : r.roomId = id := (h.wellFormed.rooms _ _ hr).1
  have hload : loadConfig s .config = .ok c := loadConfig_eq_ok.mpr ⟨rfl, hc⟩
  have hroom : loadRoom s (.room r.roomId) = .ok r := loadRoom_eq_ok.mpr ⟨_, rfl, hr⟩
  rw [exec, bind_eq_error]
  refine .inl ?_
  simp only [handle, Call.startRoom, startRoom, AccountInfo.full_key, hload, hroom]
  simp [seeds, mutable, signer, require, hsa, hst, bind, Except.bind]

/-- The prize of a room in progress can be unlocked. -/
theorem unlockPrize_succeeds (h : Reached rt s) (now : ℤ) (hr : s.rooms.get id = some r)
    (hst : r.status = .inProgress) (hc : s.config = some c)
    (hsa : c.settlementAuthority.CanSign) :
    ∃ t, exec rt now s (Call.unlockPrize c.settlementAuthority id) = .ok t := by
  have hw := h.wellFormed
  obtain ⟨rfl, hfee⟩ := hw.rooms _ _ hr
  have hvault := (h.escrowed _ _ hr fun e => by cases hst.symm.trans e).1
  have hmax := hw.supply.get (.roomVault r.roomId)
  have hbps : r.feeBps ≤ bpsDenominator := hfee.trans (by decide)
  have hrake := applyBps_of_le (show r.totalLocked ≤ u64Max by omega) hbps
  refine ⟨_, exec_ok (t := (Tx.start s).setRoom r.roomId
    { r with
      rakeAmount := r.totalLocked * r.feeBps / bpsDenominator
      prizePool := r.totalLocked - r.totalLocked * r.feeBps / bpsDenominator
      status := .unlocked
      unlockedAt := now }) ?_ rfl⟩
  simp only [handle, Call.unlockPrize, unlockPrize, bind_eq_ok, loadConfig_eq_ok, loadRoom_eq_ok,
    seeds_eq_ok, require_eq_ok, mutable_eq_ok, signer_eq_ok, sub_eq_ok, AccountInfo.full_key,
    AccountInfo.full_isWritable, AccountInfo.full_isSigner]
  exact ⟨c, ⟨trivial, hc⟩, (), trivial, r, ⟨_, rfl, hr⟩, (), trivial, (), rfl, (),
    require_eq_ok.mpr rfl, (), hsa, (), hst, _, hrake, _, ⟨bps_le hbps, rfl⟩, rfl⟩

/-- An unlocked prize can be paid to a player whose stake is in the room. -/
theorem settleToWinner_succeeds (h : Reached rt s) (now : ℤ) (hr : s.rooms.get id = some r)
    (hst : r.status = .unlocked) (hc : s.config = some c) (hsa : c.settlementAuthority.CanSign)
    (hrp : s.roomPlayers.get (.room id, w) = some rp) (hlocked : rp.state = .locked)
    (hfd : c.feeDestination ≠ .roomVault id) :
    ∃ t, exec rt now s (Call.settleToWinner c.settlementAuthority c.feeDestination w id)
      = .ok t := by
  have hw := h.wellFormed
  obtain rfl := (hw.rooms _ _ hr).1
  obtain ⟨-, hplayer, hcan⟩ := hw.record hrp
  obtain ⟨hvault, hsplit⟩ := h.escrowed _ _ hr fun e => by cases hst.symm.trans e
  replace hsplit := hsplit hst
  have hne : w ≠ .roomVault r.roomId := hcan.ne trivial
  obtain ⟨t₁, h₁⟩ : ∃ t, transferFromVault rt (.start s) (.roomVault r.roomId) w r.prizePool
      = .ok t :=
    transferFromVault_ok hne.symm (by show _ ≤ s.lamports _; omega) hw.supply
  obtain ⟨⟨l₁, m₁, ht₁⟩, -⟩ := transferFromVault_eq_ok h₁
  have hlamports : t₁.state.lamports = l₁ := by rw [ht₁]
  have hleft : l₁ (.roomVault r.roomId) + r.prizePool = s.lamports (.roomVault r.roomId) := by
    have e := m₁.balance (.roomVault r.roomId)
    simp only [inflow_payment, outflow_payment, hne, ↓reduceIte, Nat.add_zero] at e
    exact e
  obtain ⟨t₂, h₂⟩ : ∃ t, transferFromVault rt t₁ (.roomVault r.roomId) c.feeDestination r.rakeAmount
      = .ok t :=
    transferFromVault_ok hfd.symm (by rw [hlamports]; omega) (hlamports ▸ m₁.bounded hw.supply)
  have hd : t₂.debits = [] := by
    obtain ⟨⟨l₂, -, rfl⟩, -⟩ := transferFromVault_eq_ok h₂
    rw [ht₁]
    rfl
  refine ⟨_, exec_ok (t := (t₂.setRoomPlayer (.room r.roomId) w
    { rp with payout := r.prizePool, state := .paid }).setRoom r.roomId
    { r with distributed := r.prizePool, winnersPaid := 1, status := .settled, settledAt := now })
    ?_ hd⟩
  simp only [handle, Call.settleToWinner, settleToWinner, bind_eq_ok, loadConfig_eq_ok,
    loadRoom_eq_ok, loadRoomPlayer_eq_ok, seeds_eq_ok, require_eq_ok, mutable_eq_ok, signer_eq_ok,
    system_eq_ok, AccountInfo.full_key, AccountInfo.full_isWritable, AccountInfo.full_isSigner]
  exact ⟨c, ⟨trivial, hc⟩, (), trivial, r, ⟨_, rfl, hr⟩, (), trivial, (), rfl, (), trivial, (), rfl,
    rp, ⟨_, _, rfl, hrp⟩, (), trivial, (), trivial, (), require_eq_ok.mpr hplayer, (), trivial, (),
    trivial, (), require_eq_ok.mpr rfl, (), require_eq_ok.mpr rfl, (), hsa, (), trivial, (), hst,
    (), hlocked, _, h₁, t₂, h₂, rfl⟩

end Succeeds

/-! ### From the start to the payment -/

/-- What the instructions of a settlement rely on, whatever the status of the room. -/
structure Ready (rt : Runtime) (sa fd w : Pubkey) (id : RoomId) (s : State) : Prop where
  reached : Reached rt s
  config : ∃ c, s.config = some c ∧ c.settlementAuthority = sa ∧ c.feeDestination = fd
  signs : sa.CanSign
  vault : fd ≠ .roomVault id
  entry : ∃ rp, s.roomPlayers.get (.room id, w) = some rp ∧ rp.state = .locked

/-- The room has started. -/
structure Started (rt : Runtime) (sa fd w : Pubkey) (id : RoomId) (s : State) : Prop
    extends Ready rt sa fd w id s where
  room : ∃ r, s.rooms.get id = some r ∧ r.status = .inProgress

/-- It has started, or can start. -/
structure Startable (rt : Runtime) (sa fd w : Pubkey) (id : RoomId) (s : State) : Prop
    extends Ready rt sa fd w id s where
  room : ∃ r, s.rooms.get id = some r ∧ (r.status = .inProgress ∨
    r.status = .open ∧ r.lockedCount = r.playerCount ∧ minPlayersPerRoom ≤ r.lockedCount)

/-- Its prize is unlocked. -/
structure Unlocked (rt : Runtime) (sa fd w : Pubkey) (id : RoomId) (s : State) : Prop
    extends Ready rt sa fd w id s where
  room : ∃ r, s.rooms.get id = some r ∧ r.status = .unlocked

/-- From these lamports on, the room has paid its winner once, and its rake. -/
def PaidOnce (fd w : Pubkey) (id : RoomId) (lamports : Pubkey → ℕ) (s : State) : Prop :=
  ∃ r, s.rooms.get id = some r ∧ r.status = .settled ∧
    Moved lamports
      (payment (.roomVault id) w r.prizePool ++ payment (.roomVault id) fd r.rakeAmount) s.lamports

section Settling
variable {rt : Runtime} {now : ℤ} {s : State} {t : Tx} {sa fd w : Pubkey} {id : RoomId}

theorem Started.startable (h : Started rt sa fd w id s) : Startable rt sa fd w id s := by
  obtain ⟨r, hr, hst⟩ := h.room
  exact ⟨h.toReady, r, hr, .inl hst⟩

/-- A step that changes no entry. -/
theorem Ready.step (h : Ready rt sa fd w id s) {i : Instruction}
    (hexec : exec rt now s i = .ok t) (hconfig : t.state.config = s.config)
    (hentry : t.state.roomPlayers = s.roomPlayers) : Ready rt sa fd w id t.state where
  reached := h.reached.step (.exec hexec)
  config := hconfig ▸ h.config
  signs := h.signs
  vault := h.vault
  entry := hentry ▸ h.entry

/-- A room that can start starts, unless it has. -/
theorem Startable.starts (h : Startable rt sa fd w id s) (now : ℤ) :
    (∃ t, exec rt now s (Call.startRoom sa id) = .ok t) ∨
      exec rt now s (Call.startRoom sa id) = .error (.arena .roomNotOpen) ∧
        Started rt sa fd w id s := by
  obtain ⟨c, hc, rfl, -⟩ := h.config
  obtain ⟨r, hr, hst | ⟨hst, hcount, hmin⟩⟩ := h.room
  · exact .inr ⟨startRoom_started h.reached now hr hst hc h.signs, h.toReady, r, hr, hst⟩
  · exact .inl ((startRoom_iff h.reached now hr hst hc h.signs hmin).mpr hcount)

/-- Starting moves nothing. -/
theorem Ready.start (h : Ready rt sa fd w id s)
    (hexec : exec rt now s (Call.startRoom sa id) = .ok t) :
    Started rt sa fd w id t.state ∧ t.state.lamports = s.lamports ∧
      t.state.roomPlayers = s.roomPlayers := by
  have heffect := exec_effect hexec
  rw [Call.startRoom] at heffect
  cases heffect with
  | @startRoom _ c r hc hr hkey =>
      obtain rfl := Pubkey.room.inj hkey
      exact ⟨⟨h.step hexec rfl rfl, _, Table.get_upd_same _ _ _, rfl⟩, rfl, rfl⟩
  | config _ _ _ _ hcases =>
      rcases hcases with ⟨_, _, _, _, _, _, h⟩ | ⟨_, _, h⟩ | ⟨_, h⟩ <;> cases h

/-- A room that has started can be unlocked. -/
theorem Started.unlocks (h : Started rt sa fd w id s) (now : ℤ) :
    ∃ t, exec rt now s (Call.unlockPrize sa id) = .ok t := by
  obtain ⟨c, hc, rfl, -⟩ := h.config
  obtain ⟨r, hr, hst⟩ := h.room
  exact unlockPrize_succeeds h.reached now hr hst hc h.signs

/-- Nor does unlocking. -/
theorem Ready.unlock (h : Ready rt sa fd w id s)
    (hexec : exec rt now s (Call.unlockPrize sa id) = .ok t) :
    Unlocked rt sa fd w id t.state ∧ t.state.lamports = s.lamports ∧
      t.state.roomPlayers = s.roomPlayers := by
  have heffect := exec_effect hexec
  rw [Call.unlockPrize] at heffect
  cases heffect with
  | @unlockPrize _ c r rake hc hr hkey =>
      obtain rfl := Pubkey.room.inj hkey
      exact ⟨⟨h.step hexec rfl rfl, _, Table.get_upd_same _ _ _, rfl⟩, rfl, rfl⟩
  | config _ _ _ _ hcases =>
      rcases hcases with ⟨_, _, _, _, _, _, h⟩ | ⟨_, _, h⟩ | ⟨_, h⟩ <;> cases h

/-- A room that is unlocked can pay. -/
theorem Unlocked.settles (h : Unlocked rt sa fd w id s) (now : ℤ) :
    ∃ t, exec rt now s (Call.settleToWinner sa fd w id) = .ok t := by
  obtain ⟨c, hc, rfl, rfl⟩ := h.config
  obtain ⟨r, hr, hst⟩ := h.room
  obtain ⟨rp, hrp, hlocked⟩ := h.entry
  exact settleToWinner_succeeds h.reached now hr hst hc h.signs hrp hlocked h.vault

/-- The payment, from which no entry goes. -/
theorem Unlocked.settle (h : Unlocked rt sa fd w id s)
    (hexec : exec rt now s (Call.settleToWinner sa fd w id) = .ok t) :
    PaidOnce fd w id s.lamports t.state ∧ Reached rt t.state ∧
      ∀ key, s.roomPlayers.get key ≠ none → t.state.roomPlayers.get key ≠ none := by
  obtain ⟨c, hc, -, rfl⟩ := h.config
  have heffect := exec_effect hexec
  have hreached := h.reached.step (.exec hexec)
  rw [Call.settleToWinner] at heffect
  cases heffect with
  | @settleToWinner _ c' r rp l hc' hr hkey hsa hsig hrp hw hst hlocked hl =>
      obtain rfl := Option.some.inj (hc.symm.trans hc')
      obtain rfl := Pubkey.room.inj hkey
      exact ⟨⟨_, Table.get_upd_same _ _ _, rfl, hl⟩, hreached, fun _ => Table.upd_ne_none⟩
  | config _ _ _ _ hcases =>
      rcases hcases with ⟨_, _, _, _, _, _, h⟩ | ⟨_, _, h⟩ | ⟨_, h⟩ <;> cases h

/-- It is made once. -/
theorem PaidOnce.not_settle {lamports : Pubkey → ℕ} (h : PaidOnce fd w id lamports s) :
    exec rt now s (Call.settleToWinner sa fd w id) ≠ .ok t := by
  intro hexec
  have heffect := exec_effect hexec
  obtain ⟨r', hr', hst', -⟩ := h
  rw [Call.settleToWinner] at heffect
  cases heffect with
  | @settleToWinner _ c r rp l hc hr hkey hsa hsig hrp hw hst =>
      obtain rfl := Pubkey.room.inj hkey
      obtain rfl := Option.some.inj (hr.symm.trans hr')
      cases hst.symm.trans hst'
  | config _ _ _ _ hcases =>
      rcases hcases with ⟨_, _, _, _, _, _, h⟩ | ⟨_, _, h⟩ | ⟨_, h⟩ <;> cases h

end Settling

end SnakeArena.Program
