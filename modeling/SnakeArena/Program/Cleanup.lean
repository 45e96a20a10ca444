import SnakeArena.Program.Room

/-!
# Program — reclaiming rent (`instructions/cleanup.rs`)

`close_room` takes the vault's lamports by writing the two balances, and Anchor's `close`
constraint does the same for the account itself; both are recorded in `Tx.debits`.
-/

namespace SnakeArena.Program
open SnakeArena.Library

namespace Tx

/-- The `close` constraint on a room: the address gives up its lamports and its data. -/
def closeRoomAccount (t : Tx) (id : RoomId) (dest : Pubkey) : Result Tx := do
  let t ← t.writeMove (.room id) dest
  .ok { t with state := { t.state with rooms := t.state.rooms.del id } }

/-- The `close` constraint on an entry record. -/
def closeRoomPlayerAccount (t : Tx) (r p dest : Pubkey) : Result Tx := do
  let t ← t.writeMove (.roomPlayer r p) dest
  .ok { t with state := { t.state with roomPlayers := t.state.roomPlayers.del (r, p) } }

end Tx

/-! ### close_room -/

structure CloseRoom where
  config : AccountInfo
  room : AccountInfo
  roomVault : AccountInfo
  settlementAuthority : AccountInfo

/-- Closes a finished room and returns its rent to the settlement authority. -/
def closeRoom (rt : Runtime) (accs : CloseRoom) (s : State) : Result Tx := do
  let config ← loadConfig s accs.config.key
  seeds accs.config .config
  let room ← loadRoom s accs.room.key
  mutable accs.room
  seeds accs.room (.room room.roomId)
  require (accs.room.key ≠ accs.settlementAuthority.key) (.anchor .constraintClose)
  mutable accs.roomVault
  seeds accs.roomVault (.roomVault room.roomId)
  mutable accs.settlementAuthority
  require (accs.settlementAuthority.key = config.settlementAuthority)
    (.arena .unauthorizedSettlement)
  require (room.status = .settled ∨ room.status = .cancelled) (.arena .roomNotFinished)
  -- the vault must hold nothing but its own deposit
  require (s.lamports accs.roomVault.key ≤ rt.minimumBalance 0) (.arena .insufficientVaultFunds)
  let t ← (Tx.start s).writeMove accs.roomVault.key accs.settlementAuthority.key
  t.closeRoomAccount room.roomId accs.settlementAuthority.key

/-! ### close_room_player -/

structure CloseRoomPlayer where
  room : AccountInfo
  roomPlayer : AccountInfo
  player : AccountInfo

/-- Closes a settled player's entry record, returning their own rent. -/
def closeRoomPlayer (accs : CloseRoomPlayer) (s : State) : Result Tx := do
  let room ← loadRoom s accs.room.key
  seeds accs.room (.room room.roomId)
  let rp ← loadRoomPlayer s accs.roomPlayer.key
  mutable accs.roomPlayer
  seeds accs.roomPlayer (.roomPlayer accs.room.key accs.player.key)
  require (rp.player = accs.player.key) (.arena .playerOwnerMismatch)
  require (accs.roomPlayer.key ≠ accs.player.key) (.anchor .constraintClose)
  mutable accs.player
  require (rp.state = .paid ∨ rp.state = .refunded) (.arena .playerNotFinished)
  require (room.status = .settled ∨ room.status = .cancelled) (.arena .roomNotFinished)
  (Tx.start s).closeRoomPlayerAccount accs.room.key accs.player.key accs.player.key

/-! ### What each does when it succeeds -/

section Ok
variable {rt : Runtime} {s : State} {t : Tx}

theorem writeMove_eq_ok {t t' : Tx} {a d : Pubkey} (h : t.writeMove a d = .ok t') :
    ∃ l, Moved t.state.lamports [⟨a, d, t.state.lamports a⟩] l ∧
      t' = ⟨{ t.state with lamports := l }, t.moves ++ [⟨a, d, t.state.lamports a⟩],
        t.debits ++ [a]⟩ := by
  simp only [Tx.writeMove, bind_eq_ok, require_eq_ok, Except.ok.injEq] at h
  obtain ⟨-, -, rfl⟩ := h
  exact ⟨_, Moved.snoc (.nil _) _ (Nat.le_refl _), rfl⟩

/-- The vault and the room give their lamports to the authority; the room is gone. -/
theorem closeRoom_eq_ok {accs : CloseRoom} (h : closeRoom rt accs s = .ok t) :
    ∃ c r n l, s.config = some c ∧ s.rooms.get r.roomId = some r ∧
      accs.room.key = .room r.roomId ∧ (r.status = .settled ∨ r.status = .cancelled) ∧
      s.lamports (.roomVault r.roomId) ≤ rt.minimumBalance 0 ∧
      Moved s.lamports
        [⟨.roomVault r.roomId, c.settlementAuthority, s.lamports (.roomVault r.roomId)⟩,
          ⟨.room r.roomId, c.settlementAuthority, n⟩] l ∧
      t = ⟨{ s with lamports := l, rooms := s.rooms.del r.roomId },
        [⟨.roomVault r.roomId, c.settlementAuthority, s.lamports (.roomVault r.roomId)⟩,
          ⟨.room r.roomId, c.settlementAuthority, n⟩],
        [.roomVault r.roomId, .room r.roomId]⟩ := by
  simp only [closeRoom, bind_eq_ok, loadConfig_eq_ok, loadRoom_eq_ok, seeds_eq_ok,
    require_eq_ok, mutable_eq_ok, Tx.closeRoomAccount, Except.ok.injEq] at h
  obtain ⟨c, ⟨-, hc⟩, -, -, r, ⟨id, hid, hr⟩, -, -, -, hkey, -, -, -, -, -, hv, -, -, -, hsa, -,
    hfin, -, hfloor, t₁, h₁, t₂, h₂, rfl⟩ := h
  obtain ⟨hrk, hr⟩ := room_of_seeds hid hr hkey
  rw [hv] at h₁ hfloor
  rw [hsa] at h₁ h₂
  obtain ⟨l₁, m₁, rfl⟩ := writeMove_eq_ok h₁
  obtain ⟨l₂, m₂, rfl⟩ := writeMove_eq_ok h₂
  exact ⟨c, r, _, l₂, hc, hr, hrk, hfin, hfloor, m₁.append m₂, rfl⟩

theorem closeRoomPlayer_eq_ok {accs : CloseRoomPlayer} (h : closeRoomPlayer accs s = .ok t) :
    ∃ r rp n l, s.rooms.get r.roomId = some r ∧ accs.room.key = .room r.roomId ∧
      s.roomPlayers.get (.room r.roomId, accs.player.key) = some rp ∧
      rp.player = accs.player.key ∧ (rp.state = .paid ∨ rp.state = .refunded) ∧
      (r.status = .settled ∨ r.status = .cancelled) ∧
      Moved s.lamports
        [⟨.roomPlayer (.room r.roomId) accs.player.key, accs.player.key, n⟩] l ∧
      t = ⟨{ s with
              lamports := l
              roomPlayers := s.roomPlayers.del (.room r.roomId, accs.player.key) },
        [⟨.roomPlayer (.room r.roomId) accs.player.key, accs.player.key, n⟩],
        [.roomPlayer (.room r.roomId) accs.player.key]⟩ := by
  simp only [closeRoomPlayer, bind_eq_ok, loadRoom_eq_ok, loadRoomPlayer_eq_ok, seeds_eq_ok,
    require_eq_ok, mutable_eq_ok, Tx.closeRoomPlayerAccount, Except.ok.injEq] at h
  obtain ⟨r, ⟨id, hid, hr⟩, -, hkey, rp, ⟨a, b, hab, hrp⟩, -, -, -, hrpk, -, hpl, -,
    -, -, -, -, hst,
    -, hfin, t₁, h₁, rfl⟩ := h
  obtain ⟨hrk, hr⟩ := room_of_seeds hid hr hkey
  obtain ⟨rfl, rfl⟩ := Pubkey.roomPlayer.inj (hab.symm.trans hrpk)
  rw [hrk] at h₁ hrp
  obtain ⟨l, hl, rfl⟩ := writeMove_eq_ok h₁
  exact ⟨r, rp, _, l, hr, hrk, hrp, hpl, hst, hfin, hl, by simp [Tx.start, hrk]⟩

end Ok

end SnakeArena.Program
