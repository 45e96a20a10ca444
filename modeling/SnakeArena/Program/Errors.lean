import SnakeArena.Program.Calls

/-!
# Program — what a call fails with

The errors that the calls of a settlement can meet, as far as their caller tests for one: which
call answers it, and what it says of the room.
-/

namespace SnakeArena.Program
open SnakeArena.Library

section Calls
variable {rt : Runtime} {now : ℤ} {s : State} {sa : Pubkey} {id : RoomId}

theorem exec_error {i : Instruction} {x : ArenaError} (h : exec rt now s i = .error (.arena x)) :
    handle rt now s i = .error (.arena x) := by
  simp only [exec, bind_eq_error, require_eq_error, reduceCtorEq, and_false, exists_false,
    or_false] at h
  exact h

/-- An account that does not load says so. -/
theorem load_arena {x : ArenaError} {a : Pubkey} :
    loadConfig s a ≠ .error (.arena x) ∧ loadRoom s a ≠ .error (.arena x) ∧
      loadRoomPlayer s a ≠ .error (.arena x) := by
  refine ⟨fun h => ?_, fun h => ?_, fun h => ?_⟩
  · obtain ⟨_, h⟩ := loadConfig_error h
    cases h
  · obtain ⟨_, h⟩ := loadRoom_error h
    cases h
  · obtain ⟨_, h⟩ := loadRoomPlayer_error h
    cases h

/-- What a settled, or an unknown, room is reported with. -/
def Settled (x : ArenaError) : Prop := x = .prizeNotUnlocked ∨ x = .roomAlreadySettled

theorem transferFromVault_not_settled {t : Tx} {v d : Pubkey} {n : ℕ} {x : ArenaError}
    (hx : Settled x) : transferFromVault rt t v d n ≠ .error (.arena x) := by
  intro h
  unfold transferFromVault at h
  split at h
  · cases h
  · simp only [bind_eq_error, require_eq_error, Tx.transfer, reduceCtorEq, and_false, exists_false,
      or_false, Error.arena.injEq] at h
    obtain ⟨-, rfl⟩ | ⟨-, -, -, rfl⟩ := h <;> obtain hx | hx := hx <;> cases hx

/-- `start_room` and `unlock_prize` never answer that a room is settled. -/
theorem startRoom_not_settled {x : ArenaError} (hx : Settled x) :
    exec rt now s (Call.startRoom sa id) ≠ .error (.arena x) := by
  intro h
  have h := exec_error h
  simp only [handle, Call.startRoom, startRoom, bind_eq_error, require_eq_error, seeds, mutable,
    signer, load_arena, false_or, reduceCtorEq, and_false, exists_false, or_false] at h
  obtain rfl | rfl := hx <;> simp at h

theorem unlockPrize_not_settled {x : ArenaError} (hx : Settled x) :
    exec rt now s (Call.unlockPrize sa id) ≠ .error (.arena x) := by
  intro h
  have h := exec_error h
  simp only [handle, Call.unlockPrize, unlockPrize, bind_eq_error, require_eq_error, seeds, mutable,
    signer, load_arena, false_or, reduceCtorEq, and_false, exists_false, or_false,
    Error.arena.injEq] at h
  obtain ⟨c, -, -, -, r, -, -, -, -, -, ⟨-, rfl⟩ | ⟨-, -, -, -, ⟨-, rfl⟩ | ⟨-, -, h⟩⟩⟩ := h
  · obtain hx | hx := hx <;> cases hx
  · obtain hx | hx := hx <;> cases hx
  · obtain h | ⟨rake, -, h⟩ := h
    · obtain rfl := Error.arena.inj (applyBps_eq_error h)
      obtain hx | hx := hx <;> cases hx
    · obtain ⟨-, h⟩ := sub_eq_error.mp h
      obtain rfl := Error.arena.inj h
      obtain hx | hx := hx <;> cases hx

/-- `settle_to_winner` answers it of a room whose prize is not unlocked. -/
theorem settleToWinner_settled {fd w : Pubkey} {x : ArenaError} (hx : Settled x)
    (h : exec rt now s (Call.settleToWinner sa fd w id) = .error (.arena x)) :
    ∃ r, s.rooms.get id = some r ∧ r.status ≠ .unlocked := by
  have h := exec_error h
  simp only [handle, Call.settleToWinner, settleToWinner, bind_eq_error, require_eq_error, seeds,
    mutable, signer, system, load_arena, false_or, reduceCtorEq, and_false, exists_false, or_false,
    Error.arena.injEq] at h
  obtain ⟨c, -, -, -, r, hr, -, -, -, hkey, -, -, -, -, rp, -, -, -, -, -,
    ⟨-, rfl⟩ | ⟨-, -, -, -, -, -,
    ⟨-, rfl⟩ | ⟨-, -, ⟨-, rfl⟩ | ⟨-, -, -, -, -, -, ⟨hst, -⟩ | ⟨-, -, ⟨-, rfl⟩ | ⟨-, -, h⟩⟩⟩⟩⟩⟩ := h
  · obtain hx | hx := hx <;> cases hx
  · obtain hx | hx := hx <;> cases hx
  · obtain hx | hx := hx <;> cases hx
  · obtain ⟨id', hid, hr⟩ := loadRoom_eq_ok.mp hr
    obtain rfl := Pubkey.room.inj hid
    exact ⟨r, hr, hst⟩
  · obtain hx | hx := hx <;> cases hx
  · obtain h | ⟨t, -, h⟩ := h
    · exact absurd h (transferFromVault_not_settled hx)
    · exact absurd h (transferFromVault_not_settled hx)

end Calls

end SnakeArena.Program
