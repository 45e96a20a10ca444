import SnakeArena.Program.Calls

/-!
# Program — one room

What an instruction does to one existing room and to the entry records at its address.
`RoomChange` has one constructor for each instruction that can act on a room, and one for every
instruction that acts on another; `Effect.room_change` derives it once.  Everything about the
life of a room — its statuses, its records, its counters — is a case analysis on it.
-/

namespace SnakeArena.Program
open SnakeArena.Library

/-- The instruction names the room `id`. -/
def Instruction.ActsOn (id : RoomId) : Instruction → Prop
  | .createRoom _ id' _ _ => id' = id
  | .joinRoom accs => accs.room.key = .room id
  | .enterRoom accs => accs.room.key = .room id
  | .lockEntryFee accs => accs.room.key = .room id
  | .startRoom accs => accs.room.key = .room id
  | .unlockPrize accs => accs.room.key = .room id
  | .distributeWinnings accs _ => accs.room.key = .room id
  | .settleToWinner accs => accs.room.key = .room id
  | .cancelRoom accs => accs.room.key = .room id
  | .claimRefund accs => accs.room.key = .room id
  | .closeRoom accs => accs.room.key = .room id
  | .closeRoomPlayer accs => accs.room.key = .room id
  | _ => False

/-- It closes the room. -/
def Instruction.Closes (id : RoomId) : Instruction → Prop
  | .closeRoom accs => accs.room.key = .room id
  | _ => False

/-- What an instruction that does not close the room does to it: the room before, the
instruction, the entry records after, and the room after. -/
inductive RoomChange (s : State) (id : RoomId) (r : Room) :
    Instruction → Table (Pubkey × Pubkey) RoomPlayer → Room → Prop where
  | other {i rps} (hi : ¬ i.ActsOn id)
      (hrps : ∀ p, rps.get (.room id, p) = s.roomPlayers.get (.room id, p)) :
      RoomChange s id r i rps r
  | joinRoom {accs rp} (hkey : accs.room.key = .room id) (hopen : r.status = .open)
      (hfull : r.playerCount < r.maxPlayers)
      (hnone : s.roomPlayers.get (.room id, accs.player.key) = none) (hst : rp.state = .joined) :
      RoomChange s id r (.joinRoom accs)
        (s.roomPlayers.upd (.room id, accs.player.key) rp)
        { r with playerCount := r.playerCount + 1 }
  | lockEntryFee {accs rp} (hkey : accs.room.key = .room id) (hopen : r.status = .open)
      (hrp : s.roomPlayers.get (.room id, accs.player.key) = some rp)
      (hjoined : rp.state = .joined) :
      RoomChange s id r (.lockEntryFee accs)
        (s.roomPlayers.upd (.room id, accs.player.key)
          { rp with lockedAmount := r.entryFee, state := .locked })
        { r with totalLocked := r.totalLocked + r.entryFee, lockedCount := r.lockedCount + 1 }
  | enterRoom {accs rp} (hkey : accs.room.key = .room id) (hopen : r.status = .open)
      (hfull : r.playerCount < r.maxPlayers)
      (hnone : s.roomPlayers.get (.room id, accs.player.key) = none) (hst : rp.state = .locked)
      (hamount : rp.lockedAmount = r.entryFee) :
      RoomChange s id r (.enterRoom accs)
        (s.roomPlayers.upd (.room id, accs.player.key) rp)
        { r with
          playerCount := r.playerCount + 1, lockedCount := r.lockedCount + 1
          totalLocked := r.totalLocked + r.entryFee }
  | startRoom {accs} (hkey : accs.room.key = .room id) (hopen : r.status = .open)
      (hcount : r.lockedCount = r.playerCount) (hmin : minPlayersPerRoom ≤ r.lockedCount) :
      RoomChange s id r (.startRoom accs) s.roomPlayers { r with status := .inProgress }
  | unlockPrize {accs rake at'} (hkey : accs.room.key = .room id) (hst : r.status = .inProgress)
      (hle : rake ≤ r.totalLocked) :
      RoomChange s id r (.unlockPrize accs) s.roomPlayers
        { r with
          rakeAmount := rake, prizePool := r.totalLocked - rake, status := .unlocked
          unlockedAt := at' }
  | distributeWinnings {accs payouts rps at'} {ws : List (Pubkey × ℕ)}
      (hkey : accs.room.key = .room id) (hst : r.status = .unlocked)
      (hsnd : ws.map Prod.snd = payouts) (hnodup : (ws.map Prod.fst).Nodup)
      (hsum : payouts.sum = r.prizePool)
      (hremaining : ∀ w ∈ ws.map Prod.fst, .player w ∈ accs.remaining.map AccountInfo.key)
      (hpaid : ∀ w n, (w, n) ∈ ws → ∃ rp, s.roomPlayers.get (.room id, w) = some rp ∧
        rp.state = .locked ∧
        rps.get (.room id, w) = some { rp with payout := n, state := .paid })
      (hframe : ∀ k, (k.1 = .room id → k.2 ∉ ws.map Prod.fst) →
        rps.get k = s.roomPlayers.get k) :
      RoomChange s id r (.distributeWinnings accs payouts) rps
        { r with
          distributed := r.prizePool, winnersPaid := payouts.length, status := .settled
          settledAt := at' }
  | settleToWinner {accs rp at'} (hkey : accs.room.key = .room id) (hst : r.status = .unlocked)
      (hrp : s.roomPlayers.get (.room id, accs.winner.key) = some rp)
        (hlocked : rp.state = .locked) :
      RoomChange s id r (.settleToWinner accs)
        (s.roomPlayers.upd (.room id, accs.winner.key)
          { rp with payout := r.prizePool, state := .paid })
        { r with
          distributed := r.prizePool, winnersPaid := 1, status := .settled, settledAt := at' }
  | cancelRoom {accs} (hkey : accs.room.key = .room id) (hns : r.status ≠ .settled)
      (hnc : r.status ≠ .cancelled) :
      RoomChange s id r (.cancelRoom accs) s.roomPlayers { r with status := .cancelled }
  | claimRefund {accs rp} (hkey : accs.room.key = .room id) (hst : r.status = .cancelled)
      (hrp : s.roomPlayers.get (.room id, accs.player.key) = some rp) (hlocked : rp.state = .locked)
      (hle : rp.lockedAmount ≤ r.totalLocked) :
      RoomChange s id r (.claimRefund accs)
        (s.roomPlayers.upd (.room id, accs.player.key) { rp with state := .refunded })
        { r with totalLocked := r.totalLocked - rp.lockedAmount }
  | closeRoomPlayer {accs rp} (hkey : accs.room.key = .room id)
      (hrp : s.roomPlayers.get (.room id, accs.player.key) = some rp)
      (hst : rp.state = .paid ∨ rp.state = .refunded)
      (hfin : r.status = .settled ∨ r.status = .cancelled) :
      RoomChange s id r (.closeRoomPlayer accs)
        (s.roomPlayers.del (.room id, accs.player.key)) r

section Change
variable {s : State} {id : RoomId} {r : Room}

/-- The room an instruction read is ours, or it acts on another. -/
theorem room_or_other {k : Pubkey} {r₀ : Room} (hk : k = .room r₀.roomId)
    (hr₀ : s.rooms.get r₀.roomId = some r₀) (hr : s.rooms.get id = some r) :
    r₀.roomId = id ∧ r₀ = r ∨ k ≠ .room id ∧ r₀.roomId ≠ id := by
  by_cases e : r₀.roomId = id
  · subst e
    exact .inl ⟨rfl, Option.some.inj (hr₀.symm.trans hr)⟩
  · exact .inr ⟨fun hk' => e (Pubkey.room.inj (hk.symm.trans hk')), e⟩

/-- A room or a record written elsewhere. -/
theorem get_upd_room {rs : Table RoomId Room} {id' : RoomId} {r' : Room} (h : id' ≠ id) :
    (rs.upd id' r').get id = rs.get id := Table.get_upd_other h.symm

theorem get_upd_record {rps : Table (Pubkey × Pubkey) RoomPlayer} {id' : RoomId} {p : Pubkey}
    {rp : RoomPlayer} (h : id' ≠ id) (q : Pubkey) :
    (rps.upd (.room id', p) rp).get (.room id, q) = rps.get (.room id, q) :=
  Table.get_upd_other fun e => h (Pubkey.room.inj (Prod.mk.inj e).1).symm

theorem Effect.room_change {rt : Runtime} {now : ℤ} {i : Instruction} {t : Tx}
    (h : Effect rt now s i t) (hr : s.rooms.get id = some r) (hi : ¬ i.Closes id) :
    ∃ r', t.state.rooms.get id = some r' ∧ RoomChange s id r i t.state.roomPlayers r' := by
  cases h with
  | initializeProgram => exact ⟨r, hr, .other not_false fun _ => rfl⟩
  | config _ _ _ _ hcases =>
      refine ⟨r, hr, .other (fun h => ?_) fun _ => rfl⟩
      rcases hcases with ⟨_, _, _, _, _, _, rfl⟩ | ⟨_, _, rfl⟩ | ⟨_, rfl⟩ <;> exact h
  | withdrawTreasury => exact ⟨r, hr, .other not_false fun _ => rfl⟩
  | deposit => exact ⟨r, hr, .other not_false fun _ => rfl⟩
  | withdraw => exact ⟨r, hr, .other not_false fun _ => rfl⟩
  | @createRoom accs id' fee max _ _ _ _ _ _ hnone =>
      have hne : id' ≠ id := by
        rintro rfl
        cases hr.symm.trans hnone
      exact ⟨r, (get_upd_room hne).trans hr, .other hne fun _ => rfl⟩
  | joinRoom _ _ hr₀ hkey _ hnone _ hopen hfull =>
      rcases room_or_other hkey hr₀ hr with ⟨rfl, rfl⟩ | ⟨hk, hne⟩
      · exact ⟨_, Table.get_upd_same _ _ _, .joinRoom hkey hopen hfull hnone rfl⟩
      · exact ⟨r, (get_upd_room hne).trans hr, .other hk (get_upd_record hne)⟩
  | lockEntryFee _ _ hr₀ hkey _ hrp _ hopen hjoined =>
      rcases room_or_other hkey hr₀ hr with ⟨rfl, rfl⟩ | ⟨hk, hne⟩
      · exact ⟨_, Table.get_upd_same _ _ _, .lockEntryFee hkey hopen hrp hjoined⟩
      · exact ⟨r, (get_upd_room hne).trans hr, .other hk (get_upd_record hne)⟩
  | enterRoom _ _ hr₀ hkey _ hnone hopen hfull =>
      rcases room_or_other hkey hr₀ hr with ⟨rfl, rfl⟩ | ⟨hk, hne⟩
      · exact ⟨_, Table.get_upd_same _ _ _, .enterRoom hkey hopen hfull hnone rfl rfl⟩
      · exact ⟨r, (get_upd_room hne).trans hr, .other hk (get_upd_record hne)⟩
  | startRoom _ hr₀ hkey _ _ hopen hcount hmin =>
      rcases room_or_other hkey hr₀ hr with ⟨rfl, rfl⟩ | ⟨hk, hne⟩
      · exact ⟨_, Table.get_upd_same _ _ _, .startRoom hkey hopen hcount hmin⟩
      · exact ⟨r, (get_upd_room hne).trans hr, .other hk fun _ => rfl⟩
  | unlockPrize _ hr₀ hkey _ _ hst _ hle =>
      rcases room_or_other hkey hr₀ hr with ⟨rfl, rfl⟩ | ⟨hk, hne⟩
      · exact ⟨_, Table.get_upd_same _ _ _, .unlockPrize hkey hst hle⟩
      · exact ⟨r, (get_upd_room hne).trans hr, .other hk fun _ => rfl⟩
  | distributeWinnings _ hr₀ hkey _ _ hst hsnd hnodup hsum hcr _ hpays =>
      rcases room_or_other hkey hr₀ hr with ⟨rfl, rfl⟩ | ⟨hk, hne⟩
      · refine ⟨_, Table.get_upd_same _ _ _, .distributeWinnings hkey hst hsnd hnodup hsum
          hpays.remaining (fun w n hw => ?_) fun k hk => hcr.record_frame hk⟩
        obtain ⟨rp, _, hrp, -, -, hlocked, hrp', -⟩ := hcr.winner hnodup hw
        exact ⟨rp, hrp, hlocked, hrp'⟩
      · refine ⟨r, (get_upd_room hne).trans (hcr.rooms ▸ hr), .other hk fun p => ?_⟩
        exact hcr.record_frame fun e => absurd (Pubkey.room.inj e).symm hne
  | settleToWinner _ hr₀ hkey _ _ hrp _ hst hlocked =>
      rcases room_or_other hkey hr₀ hr with ⟨rfl, rfl⟩ | ⟨hk, hne⟩
      · exact ⟨_, Table.get_upd_same _ _ _, .settleToWinner hkey hst hrp hlocked⟩
      · exact ⟨r, (get_upd_room hne).trans hr, .other hk (get_upd_record hne)⟩
  | cancelRoom _ hr₀ hkey hns hnc =>
      rcases room_or_other hkey hr₀ hr with ⟨rfl, rfl⟩ | ⟨hk, hne⟩
      · exact ⟨_, Table.get_upd_same _ _ _, .cancelRoom hkey hns hnc⟩
      · exact ⟨r, (get_upd_room hne).trans hr, .other hk fun _ => rfl⟩
  | claimRefund hr₀ hkey hrp _ hst hlocked hle =>
      rcases room_or_other hkey hr₀ hr with ⟨rfl, rfl⟩ | ⟨hk, hne⟩
      · exact ⟨_, Table.get_upd_same _ _ _, .claimRefund hkey hst hrp hlocked hle⟩
      · exact ⟨r, (get_upd_room hne).trans hr, .other hk (get_upd_record hne)⟩
  | closeRoom _ hr₀ hkey =>
      rcases room_or_other hkey hr₀ hr with ⟨rfl, rfl⟩ | ⟨hk, hne⟩
      · exact absurd hkey hi
      · exact ⟨r, (Table.get_del_other hne.symm).trans hr, .other hk fun _ => rfl⟩
  | closeRoomPlayer hr₀ hkey hrp _ hst hfin =>
      rcases room_or_other hkey hr₀ hr with ⟨rfl, rfl⟩ | ⟨hk, hne⟩
      · exact ⟨_, hr, .closeRoomPlayer hkey hrp hst hfin⟩
      · refine ⟨r, hr, .other hk fun p => Table.get_del_other fun e => ?_⟩
        exact hne (Pubkey.room.inj (Prod.mk.inj e).1).symm

end Change

/-- A room appears by `create_room` alone, empty, beside whatever records its address has. -/
theorem Effect.room_created {rt : Runtime} {now : ℤ} {s : State} {i : Instruction} {t : Tx}
    (h : Effect rt now s i t) {id : RoomId} {r : Room} (hn : s.rooms.get id = none)
    (hr : t.state.rooms.get id = some r) :
    (∃ accs fee max, i = .createRoom accs id fee max) ∧ t.state.roomPlayers = s.roomPlayers ∧
      r.status = .open ∧ r.lockedCount = 0 ∧ r.playerCount = 0 ∧ r.totalLocked = 0 := by
  -- any other write of a room is of one that exists
  have old : ∀ {r₀ r' : Room}, s.rooms.get r₀.roomId = some r₀ →
      (s.rooms.upd r₀.roomId r').get id ≠ some r := by
    intro r₀ r' hr₀ hget
    by_cases e : r₀.roomId = id
    · subst e
      cases hn.symm.trans hr₀
    · rw [get_upd_room e, hn] at hget
      cases hget
  cases h with
  | @createRoom accs id' =>
      by_cases e : id' = id
      · subst e
        obtain rfl := Option.some.inj ((Table.get_upd_same _ _ _).symm.trans hr)
        exact ⟨⟨accs, _, _, rfl⟩, rfl, rfl, rfl, rfl, rfl⟩
      · rw [get_upd_room e, hn] at hr
        cases hr
  | joinRoom _ _ hr₀ => exact absurd hr (old hr₀)
  | lockEntryFee _ _ hr₀ => exact absurd hr (old hr₀)
  | enterRoom _ _ hr₀ => exact absurd hr (old hr₀)
  | startRoom _ hr₀ => exact absurd hr (old hr₀)
  | unlockPrize _ hr₀ => exact absurd hr (old hr₀)
  | distributeWinnings _ hr₀ _ _ _ _ _ _ _ hcr => exact absurd (hcr.rooms ▸ hr) (old hr₀)
  | settleToWinner _ hr₀ => exact absurd hr (old hr₀)
  | cancelRoom _ hr₀ => exact absurd hr (old hr₀)
  | claimRefund hr₀ => exact absurd hr (old hr₀)
  | closeRoom _ _ =>
      simp only [Table.get_del] at hr
      split at hr
      · cases hr
      · cases hn.symm.trans hr
  | _ => cases hn.symm.trans hr

/-- `create_room` leaves an open, empty room. -/
theorem Effect.opened {rt : Runtime} {now : ℤ} {s : State} {accs : CreateRoom} {id : RoomId}
    {fee max : ℕ} {t : Tx} (h : Effect rt now s (.createRoom accs id fee max) t) :
    s.rooms.get id = none ∧ t.state.roomPlayers = s.roomPlayers ∧
      ∃ r, t.state.rooms.get id = some r ∧ r.status = .open := by
  cases h with
  | createRoom _ _ hnone => exact ⟨hnone, rfl, _, Table.get_upd_same _ _ _, rfl⟩
  | config _ _ _ _ hcases =>
      rcases hcases with ⟨_, _, _, _, _, _, h⟩ | ⟨_, _, h⟩ | ⟨_, h⟩ <;> cases h

theorem Effect.room_closed {rt : Runtime} {now : ℤ} {s : State} {i : Instruction} {t : Tx}
    (h : Effect rt now s i t) {id : RoomId} (hi : i.Closes id) : t.state.rooms.get id = none := by
  cases h with
  | @closeRoom _ _ r _ _ _ _ hkey =>
      obtain rfl : r.roomId = id := Pubkey.room.inj (hkey.symm.trans hi)
      exact Table.get_del_same _ _
  | config _ _ _ _ hcases =>
      rcases hcases with ⟨_, _, _, _, _, _, rfl⟩ | ⟨_, _, rfl⟩ | ⟨_, rfl⟩ <;> exact hi.elim
  | _ => exact hi.elim

/-! ### Totals over a room's records -/

/-- The sum of `f` over the entry records at the address of `id`. -/
noncomputable def recordTotal (f : RoomPlayer → ℕ) (id : RoomId)
    (rps : Table (Pubkey × Pubkey) RoomPlayer) : ℕ :=
  rps.total fun k rp => if k.1 = .room id then f rp else 0

section Records
variable {f : RoomPlayer → ℕ} {id : RoomId} {p : Pubkey} {rp : RoomPlayer}
  {rps rps' : Table (Pubkey × Pubkey) RoomPlayer}

theorem recordTotal_insert (rp : RoomPlayer) (h : rps.get (.room id, p) = none) :
    recordTotal f id (rps.upd (.room id, p) rp) = recordTotal f id rps + f rp := by
  simpa [recordTotal] using Table.total_insert (fun k rp => if k.1 = .room id then f rp else 0) rp h

theorem recordTotal_modify (rp' : RoomPlayer) (h : rps.get (.room id, p) = some rp) :
    recordTotal f id (rps.upd (.room id, p) rp') + f rp = recordTotal f id rps + f rp' := by
  simpa [recordTotal] using
    Table.total_modify (fun k rp => if k.1 = .room id then f rp else 0) rp' h

theorem recordTotal_remove (h : rps.get (.room id, p) = some rp) :
    recordTotal f id (rps.del (.room id, p)) + f rp = recordTotal f id rps := by
  simpa [recordTotal] using Table.total_remove (fun k rp => if k.1 = .room id then f rp else 0) h

/-- Only what the room's own records contribute matters. -/
theorem recordTotal_congr
    (h : ∀ p, (rps'.get (.room id, p)).elim 0 f = (rps.get (.room id, p)).elim 0 f) :
    recordTotal f id rps' = recordTotal f id rps := by
  refine finsum_congr fun k => ?_
  by_cases e : k.1 = .room id
  · simpa [Table.part, ← e] using h k.2
  · simp only [Table.part, e, ↓reduceIte]
    cases rps'.get k <;> cases rps.get k <;> rfl

theorem recordTotal_eq_zero (h : ∀ p rp, rps.get (.room id, p) = some rp → f rp = 0) :
    recordTotal f id rps = 0 := by
  refine Table.total_eq_zero fun k rp hk => ?_
  by_cases e : k.1 = .room id
  · rw [if_pos e]
    exact h k.2 rp (by rw [← e]; exact hk)
  · rw [if_neg e]

end Records

end SnakeArena.Program
