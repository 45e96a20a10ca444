import SnakeArena.Program.AccountRules
import SnakeArena.Program.Escrow
import SnakeArena.Program.Refunds

/-!
# Program — getting the rent back

`create_room` is paid for by the settlement authority of the day, an entry record by its player.
`Reclaims` is a list of closing calls executed one after the other, each giving what its accounts
held to whoever paid for them.

A vault is funded to its rent by `create_room` and no transfer takes it lower, so every vault of
a room holds its rent (`Reached.floored`), and on a chain that keeps its owner rule `close_room`
is refused whatever the order.  `rent_comes_back` says so, and which entry records can be closed
without the room: those that are paid or refunded, which a loser's record never is, nor one of a
seat nobody paid for.
-/

namespace SnakeArena.Program
open SnakeArena.Library

/-! ### Who paid -/

/-- The authority that paid for a room signed for it. -/
def State.Created (s : State) : Prop := s.rooms.All fun _ r => r.creator.CanSign

theorem Effect.created {rt : Runtime} {now : ℤ} {s : State} {i : Instruction} {t : Tx}
    (h : Effect rt now s i t) (hs : s.Created) : t.state.Created := by
  cases h with
  | createRoom _ _ _ _ hsig => exact Table.All.upd hs hsig
  | joinRoom _ _ hr | lockEntryFee _ _ hr | enterRoom _ _ hr | startRoom _ hr | unlockPrize _ hr
  | settleToWinner _ hr | cancelRoom _ hr => exact Table.All.modify hs hr id
  | claimRefund hr => exact Table.All.modify hs hr id
  | distributeWinnings _ hr _ _ _ _ _ _ _ hcr =>
      exact hcr.rooms ▸ Table.All.modify hs hr id
  | closeRoom => exact Table.All.del hs
  | _ => exact hs

theorem Reached.created {rt : Runtime} {s : State} (h : Reached rt s) : s.Created := by
  refine h.invariant ?_ ?_
  · rintro s ⟨-, -, hempty, -⟩
    rw [State.Created, hempty]
    exact .empty
  · rintro s e s' hs hstep
    cases hstep with
    | exec h => exact (exec_effect h).created hs
    | outside => exact hs

/-! ### What a vault keeps -/

/-- Every room's vault holds its rent, settled or not. -/
def State.Floored (rt : Runtime) (s : State) : Prop :=
  s.rooms.All fun id _ => rt.minimumBalance 0 ≤ s.lamports (.roomVault id)

/-- A settlement takes out what was locked and leaves the rent. -/
theorem Effect.settled_floor {rt : Runtime} {now : ℤ} {s : State} {i : Instruction} {t : Tx}
    (h : Effect rt now s i t) (hw : s.WellFormed) (he : s.Escrowed rt) {id : RoomId}
    (hi : i.Settles id) : rt.minimumBalance 0 ≤ t.state.lamports (.roomVault id) := by
  obtain ⟨c, r, -, hr, hst, hout, -⟩ := h.settles hw hi
  obtain ⟨hcovered, hsplit⟩ := he _ _ hr (by rw [hst]; exact nofun)
  have hbalance := h.moved.balance (.roomVault id)
  have hlocked := hsplit hst
  omega

theorem Effect.floored {rt : Runtime} {now : ℤ} {s : State} {i : Instruction} {t : Tx}
    (h : Effect rt now s i t) (hw : s.WellFormed) (he : s.Escrowed rt) (hs : s.Floored rt) :
    t.state.Floored rt := by
  have settled : ∀ id, i.Settles id → rt.minimumBalance 0 ≤ t.state.lamports (.roomVault id) :=
    fun _ => h.settled_floor hw he
  have kept : ∀ id, ¬ i.PaysFrom id → rt.minimumBalance 0 ≤ s.lamports (.roomVault id) →
      rt.minimumBalance 0 ≤ t.state.lamports (.roomVault id) :=
    fun _ hi hle => hle.trans (h.vault_le hi)
  -- the rooms as they were, where none was paid from
  have rooms : (∀ id, ¬ i.PaysFrom id) →
      s.rooms.All fun id _ => rt.minimumBalance 0 ≤ t.state.lamports (.roomVault id) :=
    fun hi => hs.mono fun id _ => kept id (hi id)
  have escrowed := h.escrowed he
  cases h with
  | config => exact hs
  | initializeProgram | withdrawTreasury | deposit | withdraw | closeRoomPlayer =>
      exact rooms fun _ => id
  | createRoom _ _ _ _ _ _ _ _ _ hrent => exact (rooms fun _ => id).upd hrent
  | joinRoom _ _ hr | lockEntryFee _ _ hr | enterRoom _ _ hr | startRoom _ hr | unlockPrize _ hr
  | cancelRoom _ hr => exact (rooms fun _ => id).modify hr id
  | distributeWinnings _ hr hkey _ _ _ _ _ _ hcr =>
      refine Table.All.upd_frame (P := fun id _ => rt.minimumBalance 0 ≤ s.lamports (.roomVault id))
        (by rw [hcr.rooms]; exact hs) (fun id hne _ => kept id fun hi => ?_) (settled _ hkey)
      exact hne (Pubkey.room.inj (hi.symm.trans hkey))
  | settleToWinner _ hr hkey =>
      refine hs.upd_frame (fun id hne _ => kept id fun hi => ?_) (settled _ hkey)
      exact hne (Pubkey.room.inj (hi.symm.trans hkey))
  | claimRefund hr hkey _ _ hst =>
      -- what was refunded had been locked beside the rent
      refine hs.upd_frame (fun id hne _ => kept id fun hi => ?_)
        ((Nat.le_add_right _ _).trans
          (escrowed _ _ (Table.get_upd_same _ _ _) (by rw [hst]; exact nofun)).1)
      exact hne (Pubkey.room.inj (hi.symm.trans hkey))
  | closeRoom _ _ hkey =>
      refine hs.del_frame fun id hne _ => kept id fun hi => ?_
      exact hne (Pubkey.room.inj (hi.symm.trans hkey))

theorem Reached.floored {rt : Runtime} {s : State} (h : Reached rt s) : s.Floored rt := by
  refine (h.invariant (I := fun s => s.WellFormed ∧ s.Escrowed rt ∧ s.Floored rt) ?_ ?_).2.2
  · intro s hs
    have hempty : s.rooms = .empty := hs.2.2.1
    refine ⟨.genesis hs, ?_, ?_⟩
    · rw [State.Escrowed, hempty]
      exact .empty
    · rw [State.Floored, hempty]
      exact .empty
  · rintro s e s' ⟨hw, he, hs⟩ hstep
    refine ⟨hstep.wellFormed hw, hstep.escrowed he, ?_⟩
    cases hstep with
    | exec h => exact (exec_effect h).floored hw he hs
    | outside hd _ => exact hs.mono fun id _ hle => hle.trans (hd (.roomVault id) trivial)

/-! ### The records there are -/

/-- The entry record an instruction creates. -/
def Instruction.entry : Instruction → Option (Pubkey × Pubkey)
  | .joinRoom accs => some (accs.room.key, accs.player.key)
  | .enterRoom accs => some (accs.room.key, accs.player.key)
  | _ => none

theorem Credited.no_record {room : Pubkey} {s s' : State} {ws : List (Pubkey × ℕ)}
    (h : Credited room s ws s') {k : Pubkey × Pubkey} (hk : s.roomPlayers.get k = none) :
    s'.roomPlayers.get k = none := by
  induction h with
  | nil => exact hk
  | cons hrp _ _ _ _ _ _ ih =>
      refine ih ((Table.get_upd_other ?_).trans hk)
      rintro rfl
      cases hrp.symm.trans hk

/-- A record is created by its own entry alone. -/
theorem Effect.no_record {rt : Runtime} {now : ℤ} {s : State} {i : Instruction} {t : Tx}
    (h : Effect rt now s i t) {k : Pubkey × Pubkey} (hk : s.roomPlayers.get k = none)
    (hi : i.entry ≠ some k) : t.state.roomPlayers.get k = none := by
  -- a record written where there is one
  have upd : ∀ {k' : Pubkey × Pubkey} {rp rp' : RoomPlayer}, s.roomPlayers.get k' = some rp →
      (s.roomPlayers.upd k' rp').get k = none := by
    intro k' rp rp' hrp
    refine (Table.get_upd_other ?_).trans hk
    rintro rfl
    cases hrp.symm.trans hk
  cases h with
  | joinRoom _ _ _ hkey | enterRoom _ _ _ hkey =>
      refine (Table.get_upd_other ?_).trans hk
      rintro rfl
      exact hi (by rw [Instruction.entry, hkey])
  | lockEntryFee _ _ _ _ _ hrp | settleToWinner _ _ _ _ _ hrp => exact upd hrp
  | claimRefund _ _ hrp => exact upd hrp
  | distributeWinnings _ _ _ _ _ _ _ _ _ hcr => exact hcr.no_record hk
  | closeRoomPlayer =>
      rw [Table.get_del]
      split
      · rfl
      · exact hk
  | _ => exact hk

/-- The records that calls create. -/
def entries (is : List (ℤ × Instruction)) : List (Pubkey × Pubkey) :=
  is.filterMap fun p => p.2.entry

theorem execAll_no_record {rt : Runtime} {is : List (ℤ × Instruction)} {k : Pubkey × Pubkey} :
    ∀ {s s' : State}, execAll rt s is = .ok s' → s.roomPlayers.get k = none →
      k ∉ entries is → s'.roomPlayers.get k = none := by
  induction is with
  | nil =>
      rintro s s' h hk -
      obtain rfl : s = s' := Except.ok.inj h
      exact hk
  | cons p is ih =>
      rintro s s' h hk hnot
      simp only [execAll, bind_eq_ok] at h
      obtain ⟨t, h₁, h₂⟩ := h
      simp only [entries, List.mem_filterMap, List.exists_mem_cons_iff, not_or] at hnot
      refine ih h₂ ((exec_effect h₁).no_record hk hnot.1) fun hmem => hnot.2 ?_
      exact List.mem_filterMap.mp hmem

/-! ### The closing calls -/

inductive Closing where
  | room
  | player (p : Pubkey)
deriving DecidableEq

namespace Closing

def call (settlementAuthority : Pubkey) (id : RoomId) : Closing → Instruction
  | .room => Call.closeRoom settlementAuthority id
  | .player p => Call.closeRoomPlayer p id

/-- What the closed accounts held went to whoever paid for them. -/
def Returns (id : RoomId) (payer : Pubkey) (s : State) (t : Tx) : Closing → Prop
  | .room => t.moves = [⟨.roomVault id, payer, s.lamports (.roomVault id)⟩,
      ⟨.room id, payer, s.lamports (.room id)⟩]
  | .player p => t.moves =
      [⟨.roomPlayer (.room id) p, p, s.lamports (.roomPlayer (.room id) p)⟩]

end Closing

/-- The calls, in order, each executed and each returning its rent. -/
inductive Reclaims (rt : Runtime) (now : ℤ) (settlementAuthority payer : Pubkey) (id : RoomId) :
    State → List Closing → State → Prop where
  | nil (s : State) : Reclaims rt now settlementAuthority payer id s [] s
  | cons {s s' : State} {t : Tx} {x : Closing} {xs : List Closing}
      (h : exec rt now s (x.call settlementAuthority id) = .ok t)
      (hreturns : x.Returns id payer s t)
      (rest : Reclaims rt now settlementAuthority payer id t.state xs s') :
      Reclaims rt now settlementAuthority payer id s (x :: xs) s'

/-- The closing calls of a room, once each, in some order. -/
structure Closings (s : State) (id : RoomId) (xs : List Closing) : Prop where
  nodup : xs.Nodup
  room : .room ∈ xs
  player : ∀ p, .player p ∈ xs ↔ s.roomPlayers.get (.room id, p) ≠ none

def RoomPlayer.Finished (rp : RoomPlayer) : Prop := rp.state = .paid ∨ rp.state = .refunded

def Room.Finished (r : Room) : Prop := r.status = .settled ∨ r.status = .cancelled

/-! ### One call -/

section Calls
variable {rt : Runtime} {now : ℤ} {s : State} {t : Tx} {id : RoomId} {r : Room} {c : Config}
  {p : Pubkey} {rp : RoomPlayer}

/-- What an entry record's closing does. -/
theorem closeRoomPlayer_exec (h : exec rt now s (Call.closeRoomPlayer p id) = .ok t) :
    ∃ r rp, s.rooms.get id = some r ∧ s.roomPlayers.get (.room id, p) = some rp ∧
      rp.Finished ∧ (∀ payer, (Closing.player p).Returns id payer s t) ∧
      t.state = { s with
        lamports := t.state.lamports, roomPlayers := s.roomPlayers.del (.room id, p) } := by
  simp only [exec, bind_eq_ok, require_eq_ok, Except.ok.injEq] at h
  obtain ⟨t', h, -, -, rfl⟩ := h
  simp only [handle, Call.closeRoomPlayer, closeRoomPlayer, bind_eq_ok, loadRoom_eq_ok,
    loadRoomPlayer_eq_ok, seeds_eq_ok, require_eq_ok, mutable_eq_ok, Tx.closeRoomPlayerAccount,
    AccountInfo.full_key, Except.ok.injEq] at h
  obtain ⟨r, ⟨_, hid, hr⟩, -, -, rp, ⟨_, _, hab, hrp⟩, -, -, -, -, -, -, -, -, -, -, -, hst, -, -,
    t₁, h₁, rfl⟩ := h
  obtain rfl := Pubkey.room.inj hid
  obtain ⟨rfl, rfl⟩ := Pubkey.roomPlayer.inj hab
  obtain ⟨l, -, rfl⟩ := writeMove_eq_ok h₁
  exact ⟨r, rp, hr, hrp, hst, fun _ => rfl, rfl⟩

/-- A room's closing pays the authority, and drains no vault under the owner rule. -/
theorem closeRoom_exec {sa : Pubkey} (h : exec rt now s (Call.closeRoom sa id) = .ok t) :
    Closing.room.Returns id sa s t ∧
      (rt.ownerRule = true → .roomVault id ≠ sa → s.lamports (.roomVault id) = 0) := by
  simp only [exec, bind_eq_ok, require_eq_ok, Except.ok.injEq] at h
  obtain ⟨t', h, -, hrule, rfl⟩ := h
  rw [handle_ownerRule h] at hrule
  refine ⟨handle_returnsRent h, fun howner hne => ?_⟩
  by_contra hpos
  exact hrule howner ⟨Nat.pos_of_ne_zero hpos, hne⟩

/-- A room cannot be closed with its rent to the one who opened it: its vault is not empty. -/
theorem closeRoom_refused {sa payer : Pubkey} (howner : rt.ownerRule = true)
    (hrent : 0 < rt.minimumBalance 0) (hs : Reached rt s) (hr : s.rooms.get id = some r)
    (hcan : payer.CanSign) (h : exec rt now s (Call.closeRoom sa id) = .ok t) :
    ¬ Closing.room.Returns id payer s t := by
  intro hreturns
  obtain ⟨hmoves, hempty⟩ := closeRoom_exec h
  have hpayer : sa = payer := by
    have e := hmoves.symm.trans hreturns
    simp only [List.cons.injEq, Move.mk.injEq, true_and] at e
    exact e.1.1
  subst hpayer
  have hfloor := hs.floored _ _ hr
  have hzero := hempty howner (hcan.ne (b := .roomVault id) trivial).symm
  omega

theorem writeMove_ok {a d : Pubkey} (hne : a ≠ d) (hb : Bounded (u64Max + 1) t.state.lamports) :
    ∃ t', t.writeMove a d = .ok t' := by
  have hpair := hb.pair hne
  have hd : (Move.apply ⟨a, d, t.state.lamports a⟩ t.state.lamports) d ≤ u64Max := by
    simp only [Move.apply, Function.update_self, Function.update_of_ne hne.symm]
    omega
  simp only [Tx.writeMove, bind_eq_ok, require_eq_ok, Except.ok.injEq]
  exact ⟨_, (), hd, rfl⟩

/-- What a handler leaves is committed, unless the runtime looks at the vault it drained. -/
theorem exec_of_handle {i : Instruction} (h : handle rt now s i = .ok t)
    (hdrains : rt.ownerRule = true → ¬ DrainsVault s i) : exec rt now s i = .ok t := by
  simp only [exec, h, bind_eq_ok, require_eq_ok, Except.ok.injEq]
  exact ⟨t, rfl, (), fun howner => (handle_ownerRule h).mpr (hdrains howner), rfl⟩

/-- A finished record of a finished room can be closed. -/
theorem closeRoomPlayer_succeeds (h : Reached rt s) (now : ℤ) (hr : s.rooms.get id = some r)
    (hfin : r.Finished) (hrp : s.roomPlayers.get (.room id, p) = some rp) (hst : rp.Finished) :
    ∃ t, exec rt now s (Call.closeRoomPlayer p id) = .ok t := by
  obtain rfl : r.roomId = id := (h.wellFormed.rooms _ _ hr).1
  obtain ⟨-, hplayer, hcan⟩ := h.wellFormed.record hrp
  have hne : .roomPlayer (.room r.roomId) p ≠ p :=
    (hcan.ne (b := .roomPlayer (.room r.roomId) p) trivial).symm
  obtain ⟨t, ht⟩ := writeMove_ok (t := .start s) hne h.wellFormed.supply
  refine ⟨_, exec_of_handle (t := { t with state := { t.state with
    roomPlayers := t.state.roomPlayers.del (.room r.roomId, p) } }) ?_ fun _ => not_false⟩
  simp only [handle, Call.closeRoomPlayer, closeRoomPlayer, bind_eq_ok, loadRoom_eq_ok,
    loadRoomPlayer_eq_ok, seeds_eq_ok, require_eq_ok, mutable_eq_ok, Tx.closeRoomPlayerAccount,
    AccountInfo.full_key, AccountInfo.full_isWritable]
  exact ⟨r, ⟨_, rfl, hr⟩, (), rfl, rp, ⟨_, _, rfl, hrp⟩, (), trivial, (), trivial, (),
    require_eq_ok.mpr hplayer, (), require_eq_ok.mpr hne, (), trivial, (), hst, (), hfin, t, ht,
    rfl⟩

end Calls

/-! ### The calls in order -/

section Order
variable {rt : Runtime} {now : ℤ} {s s' : State} {id : RoomId} {r : Room} {sa payer : Pubkey}
  {xs ys : List Closing}

theorem Reclaims.append (h : Reclaims rt now sa payer id s (xs ++ ys) s') :
    ∃ s₁, Reclaims rt now sa payer id s xs s₁ ∧ Reclaims rt now sa payer id s₁ ys s' := by
  induction xs generalizing s with
  | nil => exact ⟨s, .nil s, h⟩
  | cons x xs ih =>
      cases h with
      | cons hexec hreturns rest =>
          obtain ⟨s₁, h₁, h₂⟩ := ih rest
          exact ⟨s₁, .cons hexec hreturns h₁, h₂⟩

/-- Closing records leaves the room, and each record closed was finished. -/
theorem Reclaims.players {ps : List Pubkey} (h : Reclaims rt now sa payer id s (ps.map .player) s')
    (hs : Reached rt s) : Reached rt s' ∧ s'.rooms = s.rooms ∧
      ∀ p ∈ ps, ∃ rp, s.roomPlayers.get (.room id, p) = some rp ∧ rp.Finished := by
  induction ps generalizing s with
  | nil =>
      cases h
      exact ⟨hs, rfl, by simp⟩
  | cons p ps ih =>
      cases h with
      | cons hexec hreturns rest =>
          obtain ⟨r, rp, hr, hrp, hst, -, hstate⟩ := closeRoomPlayer_exec hexec
          obtain ⟨hs', hrooms, hps⟩ := ih rest (hs.step (.exec hexec))
          refine ⟨hs', ?_, ?_⟩
          · rw [hrooms, hstate]
          · intro q hq
            rcases List.mem_cons.mp hq with rfl | hq
            · exact ⟨rp, hrp, hst⟩
            · obtain ⟨rq, hrq, hrqst⟩ := hps q hq
              rw [hstate, Table.get_del] at hrq
              split at hrq
              · cases hrq
              · exact ⟨rq, hrq, hrqst⟩

/-- Finished records can be closed in any order, while the room is there. -/
theorem Reclaims.of_players {ps : List Pubkey} (hs : Reached rt s) (hnodup : ps.Nodup)
    (hr : s.rooms.get id = some r) (hfin : r.Finished)
    (hps : ∀ p ∈ ps, ∃ rp, s.roomPlayers.get (.room id, p) = some rp ∧ rp.Finished) :
    ∃ s', Reclaims rt now sa payer id s (ps.map .player) s' := by
  induction ps generalizing s with
  | nil => exact ⟨s, .nil s⟩
  | cons p ps ih =>
      obtain ⟨rp, hrp, hst⟩ := hps p (by simp)
      rw [List.nodup_cons] at hnodup
      obtain ⟨t, ht⟩ := closeRoomPlayer_succeeds hs now hr hfin hrp hst
      obtain ⟨-, -, -, -, -, hreturns, hstate⟩ := closeRoomPlayer_exec ht
      have hrooms : t.state.rooms.get id = some r := by rw [hstate]; exact hr
      obtain ⟨s', h⟩ := ih (hs.step (.exec ht)) hnodup.2 hrooms fun q hq => by
        obtain ⟨rq, hrq, hrqst⟩ := hps q (by simp [hq])
        have hne : q ≠ p := fun e => hnodup.1 (e ▸ hq)
        refine ⟨rq, ?_, hrqst⟩
        rw [hstate]
        exact (Table.get_del_other fun e => hne (Prod.mk.inj e).2).trans hrq
      exact ⟨s', .cons ht (hreturns payer) h⟩

/-- Calls without the room's are calls on players. -/
theorem players_of_not_mem (h : .room ∉ xs) : ∃ ps : List Pubkey, xs = ps.map .player := by
  induction xs with
  | nil => exact ⟨[], rfl⟩
  | cons x xs ih =>
      rw [List.mem_cons, not_or] at h
      obtain ⟨ps, rfl⟩ := ih h.2
      cases x with
      | room => exact absurd rfl h.1
      | player p => exact ⟨p :: ps, rfl⟩

end Order

/-- Two players enter a room and the first of them wins it. -/
def settledRoom : List (ℤ × Instruction) :=
  [(0, Call.initializeProgram (.key 1) (.key 2) (.key 3) 500 50),
    (1, Call.createRoom (.key 2) (.ofByte 7) 1000000 4),
    (2, Call.enterRoom (.key 4) (.ofByte 7)), (3, Call.enterRoom (.key 5) (.ofByte 7)),
    (4, Call.startRoom (.key 2) (.ofByte 7)), (5, Call.unlockPrize (.key 2) (.ofByte 7)),
    (6, Call.settleToWinner (.key 2) (.key 3) (.key 4) (.ofByte 7))]

/-- **What rent comes back.**  On a chain that keeps its owner rule and asks rent of a vault, no
order of the closing calls of a finished room returns the rent to whoever paid it: the vault still
holds its own rent, so `close_room` is refused.  Some of the entry records can be closed alone,
in a given order, exactly when each of them is paid or refunded. -/
theorem rent_comes_back {rt : Runtime} (howner : rt.ownerRule = true)
    (hrent : 0 < rt.minimumBalance 0) {s : State} (hs : Reached rt s) (now : ℤ) {id : RoomId}
    {r : Room} (hr : s.rooms.get id = some r)
    (hfin : r.status = .settled ∨ r.status = .cancelled ∧
      ∀ p rp, s.roomPlayers.get (.room id, p) = some rp → rp.state ≠ .locked)
    (settlementAuthority : Pubkey) :
    (∀ xs, Closings s id xs →
      ¬ ∃ s', Reclaims rt now settlementAuthority r.creator id s xs s') ∧
    ∀ ps : List Pubkey, ps.Nodup →
      ((∃ s', Reclaims rt now settlementAuthority r.creator id s (ps.map .player) s') ↔
        ∀ p ∈ ps, ∃ rp, s.roomPlayers.get (.room id, p) = some rp ∧
          (rp.state = .paid ∨ rp.state = .refunded)) := by
  refine ⟨?_, fun ps hnodup => ⟨?_, Reclaims.of_players hs hnodup hr (hfin.imp_right And.left)⟩⟩
  · rintro xs hxs ⟨s', h⟩
    obtain ⟨ys, zs, rfl⟩ := List.append_of_mem hxs.room
    have hnodup := List.nodup_append.mp hxs.nodup
    obtain ⟨ps, rfl⟩ := players_of_not_mem (fun hmem => hnodup.2.2 _ hmem _ (by simp) rfl)
    obtain ⟨s₁, h₁, h₂⟩ := h.append
    obtain ⟨hs₁, hrooms, -⟩ := h₁.players hs
    cases h₂ with
    | cons hexec hreturns =>
        exact closeRoom_refused howner hrent hs₁ (hrooms ▸ hr) (hs.created _ _ hr) hexec hreturns
  · rintro ⟨s', h⟩
    exact (h.players hs).2.2

/-- A settled room with a winner and a loser: the winner's record can be closed, and no order of
all the calls goes through. -/
theorem rent_comes_back_winner : ∃ s s' r, Reached .validator s ∧
    s.rooms.get (.ofByte 7) = some r ∧ r.status = .settled ∧
    Reclaims .validator 9 (.key 2) r.creator (.ofByte 7) s [.player (.key 4)] s' ∧
    ∀ xs, Closings s (.ofByte 7) xs →
      ¬ ∃ s', Reclaims .validator 9 (.key 2) r.creator (.ofByte 7) s xs s' := by
  have run : (execAll .validator .funded settledRoom).passes (fun s =>
      (s.rooms.get (.ofByte 7)).any (fun r => decide (r.status = .settled)) &&
      (s.roomPlayers.get (.room (.ofByte 7), .key 4)).any fun rp => decide (rp.state = .paid)) =
        true := by
    decide
  obtain ⟨s, hs, htest⟩ := Result.passes_iff.mp run
  simp only [Bool.and_eq_true, Option.any_eq_true, decide_eq_true_iff] at htest
  obtain ⟨⟨r, hr, hst⟩, rp, hrp, hpaid⟩ := htest
  have hreached := reached_of_execAll hs
  have hall := rent_comes_back rfl (by decide) hreached 9 hr (.inl hst) (.key 2)
  obtain ⟨s', h⟩ := (hall.2 [.key 4] (by simp)).mpr (by simpa using ⟨rp, hrp, .inl hpaid⟩)
  exact ⟨s, s', r, hreached, hr, hst, h, hall.1⟩

/-- The loser of a settled room has a record nothing closes. -/
theorem rent_stays_with_loser : ¬ ∀ s, Reached .validator s → ∀ id r c,
    s.rooms.get id = some r → s.config = some c → r.status = .settled →
    ∀ xs, Closings s id xs →
      ∀ now, ∃ s', Reclaims .validator now c.settlementAuthority r.creator id s xs s' := by
  intro hall
  have run : (execAll .validator .funded settledRoom).passes (fun s =>
      (s.rooms.get (.ofByte 7)).any (fun r => decide (r.status = .settled)) && s.config.isSome &&
      (s.roomPlayers.get (.room (.ofByte 7), .key 4)).isSome &&
      (s.roomPlayers.get (.room (.ofByte 7), .key 5)).any fun rp => decide (rp.state = .locked)) =
        true := by
    decide
  obtain ⟨s, hs, htest⟩ := Result.passes_iff.mp run
  simp only [Bool.and_eq_true, Option.any_eq_true, decide_eq_true_iff, Option.isSome_iff_exists]
    at htest
  obtain ⟨⟨⟨⟨r, hr, hst⟩, c, hc⟩, winner, hwinner⟩, loser, hloser, hlocked⟩ := htest
  have hclosings : Closings s (.ofByte 7) [.player (.key 5), .player (.key 4), .room] := by
    refine ⟨by decide, by simp, fun p => ?_⟩
    by_cases h₄ : p = .key 4
    · subst h₄
      simp [hwinner]
    · by_cases h₅ : p = .key 5
      · subst h₅
        simp [hloser]
      · have hnone : s.roomPlayers.get (.room (.ofByte 7), p) = none := by
          refine execAll_no_record hs rfl ?_
          change (_, p) ∉ [(_, .key 4), (_, .key 5)]
          simpa using ⟨h₄, h₅⟩
        simp [h₄, h₅, hnone]
  obtain ⟨s', h⟩ := hall s (reached_of_execAll hs) _ r c hr hc hst _ hclosings 7
  cases h with
  | cons hexec =>
      obtain ⟨-, rp, -, hrp, hfinished, -⟩ := closeRoomPlayer_exec hexec
      obtain rfl := Option.some.inj (hloser.symm.trans hrp)
      rcases hfinished with e | e
      · cases hlocked.symm.trans e
      · cases hlocked.symm.trans e

end SnakeArena.Program
