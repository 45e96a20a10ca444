import SnakeArena.Program.Machine

/-!
# Program — well-formed states

What the addresses say of the accounts at them: a player account belongs to the key its seeds
name, a room carries its own id, an entry record names the room and the player of its address,
and every player is a key that can sign.  The config, once written, keeps the treasury vault
and rates under their caps; before it is written there is nothing else.

Every instruction keeps this (`Effect.wellFormed`), so it holds of every reached state.
-/

namespace SnakeArena.Program
open SnakeArena.Library

structure State.WellFormed (s : State) : Prop where
  config : ∀ c, s.config = some c → c.treasury = .treasury ∧ c.feeBps ≤ maxFeeBps ∧
    c.withdrawalFeeBps ≤ maxWithdrawalFeeBps
  players : s.players.All fun o p => p.owner = o ∧ o.CanSign
  rooms : s.rooms.All fun id r => r.roomId = id ∧ r.feeBps ≤ maxFeeBps
  roomPlayers : s.roomPlayers.All fun k rp =>
    rp.room = k.1 ∧ rp.player = k.2 ∧ k.2.CanSign ∧ ∃ id, k.1 = .room id
  started : s.config = none →
    s.players = .empty ∧ s.rooms = .empty ∧ s.roomPlayers = .empty
  supply : Bounded (u64Max + 1) s.lamports

namespace State.WellFormed
variable {s : State}

theorem genesis (h : s.Genesis) : s.WellFormed where
  config c hc := by rw [h.1] at hc; cases hc
  players := h.2.1 ▸ .empty
  rooms := h.2.2.1 ▸ .empty
  roomPlayers := h.2.2.2.1 ▸ .empty
  started _ := ⟨h.2.1, h.2.2.1, h.2.2.2.1⟩
  supply := h.2.2.2.2

/-- A room exists only once the program is set up. -/
theorem config_of_room (h : s.WellFormed) {id : RoomId} {r : Room} (hr : s.rooms.get id = some r) :
    s.config ≠ none := by
  intro hc
  rw [(h.started hc).2.1] at hr
  cases hr

theorem config_of_player (h : s.WellFormed) {o : Pubkey} {p : PlayerAccount}
    (hp : s.players.get o = some p) : s.config ≠ none := by
  intro hc
  rw [(h.started hc).1] at hp
  cases hp

theorem record (h : s.WellFormed) {ra p : Pubkey} {rp : RoomPlayer}
    (hrp : s.roomPlayers.get (ra, p) = some rp) : rp.room = ra ∧ rp.player = p ∧ p.CanSign :=
  ⟨(h.roomPlayers _ _ hrp).1, (h.roomPlayers _ _ hrp).2.1, (h.roomPlayers _ _ hrp).2.2.1⟩

end State.WellFormed

/-- The payout loop keeps both tables it writes. -/
theorem Credited.wellFormed {room : Pubkey} {s s' : State} {ws : List (Pubkey × ℕ)}
    (h : Credited room s ws s')
    (hp : s.players.All fun o p => p.owner = o ∧ o.CanSign)
    (hrp : s.roomPlayers.All fun k rp =>
      rp.room = k.1 ∧ rp.player = k.2 ∧ k.2.CanSign ∧ ∃ id, k.1 = .room id) :
    (s'.players.All fun o p => p.owner = o ∧ o.CanSign) ∧
      s'.roomPlayers.All fun k rp =>
        rp.room = k.1 ∧ rp.player = k.2 ∧ k.2.CanSign ∧ ∃ id, k.1 = .room id := by
  induction h with
  | nil => exact ⟨hp, hrp⟩
  | cons hr _ _ _ hpl _ _ ih => exact ih (hp.modify hpl id) (hrp.modify hr id)

/-- **An instruction keeps a state well formed.** -/
theorem Effect.wellFormed {rt : Runtime} {now : ℤ} {s : State} {i : Instruction} {t : Tx}
    (h : Effect rt now s i t) (hw : s.WellFormed) : t.state.WellFormed := by
  have hsupply : Bounded (u64Max + 1) t.state.lamports := h.moved.bounded hw.supply
  cases h with
  | initializeProgram hnone _ hfee hwfee =>
      refine { hw with supply := hsupply, config := ?_, started := fun h => by cases h }
      rintro c ⟨⟩
      exact ⟨rfl, hfee, hwfee⟩
  | config hc htr hfee hwfee =>
      refine { hw with config := ?_, started := fun h => by cases h }
      rintro c ⟨⟩
      obtain ⟨h₁, h₂, h₃⟩ := hw.config _ hc
      exact ⟨htr.trans h₁, hfee h₂, hwfee h₃⟩
  | withdrawTreasury => exact { hw with supply := hsupply }
  | deposit hc _ hsig =>
      exact { hw with
        supply := hsupply
        players := hw.players.upd ⟨rfl, hsig⟩
        started := fun h => by cases hc.symm.trans h }
  | withdraw hc hsig hp =>
      exact { hw with
        supply := hsupply
        players := hw.players.modify hp id
        started := fun h => by cases hc.symm.trans h }
  | createRoom hc =>
      refine { hw with
        supply := hsupply
        config := ?_
        rooms := hw.rooms.upd ⟨rfl, (hw.config _ hc).2.1⟩
        started := fun h => by cases h }
      rintro c' ⟨⟩
      obtain ⟨h₁, h₂, h₃⟩ := hw.config _ hc
      exact ⟨h₁, h₂, h₃⟩
  | joinRoom hc _ hr _ hsig _ hp =>
      exact { hw with
        supply := hsupply
        players := hw.players.modify hp id
        rooms := hw.rooms.modify hr id
        roomPlayers := hw.roomPlayers.upd ⟨rfl, rfl, hsig, _, rfl⟩
        started := fun h => by cases hc.symm.trans h }
  | lockEntryFee hc _ hr _ _ hrp hp =>
      exact { hw with
        supply := hsupply
        players := hw.players.modify hp id
        rooms := hw.rooms.modify hr id
        roomPlayers := hw.roomPlayers.modify hrp id
        started := fun h => by cases hc.symm.trans h }
  | enterRoom hc _ hr _ hsig =>
      exact { hw with
        supply := hsupply
        rooms := hw.rooms.modify hr id
        roomPlayers := hw.roomPlayers.upd ⟨rfl, rfl, hsig, _, rfl⟩
        started := fun h => by cases hc.symm.trans h }
  | startRoom hc hr =>
      exact { hw with
        rooms := hw.rooms.modify hr id
        started := fun h => by cases hc.symm.trans h }
  | unlockPrize hc hr =>
      exact { hw with
        rooms := hw.rooms.modify hr id
        started := fun h => by cases hc.symm.trans h }
  | distributeWinnings hc hr _ _ _ _ _ _ _ hcr =>
      obtain ⟨hp, hrp⟩ := hcr.wellFormed hw.players hw.roomPlayers
      exact {
        supply := hsupply
        config := fun c h => hw.config c (hcr.config ▸ h)
        players := hp
        rooms := hcr.rooms ▸ hw.rooms.modify hr id
        roomPlayers := hrp
        started := fun h => by cases hc.symm.trans (hcr.config ▸ h) }
  | settleToWinner hc hr _ _ _ hrp =>
      exact { hw with
        supply := hsupply
        rooms := hw.rooms.modify hr id
        roomPlayers := hw.roomPlayers.modify hrp id
        started := fun h => by cases hc.symm.trans h }
  | cancelRoom hc hr =>
      exact { hw with
        rooms := hw.rooms.modify hr id
        started := fun h => by cases hc.symm.trans h }
  | claimRefund hr _ hrp hp =>
      exact { hw with
        supply := hsupply
        players := hw.players.modify hp id
        rooms := hw.rooms.modify hr id
        roomPlayers := hw.roomPlayers.modify hrp id
        started := fun h => absurd h (hw.config_of_room hr) }
  | closeRoom hc =>
      exact { hw with
        supply := hsupply
        rooms := hw.rooms.del
        started := fun h => by cases hc.symm.trans h }
  | closeRoomPlayer hr =>
      exact { hw with
        supply := hsupply
        roomPlayers := hw.roomPlayers.del
        started := fun h => absurd h (hw.config_of_room hr) }

theorem Step.wellFormed {rt : Runtime} {s s' : State} {e : Event} (h : Step rt s e s')
    (hw : s.WellFormed) : s'.WellFormed := by
  cases h with
  | exec h => exact (exec_effect h).wellFormed hw
  | outside _ hb => exact { hw with supply := hb }

theorem Reached.wellFormed {rt : Runtime} {s : State} (h : Reached rt s) : s.WellFormed :=
  h.invariant (fun _ => .genesis) fun _ _ _ hw hs => hs.wellFormed hw

end SnakeArena.Program
