import SnakeArena.Program.Rooms

/-!
# Program — every claim on a room was paid for

A locked entry record is a claim on its room's vault.  As long as every room opens with no
locked record at its address (`OpensUnlocked`), the locked amounts at a room's address add up to
`total_locked` until it is settled, and each locked record was locked in the room's current
life, by a payment into its vault.

The condition is not kept by the program: a loser of a settled room stays locked,
`close_room_player` refuses that record, and `close_room` does not look for it.
-/

namespace SnakeArena.Program
open SnakeArena.Library

/-- What a record claims from its room. -/
def RoomPlayer.claim (rp : RoomPlayer) : ℕ := if rp.state = .locked then rp.lockedAmount else 0

theorem RoomPlayer.claim_of {rp : RoomPlayer} (h : rp.state = .locked) :
    rp.claim = rp.lockedAmount := if_pos h

theorem RoomPlayer.claim_of_ne {rp : RoomPlayer} (h : rp.state ≠ .locked) : rp.claim = 0 :=
  if_neg h

/-- The locked amounts at the address of `id`. -/
noncomputable def lockedTotal (id : RoomId) (rps : Table (Pubkey × Pubkey) RoomPlayer) : ℕ :=
  recordTotal RoomPlayer.claim id rps

def State.Funded (s : State) : Prop :=
  s.rooms.All fun id r => r.status ≠ .settled → lockedTotal id s.roomPlayers = r.totalLocked

/-- Where `create_room` runs, no locked record is at the room's address. -/
def OpensUnlocked (s : State) : Event → Prop
  | .exec _ (.createRoom _ id _ _) =>
      ∀ p rp, s.roomPlayers.get (.room id, p) = some rp → rp.state ≠ .locked
  | _ => True

theorem RoomChange.funded {s : State} {id : RoomId} {r r' : Room} {i : Instruction}
    {rps : Table (Pubkey × Pubkey) RoomPlayer} (h : RoomChange s id r i rps r')
    (hf : r.status ≠ .settled → lockedTotal id s.roomPlayers = r.totalLocked)
    (hs : r'.status ≠ .settled) : lockedTotal id rps = r'.totalLocked := by
  cases h with
  | other _ hrps =>
      rw [← hf hs]
      exact recordTotal_congr fun p => by rw [hrps p]
  | @joinRoom accs rp _ _ _ hnone hst =>
      rw [lockedTotal, recordTotal_insert rp hnone,
        RoomPlayer.claim_of_ne (by rw [hst]; exact nofun)]
      exact hf hs
  | @lockEntryFee accs rp _ _ hrp hjoined =>
      have e := recordTotal_modify (f := RoomPlayer.claim)
        { rp with lockedAmount := r.entryFee, state := .locked } hrp
      rw [RoomPlayer.claim_of_ne (by rw [hjoined]; exact nofun), RoomPlayer.claim_of (by rfl)] at e
      exact e.trans (congrArg (· + r.entryFee) (hf hs))
  | @enterRoom accs rp _ _ _ hnone hst hamount =>
      rw [lockedTotal, recordTotal_insert rp hnone, RoomPlayer.claim_of hst, hamount]
      exact congrArg (· + r.entryFee) (hf hs)
  | startRoom _ hopen => exact hf (by rw [hopen]; exact nofun)
  | unlockPrize _ hst => exact hf (by rw [hst]; exact nofun)
  | distributeWinnings => exact absurd rfl hs
  | settleToWinner => exact absurd rfl hs
  | cancelRoom _ hns => exact hf hns
  | @claimRefund accs rp _ _ hrp hlocked =>
      have e := recordTotal_modify (f := RoomPlayer.claim) { rp with state := .refunded } hrp
      rw [RoomPlayer.claim_of hlocked, RoomPlayer.claim_of_ne (by simp)] at e
      have := hf hs
      simp only [lockedTotal] at this ⊢
      omega
  | @closeRoomPlayer accs rp _ hrp hst =>
      have e := recordTotal_remove (f := RoomPlayer.claim) hrp
      have hne : rp.state ≠ .locked := by
        rcases hst with h | h <;> rw [h] <;> exact nofun
      rw [RoomPlayer.claim_of_ne hne, add_zero] at e
      rw [← hf hs]
      exact e

theorem Step.funded {rt : Runtime} {s s' : State} {l : Event}
    (h : Guarded (Step rt) OpensUnlocked s l s') (hs : s.Funded) : s'.Funded := by
  obtain ⟨h, hg⟩ := h
  cases h with
  | outside => exact hs
  | @exec now i t ht =>
      have hf := exec_effect ht
      intro id r' hr' hns
      cases hr : s.rooms.get id with
      | none =>
          obtain ⟨⟨accs, fee, max, rfl⟩, hrps, -, -, -, hl⟩ := hf.room_created hr hr'
          rw [hrps, hl]
          exact recordTotal_eq_zero fun p rp hrp => RoomPlayer.claim_of_ne (hg p rp hrp)
      | some r =>
          by_cases hcl : i.Closes id
          · rw [hf.room_closed hcl] at hr'
            cases hr'
          · obtain ⟨r'', hr'', hch⟩ := hf.room_change hr hcl
            obtain rfl := Option.some.inj (hr''.symm.trans hr')
            exact hch.funded (hs id r hr) hns

/-! ### Where a locked record comes from -/

/-- The player `p` pays the entry fee of `id`, by either path. -/
def Instruction.Funds (id : RoomId) (p : Pubkey) : Instruction → Prop
  | .lockEntryFee accs => accs.room.key = .room id ∧ accs.player.key = p
  | .enterRoom accs => accs.room.key = .room id ∧ accs.player.key = p
  | _ => False

/-- A record locked after an instruction was there before it, or is what it paid for. -/
theorem RoomChange.locked {s : State} {id : RoomId} {r r' : Room} {i : Instruction}
    {rps : Table (Pubkey × Pubkey) RoomPlayer} (h : RoomChange s id r i rps r') {p : Pubkey}
    {rp : RoomPlayer} (hrp : rps.get (.room id, p) = some rp) (hl : rp.state = .locked) :
    s.roomPlayers.get (.room id, p) = some rp ∨ i.Funds id p := by
  -- the record written is another's, or is not locked
  have written : ∀ {q : Pubkey} {rp' : RoomPlayer}, rp'.state ≠ .locked →
      (s.roomPlayers.upd (.room id, q) rp').get (.room id, p) = some rp →
      s.roomPlayers.get (.room id, p) = some rp := by
    intro q rp' hne hget
    by_cases e : p = q
    · subst e
      rw [Table.get_upd_same] at hget
      exact absurd (Option.some.inj hget ▸ hl) hne
    · rwa [Table.get_upd_other fun h => e (Prod.mk.inj h).2] at hget
  have paid : ∀ {q : Pubkey} {rp' : RoomPlayer},
      (s.roomPlayers.upd (.room id, q) rp').get (.room id, p) = some rp →
      s.roomPlayers.get (.room id, p) = some rp ∨ q = p := by
    intro q rp' hget
    by_cases e : p = q
    · exact .inr e.symm
    · rw [Table.get_upd_other fun h => e (Prod.mk.inj h).2] at hget
      exact .inl hget
  cases h with
  | other _ hrps => exact .inl (hrps p ▸ hrp)
  | joinRoom _ _ _ _ hst => exact .inl (written (by rw [hst]; exact nofun) hrp)
  | lockEntryFee hkey => exact (paid hrp).imp_right fun e => ⟨hkey, e⟩
  | enterRoom hkey => exact (paid hrp).imp_right fun e => ⟨hkey, e⟩
  | startRoom => exact .inl hrp
  | unlockPrize => exact .inl hrp
  | @distributeWinnings _ _ _ _ ws _ _ _ _ _ _ hpaid hframe =>
      by_cases hmem : p ∈ ws.map Prod.fst
      · obtain ⟨⟨w, n⟩, hw, rfl⟩ := List.mem_map.mp hmem
        obtain ⟨_, -, -, hrp'⟩ := hpaid w n hw
        rw [Option.some.inj (hrp'.symm.trans hrp) |>.symm] at hl
        cases hl
      · exact .inl ((hframe (.room id, p) fun _ => hmem) ▸ hrp)
  | settleToWinner => exact .inl (written (by simp) hrp)
  | cancelRoom => exact .inl hrp
  | claimRefund => exact .inl (written (by simp) hrp)
  | @closeRoomPlayer accs =>
      by_cases e : p = accs.player.key
      · subst e
        rw [Table.get_del_same] at hrp
        cases hrp
      · rw [Table.get_del_other fun h => e (Prod.mk.inj h).2] at hrp
        exact .inl hrp

/-- The payment goes into the room's vault, and is the record's locked amount. -/
theorem Effect.funds {rt : Runtime} {now : ℤ} {s : State} {i : Instruction} {t : Tx}
    (h : Effect rt now s i t) {id : RoomId} {p : Pubkey} (hi : i.Funds id p) :
    ∃ rp, t.state.roomPlayers.get (.room id, p) = some rp ∧
      t.state.lamports (.roomVault id) = s.lamports (.roomVault id) + rp.lockedAmount := by
  have balance := h.moved.balance (.roomVault id)
  cases h with
  | @lockEntryFee accs _ r rp _ _ _ _ _ hkey =>
      obtain ⟨hkey', rfl⟩ := hi
      obtain rfl : r.roomId = id := Pubkey.room.inj (hkey.symm.trans hkey')
      refine ⟨_, Table.get_upd_same _ _ _, ?_⟩
      simpa using balance
  | @enterRoom accs _ r _ _ _ _ _ hkey hsig =>
      obtain ⟨hkey', rfl⟩ := hi
      obtain rfl : r.roomId = id := Pubkey.room.inj (hkey.symm.trans hkey')
      refine ⟨_, Table.get_upd_same _ _ _, ?_⟩
      simpa [hsig.ne (b := .roomVault r.roomId) trivial] using balance
  | config _ _ _ _ hcases =>
      rcases hcases with ⟨_, _, _, _, _, _, rfl⟩ | ⟨_, _, rfl⟩ | ⟨_, rfl⟩ <;> exact hi.elim
  | _ => exact hi.elim

/-- In the run `ls` from `s₁`, `p` paid for the record `rp` of the room `id`. -/
def PaidFor (rt : Runtime) (s₁ : State) (id : RoomId) (ls : List Event) (p : Pubkey)
    (rp : RoomPlayer) : Prop :=
  ∃ ls₁ now i ls₂ sa t, ls = ls₁ ++ .exec now i :: ls₂ ∧ Run (Step rt) s₁ ls₁ sa ∧
    exec rt now sa i = .ok t ∧ i.Funds id p ∧ t.state.roomPlayers.get (.room id, p) = some rp ∧
    t.state.lamports (.roomVault id) = sa.lamports (.roomVault id) + rp.lockedAmount

theorem PaidFor.snoc {rt : Runtime} {s₁ : State} {id : RoomId} {ls : List Event} {p : Pubkey}
    {rp : RoomPlayer} (h : PaidFor rt s₁ id ls p rp) (l : Event) :
    PaidFor rt s₁ id (ls ++ [l]) p rp := by
  obtain ⟨ls₁, now, i, ls₂, sa, t, rfl, h⟩ := h
  exact ⟨ls₁, now, i, ls₂ ++ [l], sa, t, by simp, h⟩

/-- Along a run that keeps the room, a locked record is an old one or was paid for. -/
theorem locked_paidFor {rt : Runtime} {s₁ s : State} {id : RoomId} {ls : List Event} {r : Room}
    (hr : s₁.rooms.get id = some r)
    (hold : ∀ p rp, s₁.roomPlayers.get (.room id, p) = some rp → rp.state ≠ .locked)
    (hrun : Run (Step rt) s₁ ls s) (hls : ∀ l ∈ ls, ∀ now i, l = .exec now i → ¬ i.Closes id) :
    (∃ r', s.rooms.get id = some r') ∧
      ∀ p rp, s.roomPlayers.get (.room id, p) = some rp → rp.state = .locked →
        PaidFor rt s₁ id ls p rp := by
  refine hrun.history (I := fun ls s => (∀ l ∈ ls, ∀ now i, l = .exec now i → ¬ i.Closes id) →
    (∃ r', s.rooms.get id = some r') ∧ ∀ p rp, s.roomPlayers.get (.room id, p) = some rp →
      rp.state = .locked → PaidFor rt s₁ id ls p rp) ?_ ?_ hls
  · exact fun _ => ⟨⟨r, hr⟩, fun p rp hrp hl => absurd hl (hold p rp hrp)⟩
  · intro ls s l s' hsofar ih hl hcl
    obtain ⟨⟨r', hr'⟩, hpaid⟩ := ih fun l hmem => hcl l (by simp [hmem])
    cases hl with
    | outside => exact ⟨⟨r', hr'⟩, fun p rp hrp hlocked => (hpaid p rp hrp hlocked).snoc _⟩
    | @exec now i t ht =>
        have hf := exec_effect ht
        obtain ⟨r'', hr'', hch⟩ := hf.room_change hr' (hcl _ (by simp) now i rfl)
        refine ⟨⟨r'', hr''⟩, fun p rp hrp hlocked => ?_⟩
        rcases hch.locked hrp hlocked with hrp' | hfunds
        · exact (hpaid p rp hrp' hlocked).snoc _
        · obtain ⟨rp', hrp', hv⟩ := hf.funds hfunds
          obtain rfl := Option.some.inj (hrp'.symm.trans hrp)
          exact ⟨ls, now, i, [], s, t, rfl, hsofar, ht, hfunds, hrp', hv⟩

/-- **Every claim on a room was paid for.**  In every state of a run in which every room opens
with no locked record at its address: for every room not settled, the locked amounts at its
address sum to `total_locked`; and each locked record of a room that was opened and not closed
since was paid for, by its player and into the room's vault, since it was opened. -/
theorem claims_paid_for {rt : Runtime} {s : State}
    (h : Reachable (Guarded (Step rt) OpensUnlocked) State.Genesis s) :
    (∀ id r, s.rooms.get id = some r → r.status ≠ .settled →
      lockedTotal id s.roomPlayers = r.totalLocked) ∧
      ∀ s₀ s₁ now accs id fee max ls,
        Guarded (Step rt) OpensUnlocked s₀ (.exec now (.createRoom accs id fee max)) s₁ →
        Run (Guarded (Step rt) OpensUnlocked) s₁ ls s →
        (∀ l ∈ ls, ∀ now i, l = .exec now i → ¬ i.Closes id) →
        ∀ p rp, s.roomPlayers.get (.room id, p) = some rp → rp.state = .locked →
          PaidFor rt s₁ id ls p rp := by
  refine ⟨h.invariant (I := State.Funded) ?_ fun _ _ _ hs hstep => Step.funded hstep hs, ?_⟩
  · intro s hs
    rw [State.Funded, hs.2.2.1]
    exact .empty
  · rintro s₀ s₁ now accs id fee max ls ⟨hstep, hg⟩ hrun hls
    cases hstep with
    | exec ht =>
        obtain ⟨-, hrps, r, hr, -⟩ := (exec_effect ht).opened
        refine (locked_paidFor hr ?_ hrun.of_guarded hls).2
        rw [hrps]
        exact hg

/-- A player in a first room, who paid for its record. -/
theorem claims_paid_for_entered :
    ∃ (s₁ : State) (ls : List Event) (s : State) (r : Room) (rp : RoomPlayer),
    s.rooms.get (.ofByte 7) = some r ∧ lockedTotal (.ofByte 7) s.roomPlayers = r.totalLocked ∧
    s.roomPlayers.get (.room (.ofByte 7), .key 4) = some rp ∧
    PaidFor .asWritten s₁ (.ofByte 7) ls (.key 4) rp := by
  have run : (exec .asWritten 0 .funded
      (Call.initializeProgram (.key 1) (.key 2) (.key 3) 500 50)).passes (fun t₀ =>
      (exec .asWritten 1 t₀.state (Call.createRoom (.key 2) (.ofByte 7) 1000000 4)).passes fun t₁ =>
        (exec .asWritten 2 t₁.state (Call.enterRoom (.key 4) (.ofByte 7))).passes fun t =>
          (t.state.rooms.get (.ofByte 7)).any (fun r => decide (r.status ≠ .settled)) &&
          (t.state.roomPlayers.get (.room (.ofByte 7), .key 4)).any fun rp =>
            decide (rp.state = .locked)) = true := by
    decide
  obtain ⟨t₀, h₀, run⟩ := Result.passes_iff.mp run
  obtain ⟨t₁, h₁, run⟩ := Result.passes_iff.mp run
  obtain ⟨t, ht, htest⟩ := Result.passes_iff.mp run
  simp only [Bool.and_eq_true, Option.any_eq_true, decide_eq_true_iff] at htest
  obtain ⟨⟨r, hr, hst⟩, rp, hrp, hlocked⟩ := htest
  have hnone := State.funded_initialized h₀
  have hcreate : Guarded (Step .asWritten) OpensUnlocked t₀.state
      (.exec 1 (Call.createRoom (.key 2) (.ofByte 7) 1000000 4)) t₁.state :=
    ⟨.exec h₁, fun p rp hrp => by rw [hnone] at hrp; cases hrp⟩
  have henter : Run (Guarded (Step .asWritten) OpensUnlocked) t₁.state
      [.exec 2 (Call.enterRoom (.key 4) (.ofByte 7))] t.state := .one ⟨.exec ht, trivial⟩
  have hreach : Reachable (Guarded (Step .asWritten) OpensUnlocked) State.Genesis t.state :=
    ⟨_, _, State.funded_genesis, .cons ⟨.exec h₀, trivial⟩ (.cons hcreate henter)⟩
  obtain ⟨htotal, hpaid⟩ := claims_paid_for hreach
  refine ⟨t₁.state, _, t.state, r, rp, hr, htotal _ r hr hst, hrp,
    hpaid _ _ _ _ _ _ _ _ hcreate henter ?_ _ rp hrp hlocked⟩
  rintro l hl now i rfl
  obtain ⟨rfl, rfl⟩ := Event.exec.inj (List.mem_singleton.mp hl)
  exact not_false

/-- A match is settled, its room closed, and its id opened again: the loser's record is a claim
on a room nobody has paid into. -/
theorem claims_paid_for_stale_record : ¬ ∀ s, Reached .asWritten s → ∀ id r,
    s.rooms.get id = some r → r.status ≠ .settled →
    lockedTotal id s.roomPlayers = r.totalLocked := by
  intro hclaim
  have run : (execAll .asWritten .funded
      [(0, Call.initializeProgram (.key 1) (.key 2) (.key 3) 500 50),
        (1, Call.createRoom (.key 2) (.ofByte 7) 1000000 4),
        (2, Call.enterRoom (.key 4) (.ofByte 7)), (3, Call.enterRoom (.key 5) (.ofByte 7)),
        (4, Call.startRoom (.key 2) (.ofByte 7)), (5, Call.unlockPrize (.key 2) (.ofByte 7)),
        (6, Call.settleToWinner (.key 2) (.key 3) (.key 4) (.ofByte 7)),
        (7, Call.closeRoom (.key 2) (.ofByte 7)),
        (8, Call.createRoom (.key 2) (.ofByte 7) 1000000 4)]).passes (fun s =>
      (s.rooms.get (.ofByte 7)).any (fun r =>
        decide (r.status ≠ .settled ∧ r.totalLocked = 0)) &&
      (s.roomPlayers.get (.room (.ofByte 7), .key 5)).any fun rp =>
        decide (rp.claim = 1000000)) = true := by
    decide
  obtain ⟨s, hs, htest⟩ := Result.passes_iff.mp run
  simp only [Bool.and_eq_true, Option.any_eq_true, decide_eq_true_iff] at htest
  obtain ⟨⟨r, hr, hst, htl⟩, rp, hrp, hcl⟩ := htest
  have hsum := hclaim s (reached_of_execAll hs) _ r hr hst
  have hle : rp.claim ≤ lockedTotal (.ofByte 7) s.roomPlayers := by
    have := Table.part_le_total (fun k rp => if k.1 = .room (.ofByte 7) then rp.claim else 0)
      s.roomPlayers (.room (.ofByte 7), .key 5)
    rwa [Table.part_of_get hrp, if_pos rfl] at this
  omega

end SnakeArena.Program
