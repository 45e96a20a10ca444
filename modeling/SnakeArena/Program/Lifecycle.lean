import SnakeArena.Program.Escrow
import SnakeArena.Program.Rooms

/-!
# Program — room lifecycle and pay-once

The life of a room from its `create_room` to its `close_room`: the statuses it goes through, the
states its entry records go through, and that a settlement and a refund exclude each other and
themselves.  `RoomLife` is what a run so far leaves true; it is carried along the run by
`RoomChange`.

The counters are carried by `State.Counted`: the entry fees locked and the records still only
joined make up the seats taken.  It needs every room to open with no joined record at its
address (`OpensUnjoined`): `close_room` leaves the records of players who never paid behind,
and `lock_entry_fee` in a later room of the same id accepts them.
-/

namespace SnakeArena.Program
open SnakeArena.Library

/-! ### Events of one room -/

namespace Event

def Settles (id : RoomId) : Event → Prop
  | .exec _ i => i.Settles id
  | .outside => False

def Closes (id : RoomId) : Event → Prop
  | .exec _ i => i.Closes id
  | .outside => False

/-- A settlement of `id` that pays `p`, or names the account of `p` as one to be paid. -/
def Pays (id : RoomId) (p : Pubkey) : Event → Prop
  | .exec _ (.distributeWinnings accs _) =>
      accs.room.key = .room id ∧ .player p ∈ accs.remaining.map AccountInfo.key
  | .exec _ (.settleToWinner accs) => accs.room.key = .room id ∧ accs.winner.key = p
  | _ => False

def Refunds (id : RoomId) (p : Pubkey) : Event → Prop
  | .exec _ (.claimRefund accs) => accs.room.key = .room id ∧ accs.player.key = p
  | _ => False

theorem Pays.settles {id : RoomId} {p : Pubkey} : ∀ {l : Event}, l.Pays id p → l.Settles id
  | .exec _ i, h => by
      cases i with
      | distributeWinnings => exact h.1
      | settleToWinner => exact h.1
      | _ => exact h.elim
  | .outside, h => h.elim

end Event

/-- The statuses a room moves between. -/
def RoomStatus.Next : RoomStatus → RoomStatus → Prop
  | .open, .inProgress | .inProgress, .unlocked | .unlocked, .settled => True
  | .open, .cancelled | .inProgress, .cancelled | .unlocked, .cancelled => True
  | _, _ => False

/-- What becomes of one entry record of a room in status `st`. -/
inductive RecordStep (st : RoomStatus) : Option RoomPlayer → Option RoomPlayer → Prop where
  | same (x : Option RoomPlayer) : RecordStep st x x
  | joined {rp : RoomPlayer} (hst : st = .open) (h : rp.state = .joined) :
      RecordStep st none (some rp)
  | entered {rp : RoomPlayer} (hst : st = .open) (h : rp.state = .locked) :
      RecordStep st none (some rp)
  | locked {rp rp' : RoomPlayer} (hst : st = .open) (h : rp.state = .joined)
      (h' : rp'.state = .locked) : RecordStep st (some rp) (some rp')
  | paid {rp rp' : RoomPlayer} (hst : st = .unlocked) (h : rp.state = .locked)
      (h' : rp'.state = .paid) : RecordStep st (some rp) (some rp')
  | refunded {rp rp' : RoomPlayer} (hst : st = .cancelled) (h : rp.state = .locked)
      (h' : rp'.state = .refunded) : RecordStep st (some rp) (some rp')
  | closed {rp : RoomPlayer} (hst : st = .settled ∨ st = .cancelled)
      (h : rp.state = .paid ∨ rp.state = .refunded) : RecordStep st (some rp) none

/-- A settlement: the room is settled with the prize distributed, the winners' records are paid
with amounts that sum to it, and no other record of any room changes. -/
structure Settlement (rps rps' : Table (Pubkey × Pubkey) RoomPlayer) (id : RoomId) (r' : Room) :
    Prop where
  status : r'.status = .settled
  distributed : r'.distributed = r'.prizePool
  winners : ∃ ws : List (Pubkey × ℕ), (ws.map Prod.fst).Nodup ∧
    (ws.map Prod.snd).sum = r'.distributed ∧
    (∀ w n, (w, n) ∈ ws → ∃ rp, rps.get (.room id, w) = some rp ∧ rp.state = .locked ∧
      rps'.get (.room id, w) = some { rp with payout := n, state := .paid }) ∧
    ∀ k, (k.1 = .room id → k.2 ∉ ws.map Prod.fst) → rps'.get k = rps.get k

namespace RoomChange
variable {s : State} {id : RoomId} {r r' : Room} {i : Instruction}
  {rps : Table (Pubkey × Pubkey) RoomPlayer}

theorem status (h : RoomChange s id r i rps r') :
    r'.status = r.status ∨ r.status.Next r'.status := by
  cases h with
  | startRoom _ hopen => exact .inr (by rw [hopen]; trivial)
  | unlockPrize _ hst => exact .inr (by rw [hst]; trivial)
  | distributeWinnings _ hst => exact .inr (by rw [hst]; trivial)
  | settleToWinner _ hst => exact .inr (by rw [hst]; trivial)
  | cancelRoom _ hns hnc =>
      refine .inr ?_
      cases hst : r.status with
      | settled => exact absurd hst hns
      | cancelled => exact absurd hst hnc
      | _ => trivial
  | _ => exact .inl rfl

/-- One record, whatever its player. -/
theorem record (h : RoomChange s id r i rps r') (p : Pubkey) :
    RecordStep r.status (s.roomPlayers.get (.room id, p)) (rps.get (.room id, p)) := by
  -- one record written, or removed: ours or another's
  have upd : ∀ {q : Pubkey} {rp : RoomPlayer},
      RecordStep r.status (s.roomPlayers.get (.room id, q)) (some rp) →
      RecordStep r.status (s.roomPlayers.get (.room id, p))
        ((s.roomPlayers.upd (.room id, q) rp).get (.room id, p)) := by
    intro q rp hq
    by_cases e : p = q
    · subst e
      rwa [Table.get_upd_same]
    · rw [Table.get_upd_other fun h => e (Prod.mk.inj h).2]
      exact .same _
  cases h with
  | other _ hrps => rw [hrps]; exact .same _
  | joinRoom _ hopen _ hnone hst => exact upd (by rw [hnone]; exact .joined hopen hst)
  | lockEntryFee _ hopen hrp hjoined => exact upd (by rw [hrp]; exact .locked hopen hjoined rfl)
  | enterRoom _ hopen _ hnone hst => exact upd (by rw [hnone]; exact .entered hopen hst)
  | startRoom => exact .same _
  | unlockPrize => exact .same _
  | @distributeWinnings _ _ _ _ ws _ hst _ _ _ _ hpaid hframe =>
      by_cases hmem : p ∈ ws.map Prod.fst
      · obtain ⟨⟨w, n⟩, hw, rfl⟩ := List.mem_map.mp hmem
        obtain ⟨rp, hrp, hlocked, hrp'⟩ := hpaid w n hw
        rw [hrp, hrp']
        exact .paid hst hlocked rfl
      · rw [hframe _ fun _ => hmem]
        exact .same _
  | settleToWinner _ hst hrp hlocked => exact upd (by rw [hrp]; exact .paid hst hlocked rfl)
  | cancelRoom => exact .same _
  | claimRefund _ hst hrp hlocked => exact upd (by rw [hrp]; exact .refunded hst hlocked rfl)
  | @closeRoomPlayer accs rp _ hrp hst hfin =>
      by_cases e : p = accs.player.key
      · subst e
        rw [hrp, Table.get_del_same]
        exact .closed hfin hst
      · rw [Table.get_del_other fun h => e (Prod.mk.inj h).2]
        exact .same _

theorem settlement (h : RoomChange s id r i rps r') (hi : i.Settles id) :
    r.status = .unlocked ∧ Settlement s.roomPlayers rps id r' := by
  cases h with
  | other h => 
      cases i with
      | distributeWinnings => exact absurd hi h
      | settleToWinner => exact absurd hi h
      | _ => exact hi.elim
  | @distributeWinnings _ _ _ _ ws _ hst hsnd hnodup hsum _ hpaid hframe =>
      exact ⟨hst, rfl, rfl, ws, hnodup, by rw [hsnd, hsum], hpaid, hframe⟩
  | @settleToWinner accs rp _ _ hst hrp hlocked =>
      refine ⟨hst, rfl, rfl, [(accs.winner.key, r.prizePool)], by simp, by simp, ?_, ?_⟩
      · rintro w n hw
        obtain ⟨rfl, rfl⟩ := Prod.mk.inj (List.mem_singleton.mp hw)
        exact ⟨rp, hrp, hlocked, Table.get_upd_same _ _ _⟩
      · rintro ⟨a, b⟩ hk
        refine Table.get_upd_other fun e => ?_
        obtain ⟨rfl, rfl⟩ := Prod.mk.inj e
        exact hk rfl (by simp)
  | _ => exact hi.elim

/-- A finished room stays as it is, but for the refunds of a cancelled one. -/
theorem finished (h : RoomChange s id r i rps r') (hs : r.status = .settled) : r' = r := by
  cases h with
  | other => rfl
  | closeRoomPlayer => rfl
  | cancelRoom _ hns => exact absurd hs hns
  | joinRoom _ hst | lockEntryFee _ hst | enterRoom _ hst | startRoom _ hst | unlockPrize _ hst
  | distributeWinnings _ hst | settleToWinner _ hst | claimRefund _ hst =>
      cases hs.symm.trans hst

/-- Only a settlement settles. -/
theorem settled_before (h : RoomChange s id r i rps r') (hs : r'.status = .settled)
    (hi : ¬ i.Settles id) : r.status = .settled := by
  cases h with
  | distributeWinnings hkey => exact absurd hkey hi
  | settleToWinner hkey => exact absurd hkey hi
  | other => exact hs
  | closeRoomPlayer => exact hs
  | joinRoom _ hst | lockEntryFee _ hst | enterRoom _ hst | claimRefund _ hst =>
      cases hst.symm.trans hs
  | startRoom | unlockPrize | cancelRoom => cases hs

/-- A refund is of a locked record of a cancelled room, which it marks refunded. -/
theorem refund (h : RoomChange s id r i rps r') {now : ℤ} {p : Pubkey}
    (hi : Event.Refunds id p (.exec now i)) :
    r.status = .cancelled ∧ r'.status = .cancelled ∧
      (∃ rp, s.roomPlayers.get (.room id, p) = some rp ∧ rp.state = .locked) ∧
      ∃ rp, rps.get (.room id, p) = some rp ∧ rp.state = .refunded := by
  cases h with
  | other h =>
      cases i with
      | claimRefund => exact absurd hi.1 h
      | _ => exact hi.elim
  | claimRefund _ hst hrp hlocked =>
      obtain ⟨-, rfl⟩ := hi
      exact ⟨hst, hst, ⟨_, hrp, hlocked⟩, _, Table.get_upd_same _ _ _, rfl⟩
  | _ => exact hi.elim

end RoomChange

/-- A record is locked only in an open room. -/
theorem RecordStep.locked_before {st : RoomStatus} {x : Option RoomPlayer} {rp' : RoomPlayer}
    (h : RecordStep st x (some rp')) (hst : st ≠ .open) (hl : rp'.state = .locked) :
    ∃ rp, x = some rp ∧ rp.state = .locked := by
  cases h with
  | same => exact ⟨rp', rfl, hl⟩
  | joined h | entered h | locked h => exact absurd h hst
  | paid _ h _ => exact ⟨_, rfl, h⟩
  | refunded _ h _ => exact ⟨_, rfl, h⟩

/-! ### The life of a room -/

/-- What the run `ls` from the creation of `id` in `s₁` leaves true of it in `s`. -/
structure RoomLife (rt : Runtime) (s₁ : State) (id : RoomId) (ls : List Event) (s : State)
    (r : Room) : Prop where
  room : s.rooms.get id = some r
  unsettled : r.status ≠ .settled → ∀ l ∈ ls, ¬ l.Settles id
  unrefunded : r.status ≠ .cancelled → ∀ l ∈ ls, ∀ p, ¬ l.Refunds id p
  oneSettlement : ls.Pairwise fun l l' => ¬ (l.Settles id ∧ l'.Settles id)
  oneRefund : ∀ p, ls.Pairwise fun l l' => ¬ (l.Refunds id p ∧ l'.Refunds id p)
  refunded : ∀ p, (∃ l ∈ ls, l.Refunds id p) →
    ∀ rp, s.roomPlayers.get (.room id, p) = some rp → rp.state ≠ .locked
  settled : r.status = .settled → ∃ ls₁ now i ls₂ sa t,
    ls = ls₁ ++ .exec now i :: ls₂ ∧ Run (Step rt) s₁ ls₁ sa ∧ exec rt now sa i = .ok t ∧
      i.Settles id ∧ Settlement sa.roomPlayers t.state.roomPlayers id r

theorem pairwise_snoc {α : Type*} {R : α → α → Prop} {ls : List α} {l : α} (h : ls.Pairwise R)
    (hl : ∀ x ∈ ls, R x l) : (ls ++ [l]).Pairwise R :=
  List.pairwise_append.mpr ⟨h, List.pairwise_singleton _ _, fun x hx y hy => by
    rw [List.mem_singleton.mp hy]
    exact hl x hx⟩

section Life
variable {rt : Runtime} {s₁ s s' : State} {id : RoomId} {ls : List Event} {r : Room}

theorem RoomLife.opened (hr : s₁.rooms.get id = some r) (hst : r.status = .open) :
    RoomLife rt s₁ id [] s₁ r where
  room := hr
  unsettled _ := by simp
  unrefunded _ := by simp
  oneSettlement := .nil
  oneRefund _ := .nil
  refunded _ h := by simp at h
  settled h := by cases hst.symm.trans h

/-- **The step of a room's life.** -/
theorem RoomLife.step (h : RoomLife rt s₁ id ls s r) (hrun : Run (Step rt) s₁ ls s) {now : ℤ}
    {i : Instruction} {t : Tx} (ht : exec rt now s i = .ok t) (hi : ¬ i.Closes id) :
    ∃ r', RoomLife rt s₁ id (ls ++ [.exec now i]) t.state r' := by
  obtain ⟨r', hr', hch⟩ := (exec_effect ht).room_change h.room hi
  have mem : ∀ {P : Event → Prop}, (∀ l ∈ ls, P l) → P (.exec now i) →
      ∀ l ∈ ls ++ [.exec now i], P l := by
    intro P hP hl l hmem
    rcases List.mem_append.mp hmem with hmem | hmem
    · exact hP l hmem
    · rw [List.mem_singleton.mp hmem]
      exact hl
  have cancelled : r.status = .cancelled → r'.status = .cancelled := by
    intro hc
    rcases hch.status with e | e
    · rw [e, hc]
    · rw [hc] at e
      exact e.elim
  have locked : ∀ p rp', r.status ≠ .open → t.state.roomPlayers.get (.room id, p) = some rp' →
      rp'.state = .locked → ∃ rp, s.roomPlayers.get (.room id, p) = some rp ∧ rp.state = .locked :=
    fun p rp' hst hrp' hl => (hrp' ▸ hch.record p).locked_before hst hl
  refine ⟨r', hr', ?_, ?_, ?_, ?_, ?_, ?_⟩
  · intro hns
    have hni : ¬ i.Settles id := fun hi => hns (hch.settlement hi).2.status
    refine mem (h.unsettled fun hs => hns ?_) hni
    rw [hch.finished hs, hs]
  · intro hnc
    refine mem (h.unrefunded fun hc => hnc (cancelled hc)) fun p hp => ?_
    exact hnc (hch.refund hp).2.1
  · refine pairwise_snoc h.oneSettlement fun l hl ⟨h₁, h₂⟩ => ?_
    have hst := (hch.settlement h₂).1
    exact h.unsettled (by rw [hst]; exact nofun) l hl h₁
  · intro p
    refine pairwise_snoc (h.oneRefund p) fun l hl ⟨h₁, h₂⟩ => ?_
    obtain ⟨-, -, ⟨rp, hrp, hlocked⟩, -⟩ := hch.refund h₂
    exact h.refunded p ⟨l, hl, h₁⟩ rp hrp hlocked
  · rintro p ⟨l, hl, hp⟩ rp' hrp' hlocked
    rcases List.mem_append.mp hl with hl | hl
    · -- a refund already made: the room is cancelled, and no record of it becomes locked
      have hc : r.status = .cancelled := by
        by_contra hc
        exact h.unrefunded hc l hl p hp
      obtain ⟨rp, hrp, hl'⟩ := locked p rp' (by rw [hc]; exact nofun) hrp' hlocked
      exact h.refunded p ⟨l, hl, hp⟩ rp hrp hl'
    · rw [List.mem_singleton.mp hl] at hp
      obtain ⟨-, -, -, rp, hrp, hst⟩ := hch.refund hp
      obtain rfl := Option.some.inj (hrp.symm.trans hrp')
      cases hst.symm.trans hlocked
  · intro hs'
    by_cases hset : i.Settles id
    · exact ⟨ls, now, i, [], s, t, rfl, hrun, ht, hset, (hch.settlement hset).2⟩
    · have hs := hch.settled_before hs' hset
      obtain ⟨ls₁, now', i', ls₂, sa, t', rfl, h₁, h₂, h₃, h₄⟩ := h.settled hs
      refine ⟨ls₁, now', i', ls₂ ++ [.exec now i], sa, t', by simp, h₁, h₂, h₃, ?_⟩
      rw [hch.finished hs]
      exact h₄

theorem RoomLife.outside (h : RoomLife rt s₁ id ls s r) (l : Pubkey → ℕ) :
    RoomLife rt s₁ id (ls ++ [.outside]) { s with lamports := l } r where
  room := h.room
  unsettled hns l hl := by
    rcases List.mem_append.mp hl with hl | hl
    · exact h.unsettled hns l hl
    · rw [List.mem_singleton.mp hl]; exact not_false
  unrefunded hnc l hl p := by
    rcases List.mem_append.mp hl with hl | hl
    · exact h.unrefunded hnc l hl p
    · rw [List.mem_singleton.mp hl]; exact not_false
  oneSettlement := pairwise_snoc h.oneSettlement fun _ _ h => h.2
  oneRefund p := pairwise_snoc (h.oneRefund p) fun _ _ h => h.2
  refunded p := by
    rintro ⟨l, hl, hp⟩
    rcases List.mem_append.mp hl with hl | hl
    · exact h.refunded p ⟨l, hl, hp⟩
    · rw [List.mem_singleton.mp hl] at hp
      exact hp.elim
  settled hs := by
    obtain ⟨ls₁, now', i', ls₂, sa, t', rfl, h₁, h₂, h₃, h₄⟩ := h.settled hs
    exact ⟨ls₁, now', i', ls₂ ++ [.outside], sa, t', by simp, h₁, h₂, h₃, h₄⟩

/-- A run that does not close the room is a stretch of its life. -/
theorem RoomLife.run (hr : s₁.rooms.get id = some r) (hst : r.status = .open)
    (hrun : Run (Step rt) s₁ ls s) (hls : ∀ l ∈ ls, ¬ l.Closes id) :
    ∃ r', RoomLife rt s₁ id ls s r' := by
  refine hrun.history (I := fun ls s => (∀ l ∈ ls, ¬ l.Closes id) → ∃ r', RoomLife rt s₁ id ls s r')
    (fun _ => ⟨r, .opened hr hst⟩) ?_ hls
  intro ls s l s' h ih hl hcl
  obtain ⟨r', hlife⟩ := ih fun l hmem => hcl l (by simp [hmem])
  cases hl with
  | @exec now i _ ht => exact hlife.step h ht (hcl (.exec now i) (by simp))
  | outside => exact ⟨r', hlife.outside _⟩

end Life

/-! ### The counters -/

/-- One for a record that is still only joined. -/
def RoomPlayer.joinedOne (rp : RoomPlayer) : ℕ := if rp.state = .joined then 1 else 0

theorem RoomPlayer.joinedOne_of {rp : RoomPlayer} (h : rp.state = .joined) : rp.joinedOne = 1 :=
  if_pos h

theorem RoomPlayer.joinedOne_of_ne {rp : RoomPlayer} (h : rp.state ≠ .joined) :
    rp.joinedOne = 0 := if_neg h

/-- The records at the address of `id` that are still only joined. -/
noncomputable def joinedCount (id : RoomId) (rps : Table (Pubkey × Pubkey) RoomPlayer) : ℕ :=
  recordTotal RoomPlayer.joinedOne id rps

/-- Every seat taken is locked or still only joined. -/
def State.Counted (s : State) : Prop :=
  s.rooms.All fun id r =>
    r.lockedCount + joinedCount id s.roomPlayers = r.playerCount ∧ r.playerCount ≤ r.maxPlayers

/-- Where `create_room` runs, no joined record is at the room's address. -/
def OpensUnjoined (s : State) : Event → Prop
  | .exec _ (.createRoom _ id _ _) =>
      ∀ p rp, s.roomPlayers.get (.room id, p) = some rp → rp.state ≠ .joined
  | _ => True

theorem RoomChange.counted {s : State} {id : RoomId} {r r' : Room} {i : Instruction}
    {rps : Table (Pubkey × Pubkey) RoomPlayer} (h : RoomChange s id r i rps r')
    (hc : r.lockedCount + joinedCount id s.roomPlayers = r.playerCount)
    (hm : r.playerCount ≤ r.maxPlayers) :
    r'.lockedCount + joinedCount id rps = r'.playerCount ∧ r'.playerCount ≤ r'.maxPlayers := by
  -- a locked record rewritten as one that is not merely joined
  have rewrite : ∀ {p : Pubkey} {rp : RoomPlayer} (rp' : RoomPlayer),
      s.roomPlayers.get (.room id, p) = some rp → rp.state = .locked → rp'.state ≠ .joined →
      joinedCount id (s.roomPlayers.upd (.room id, p) rp') = joinedCount id s.roomPlayers := by
    intro p rp rp' hrp h₁ h₂
    have e := recordTotal_modify (f := RoomPlayer.joinedOne) rp' hrp
    rwa [RoomPlayer.joinedOne_of_ne (by rw [h₁]; exact nofun),
      RoomPlayer.joinedOne_of_ne h₂] at e
  cases h with
  | other _ hrps =>
      have e : joinedCount id rps = joinedCount id s.roomPlayers :=
        recordTotal_congr fun p => by rw [hrps p]
      exact ⟨e ▸ hc, hm⟩
  | @joinRoom accs rp _ _ hfull hnone hst =>
      refine ⟨?_, hfull⟩
      rw [joinedCount, recordTotal_insert rp hnone, RoomPlayer.joinedOne_of hst]
      exact congrArg (· + 1) hc
  | @lockEntryFee accs rp _ _ hrp hjoined =>
      refine ⟨?_, hm⟩
      have e := recordTotal_modify (f := RoomPlayer.joinedOne)
        { rp with lockedAmount := r.entryFee, state := .locked } hrp
      rw [RoomPlayer.joinedOne_of hjoined, RoomPlayer.joinedOne_of_ne (by simp)] at e
      simp only [joinedCount] at hc ⊢
      omega
  | @enterRoom accs rp _ _ hfull hnone hst =>
      refine ⟨?_, hfull⟩
      have e := recordTotal_insert (f := RoomPlayer.joinedOne) rp hnone
      rw [RoomPlayer.joinedOne_of_ne (by rw [hst]; exact nofun)] at e
      show r.lockedCount + 1 + joinedCount id _ = r.playerCount + 1
      simp only [joinedCount] at hc ⊢
      omega
  | startRoom => exact ⟨hc, hm⟩
  | unlockPrize => exact ⟨hc, hm⟩
  | @distributeWinnings _ _ _ _ ws _ _ _ _ _ _ hpaid hframe =>
      have e : joinedCount id rps = joinedCount id s.roomPlayers := by
        refine recordTotal_congr fun p => ?_
        by_cases hmem : p ∈ ws.map Prod.fst
        · obtain ⟨⟨w, n⟩, hw, rfl⟩ := List.mem_map.mp hmem
          obtain ⟨rp, hrp, hlocked, hrp'⟩ := hpaid w n hw
          simp [hrp, hrp', hlocked, RoomPlayer.joinedOne]
        · rw [hframe _ fun _ => hmem]
      exact ⟨e ▸ hc, hm⟩
  | @settleToWinner _ rp _ _ _ hrp hlocked =>
      have e := rewrite { rp with payout := r.prizePool, state := .paid } hrp hlocked nofun
      exact ⟨e.symm ▸ hc, hm⟩
  | cancelRoom => exact ⟨hc, hm⟩
  | @claimRefund _ rp _ _ hrp hlocked =>
      have e := rewrite { rp with state := .refunded } hrp hlocked nofun
      exact ⟨e.symm ▸ hc, hm⟩
  | @closeRoomPlayer _ rp _ hrp hst =>
      have e := recordTotal_remove (f := RoomPlayer.joinedOne) hrp
      have hne : rp.state ≠ .joined := by
        rcases hst with h | h <;> rw [h] <;> exact nofun
      rw [RoomPlayer.joinedOne_of_ne hne, add_zero] at e
      exact ⟨by rw [joinedCount, e]; exact hc, hm⟩

theorem Step.counted {rt : Runtime} {s s' : State} {l : Event}
    (h : Guarded (Step rt) OpensUnjoined s l s') (hs : s.Counted) : s'.Counted := by
  obtain ⟨h, hg⟩ := h
  cases h with
  | outside => exact hs
  | @exec now i t ht =>
      have hf := exec_effect ht
      intro id r' hr'
      cases hr : s.rooms.get id with
      | none =>
          obtain ⟨⟨accs, fee, max, rfl⟩, hrps, -, hl, hp, -⟩ := hf.room_created hr hr'
          have e : joinedCount id s.roomPlayers = 0 := recordTotal_eq_zero fun p rp hrp =>
            if_neg (hg p rp hrp)
          rw [hrps, hl, hp, e]
          exact ⟨rfl, Nat.zero_le _⟩
      | some r =>
          by_cases hcl : i.Closes id
          · rw [hf.room_closed hcl] at hr'
            cases hr'
          · obtain ⟨r'', hr'', hch⟩ := hf.room_change hr hcl
            obtain rfl := Option.some.inj (hr''.symm.trans hr')
            exact hch.counted (hs id r hr).1 (hs id r hr).2

/-! ### Lifecycle and pay-once -/

/-- **Room lifecycle and pay-once.**  In a run in which every room opens with no joined record
at its address, and for a room `id` created in it and not closed since: the seats locked are at
most the seats taken, and these at most the capacity; the room was settled at most once, never
both settled and refunded, and no player was paid or refunded twice; if it is settled, its
settlement distributed the prize as the payouts it wrote.  And whatever comes next, short of
closing the room, its status and each of its entry records move as `RoomStatus.Next` and
`RecordStep` say. -/
theorem room_lifecycle {rt : Runtime} {s₀ s₁ s : State} {now : ℤ} {accs : CreateRoom}
    {id : RoomId} {fee max : ℕ} {ls : List Event}
    (h₀ : Reachable (Guarded (Step rt) OpensUnjoined) State.Genesis s₀)
    (hc : Guarded (Step rt) OpensUnjoined s₀ (.exec now (.createRoom accs id fee max)) s₁)
    (hrun : Run (Guarded (Step rt) OpensUnjoined) s₁ ls s) (hls : ∀ l ∈ ls, ¬ l.Closes id) :
    ∃ r, s.rooms.get id = some r ∧
      r.lockedCount ≤ r.playerCount ∧ r.playerCount ≤ r.maxPlayers ∧
      ls.Pairwise (fun l l' => ¬ (l.Settles id ∧ l'.Settles id)) ∧
      (∀ l ∈ ls, l.Settles id → ∀ l' ∈ ls, ∀ p, ¬ l'.Refunds id p) ∧
      (∀ p, ls.Pairwise fun l l' =>
        ¬ ((l.Pays id p ∨ l.Refunds id p) ∧ (l'.Pays id p ∨ l'.Refunds id p))) ∧
      (r.status = .settled → ∃ ls₁ now i ls₂ sa t, ls = ls₁ ++ .exec now i :: ls₂ ∧
        Run (Step rt) s₁ ls₁ sa ∧ exec rt now sa i = .ok t ∧ i.Settles id ∧
        Settlement sa.roomPlayers t.state.roomPlayers id r) ∧
      ∀ l s', Step rt s l s' → ¬ l.Closes id → ∃ r', s'.rooms.get id = some r' ∧
        (r'.status = r.status ∨ r.status.Next r'.status) ∧
        ∀ p, RecordStep r.status (s.roomPlayers.get (.room id, p))
          (s'.roomPlayers.get (.room id, p)) := by
  have hcounted : s.Counted := by
    refine hrun.invariant (fun _ _ _ hs hstep => Step.counted hstep hs) ?_
    refine Step.counted hc (h₀.invariant ?_ fun _ _ _ hs hstep => Step.counted hstep hs)
    intro s hs
    rw [State.Counted, hs.2.2.1]
    exact .empty
  obtain ⟨r₁, hr₁, hopen⟩ : ∃ r, s₁.rooms.get id = some r ∧ r.status = .open := by
    obtain ⟨hstep, -⟩ := hc
    cases hstep with
    | exec ht => exact (exec_effect ht).opened.2.2
  obtain ⟨r, hlife⟩ := RoomLife.run hr₁ hopen hrun.of_guarded hls
  -- a settlement and a refund have no status in common
  have apart : ∀ l ∈ ls, l.Settles id → ∀ l' ∈ ls, ∀ p, ¬ l'.Refunds id p := by
    intro l hl hs l' hl' p hp
    have h₁ : r.status = .settled := by
      by_contra hns
      exact hlife.unsettled hns l hl hs
    have h₂ : r.status = .cancelled := by
      by_contra hnc
      exact hlife.unrefunded hnc l' hl' p hp
    cases h₁.symm.trans h₂
  refine ⟨r, hlife.room, ?_, (hcounted id r hlife.room).2, hlife.oneSettlement, apart,
    fun p => ?_, hlife.settled, ?_⟩
  · have := (hcounted id r hlife.room).1
    omega
  · have both := List.pairwise_and_iff.mpr ⟨hlife.oneSettlement, hlife.oneRefund p⟩
    refine both.imp_of_mem ?_
    rintro l l' hl hl' ⟨h₁, h₂⟩ ⟨hp | hp, hp' | hp'⟩
    · exact h₁ ⟨hp.settles, hp'.settles⟩
    · exact apart l hl hp.settles l' hl' p hp'
    · exact apart l' hl' hp'.settles l hl p hp
    · exact h₂ ⟨hp, hp'⟩
  · intro l s' hstep hcl
    cases hstep with
    | outside => exact ⟨r, hlife.room, .inl rfl, fun p => .same _⟩
    | @exec now i t ht =>
        obtain ⟨r', hr', hch⟩ := (exec_effect ht).room_change hlife.room hcl
        exact ⟨r', hr', hch.status, hch.record⟩

/-- A match of two players, settled. -/
theorem room_lifecycle_settled : ∃ s₁ ls s r,
    Run (Guarded (Step .validator) OpensUnjoined) s₁ ls s ∧ s.rooms.get (.ofByte 7) = some r ∧
    r.status = .settled ∧ r.lockedCount ≤ r.playerCount ∧
    ls.Pairwise fun l l' => ¬ (l.Settles (.ofByte 7) ∧ l'.Settles (.ofByte 7)) := by
  let rest : List (ℤ × Instruction) :=
    [(2, Call.enterRoom (.key 4) (.ofByte 7)), (3, Call.enterRoom (.key 5) (.ofByte 7)),
      (4, Call.startRoom (.key 2) (.ofByte 7)), (5, Call.unlockPrize (.key 2) (.ofByte 7)),
      (6, Call.settleToWinner (.key 2) (.key 3) (.key 4) (.ofByte 7))]
  have run : (exec .validator 0 .funded
      (Call.initializeProgram (.key 1) (.key 2) (.key 3) 500 50)).passes (fun t₀ =>
      (exec .validator 1 t₀.state (Call.createRoom (.key 2) (.ofByte 7) 1000000 4)).passes fun t₁ =>
        (execAll .validator t₁.state rest).passes fun s =>
          (s.rooms.get (.ofByte 7)).any fun r => decide (r.status = .settled)) = true := by
    decide
  obtain ⟨t₀, h₀, run⟩ := Result.passes_iff.mp run
  obtain ⟨t₁, h₁, run⟩ := Result.passes_iff.mp run
  obtain ⟨s, hs, hst⟩ := Result.passes_iff.mp run
  simp only [Option.any_eq_true, decide_eq_true_iff] at hst
  obtain ⟨r, hr, hst⟩ := hst
  have hnone := State.funded_initialized h₀
  have hreach : Reachable (Guarded (Step .validator) OpensUnjoined) State.Genesis t₀.state :=
    ⟨_, _, State.funded_genesis, .one ⟨.exec h₀, trivial⟩⟩
  have hcreate : Guarded (Step .validator) OpensUnjoined t₀.state
      (.exec 1 (Call.createRoom (.key 2) (.ofByte 7) 1000000 4)) t₁.state :=
    ⟨.exec h₁, fun p rp hrp => by rw [hnone] at hrp; cases hrp⟩
  have hrun := execAll_guarded (G := OpensUnjoined)
    (by simp [rest, OpensUnjoined, Call.enterRoom, Call.startRoom, Call.unlockPrize,
      Call.settleToWinner]) hs
  obtain ⟨r', hr', hcount, -, hone, -⟩ := room_lifecycle hreach hcreate hrun
    (by simp [rest, Event.Closes, Instruction.Closes, Call.enterRoom, Call.startRoom,
      Call.unlockPrize, Call.settleToWinner])
  obtain rfl := Option.some.inj (hr.symm.trans hr')
  exact ⟨_, _, s, r, hrun, hr, hst, hcount, hone⟩

/-- A player joins, the room is cancelled and closed, and its id opened again: the record left
behind locks its entry fee in a room where nobody took a seat. -/
theorem room_lifecycle_stale_record : ∃ s₀ s₁ s r now accs fee max ls,
    Reached .validator s₀ ∧
    Step .validator s₀ (.exec now (.createRoom accs (.ofByte 7) fee max)) s₁ ∧
    Run (Step .validator) s₁ ls s ∧ (∀ l ∈ ls, ¬ l.Closes (.ofByte 7)) ∧
    s.rooms.get (.ofByte 7) = some r ∧ ¬ r.lockedCount ≤ r.playerCount := by
  have run : (execAll .validator .funded
      [(0, Call.initializeProgram (.key 1) (.key 2) (.key 3) 500 50),
        (1, Call.deposit (.key 4) 5000000),
        (2, Call.createRoom (.key 2) (.ofByte 7) 1000000 4),
        (3, Call.joinRoom (.key 4) (.ofByte 7)), (4, Call.cancelRoom (.key 2) (.ofByte 7)),
        (5, Call.setSettlementAuthority (.key 1) (.roomVault (.ofByte 7))),
        (6, Call.closeRoom (.roomVault (.ofByte 7)) (.ofByte 7)),
        (7, Call.setSettlementAuthority (.key 1) (.key 2))]).passes (fun s₀ =>
      (exec .validator 8 s₀ (Call.createRoom (.key 2) (.ofByte 7) 1000000 4)).passes fun t₁ =>
        (exec .validator 9 t₁.state (Call.lockEntryFee (.key 4) (.ofByte 7))).passes fun t =>
          (t.state.rooms.get (.ofByte 7)).any fun r =>
            decide (¬ r.lockedCount ≤ r.playerCount)) = true := by
    decide
  obtain ⟨s₀, h₀, run⟩ := Result.passes_iff.mp run
  obtain ⟨t₁, h₁, run⟩ := Result.passes_iff.mp run
  obtain ⟨t, h, hlt⟩ := Result.passes_iff.mp run
  simp only [Option.any_eq_true, decide_eq_true_iff] at hlt
  obtain ⟨r, hr, hlt⟩ := hlt
  exact ⟨s₀, t₁.state, t.state, r, 8, _, _, _, [.exec 9 _], reached_of_execAll h₀, .exec h₁,
    .one (.exec h), by simp [Event.Closes, Instruction.Closes, Call.lockEntryFee], hr, hlt⟩

end SnakeArena.Program
