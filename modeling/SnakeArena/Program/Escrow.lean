import SnakeArena.Program.Calls

/-!
# Program — per-room escrow

Until a room is settled its vault holds the rent and `total_locked`, and once the prize is
unlocked the split is the whole of `total_locked` (`Room.Escrowed`).  Lamports leave a vault in
four instructions; each is covered, so none of the three that pay out finds the vault short,
and a settlement takes `total_locked` out of it exactly.
-/

namespace SnakeArena.Program
open SnakeArena.Library

/-- The room's own books against a vault balance. -/
def Room.Escrowed (rt : Runtime) (vault : ℕ) (r : Room) : Prop :=
  r.status ≠ .settled → rt.minimumBalance 0 + r.totalLocked ≤ vault ∧
    (r.status = .unlocked → r.prizePool + r.rakeAmount = r.totalLocked)

/-- Every room's vault has its floor and what the room still owes. -/
def State.Escrowed (rt : Runtime) (s : State) : Prop :=
  s.rooms.All fun id r => r.Escrowed rt (s.lamports (.roomVault id))

/-- More in the vault does no harm. -/
theorem Room.Escrowed.mono {rt : Runtime} {v v' : ℕ} {r : Room} (h : r.Escrowed rt v)
    (hv : v ≤ v') : r.Escrowed rt v' := fun hs => ⟨(h hs).1.trans hv, (h hs).2⟩

/-- The instructions that take lamports out of the vault of `id`. -/
def Instruction.PaysFrom (id : RoomId) : Instruction → Prop
  | .claimRefund accs => accs.room.key = .room id
  | .distributeWinnings accs _ => accs.room.key = .room id
  | .settleToWinner accs => accs.room.key = .room id
  | .closeRoom accs => accs.room.key = .room id
  | _ => False

/-- A vault pays only in a refund, a settlement and a close. -/
theorem Effect.vault_source {rt : Runtime} {now : ℤ} {s : State} {i : Instruction} {t : Tx}
    (h : Effect rt now s i t) {id : RoomId} {m : Move Pubkey} (hm : m ∈ t.moves)
    (hs : m.source = .roomVault id) : i.PaysFrom id := by
  have pays : ∀ {a b : Pubkey} {n : ℕ}, m ∈ payment a b n → a = .roomVault id := by
    intro a b n hm
    rw [mem_payment hm] at hs
    exact hs
  cases h with
  | initializeProgram _ hsig =>
      simp only [List.append_assoc, List.mem_append, List.mem_singleton] at hm
      rcases hm with rfl | hm | hm
      · exact absurd hs (hsig.ne trivial)
      · exact absurd (pays hm) (hsig.ne trivial)
      · exact absurd (pays hm) (hsig.ne trivial)
  | config => simp at hm
  | withdrawTreasury => cases pays hm
  | deposit _ _ hsig _ hms =>
      rcases List.mem_append.mp hm with hm | hm
      · exact absurd ((hms m hm).1.symm.trans hs) (hsig.ne trivial)
      · obtain rfl := List.mem_singleton.mp hm
        exact absurd hs (hsig.ne trivial)
  | withdraw =>
      rcases List.mem_append.mp hm with hm | hm
      · cases pays hm
      · cases pays hm
  | createRoom _ _ _ _ hsig =>
      rcases List.mem_append.mp hm with hm | hm
      · obtain rfl := List.mem_singleton.mp hm
        exact absurd hs (hsig.ne trivial)
      · exact absurd (pays hm) (hsig.ne trivial)
  | joinRoom _ _ _ _ hsig =>
      obtain rfl := List.mem_singleton.mp hm
      exact absurd hs (hsig.ne trivial)
  | lockEntryFee => cases pays hm
  | enterRoom _ _ _ _ hsig =>
      simp only [List.mem_cons, List.not_mem_nil, or_false] at hm
      rcases hm with rfl | rfl
      · exact absurd hs (hsig.ne trivial)
      · exact absurd hs (hsig.ne trivial)
  | startRoom => simp at hm
  | unlockPrize => simp at hm
  | distributeWinnings _ _ hkey =>
      rcases List.mem_append.mp hm with hm | hm
      · exact Pubkey.roomVault.inj (pays hm) ▸ hkey
      · exact Pubkey.roomVault.inj (pays hm) ▸ hkey
  | settleToWinner _ _ hkey =>
      rcases List.mem_append.mp hm with hm | hm
      · exact Pubkey.roomVault.inj (pays hm) ▸ hkey
      · exact Pubkey.roomVault.inj (pays hm) ▸ hkey
  | cancelRoom => simp at hm
  | claimRefund _ hkey => exact Pubkey.roomVault.inj (pays hm) ▸ hkey
  | closeRoom _ _ hkey =>
      simp only [List.mem_cons, List.not_mem_nil, or_false] at hm
      rcases hm with rfl | rfl
      · exact Pubkey.roomVault.inj hs ▸ hkey
      · cases hs
  | closeRoomPlayer =>
      obtain rfl := List.mem_singleton.mp hm
      cases hs

/-- A vault that an instruction does not pay from does not fall. -/
theorem Effect.vault_le {rt : Runtime} {now : ℤ} {s : State} {i : Instruction} {t : Tx}
    (h : Effect rt now s i t) {id : RoomId} (hi : ¬ i.PaysFrom id) :
    s.lamports (.roomVault id) ≤ t.state.lamports (.roomVault id) :=
  h.moved.le fun _ hm hs => hi (h.vault_source hm hs)

/-- **Every instruction keeps the vaults funded.**. -/
theorem Effect.escrowed {rt : Runtime} {now : ℤ} {s : State} {i : Instruction} {t : Tx}
    (h : Effect rt now s i t) (hs : s.Escrowed rt) : t.state.Escrowed rt := by
  have le : ∀ id, ¬ i.PaysFrom id →
      s.lamports (.roomVault id) ≤ t.state.lamports (.roomVault id) := fun _ => h.vault_le
  have balance := fun id => h.moved.balance (.roomVault id)
  -- the rooms as they were, against the vaults as they are, where none was paid from
  have kept : (∀ id, ¬ i.PaysFrom id) →
      s.rooms.All fun id r => r.Escrowed rt (t.state.lamports (.roomVault id)) :=
    fun hi => hs.mono fun id _ hr => hr.mono (le id (hi id))
  cases h with
  | initializeProgram => exact kept fun _ => id
  | config => exact hs
  | withdrawTreasury => exact kept fun _ => id
  | deposit => exact kept fun _ => id
  | withdraw => exact kept fun _ => id
  | createRoom _ _ _ _ _ _ _ _ _ hrent =>
      exact (kept fun _ => id).upd fun _ => ⟨hrent, by rintro ⟨⟩⟩
  | joinRoom _ _ hr => exact (kept fun _ => id).modify hr id
  | @lockEntryFee accs c r rp p l _ _ hr hkey _ _ _ hopen =>
      refine (kept fun _ => id).upd fun _ =>
        ⟨?_, fun hu => absurd (hopen.symm.trans hu) (by rintro ⟨⟩)⟩
      show rt.minimumBalance 0 + (r.totalLocked + r.entryFee) ≤ l (.roomVault r.roomId)
      have old := (hs _ _ hr (by rw [hopen]; rintro ⟨⟩)).1
      have e := balance r.roomId
      simp only [outflow_payment, inflow_payment, reduceCtorEq, ↓reduceIte] at e
      omega
  | @enterRoom accs c r n l _ _ hr hkey hsig _ hopen =>
      refine (kept fun _ => id).upd fun _ =>
        ⟨?_, fun hu => absurd (hopen.symm.trans hu) (by rintro ⟨⟩)⟩
      show rt.minimumBalance 0 + (r.totalLocked + r.entryFee) ≤ l (.roomVault r.roomId)
      have old := (hs _ _ hr (by rw [hopen]; rintro ⟨⟩)).1
      have e := balance r.roomId
      simp only [outflow_cons, outflow_nil, inflow_cons, inflow_nil, reduceCtorEq,
        hsig.ne (b := .roomVault r.roomId) trivial, ↓reduceIte] at e
      omega
  | startRoom _ hr _ _ _ hopen =>
      exact hs.modify hr fun old _ => ⟨(old (by rw [hopen]; rintro ⟨⟩)).1, by rintro ⟨⟩⟩
  | unlockPrize _ hr _ _ _ hst _ hle =>
      exact hs.modify hr fun old _ =>
        ⟨(old (by rw [hst]; rintro ⟨⟩)).1, fun _ => Nat.sub_add_cancel hle⟩
  | distributeWinnings _ hr hkey _ _ _ _ _ _ hcr =>
      refine Table.All.upd_frame (P := fun id r => r.Escrowed rt (s.lamports (.roomVault id)))
        (by rw [hcr.rooms]; exact hs) (fun id hne r hr => hr.mono (le id fun hi => ?_))
        fun hns => absurd rfl hns
      exact hne (Pubkey.room.inj (hi.symm.trans hkey))
  | settleToWinner _ hr hkey =>
      refine hs.upd_frame (fun id hne r hr => hr.mono (le id fun hi => ?_))
        fun hns => absurd rfl hns
      exact hne (Pubkey.room.inj (hi.symm.trans hkey))
  | cancelRoom _ hr _ hns => exact hs.modify hr fun old _ => ⟨(old hns).1, by rintro ⟨⟩⟩
  | @claimRefund accs r rp p l hr hkey _ _ hst _ hle =>
      refine hs.upd_frame (fun id hne r hr => hr.mono (le id fun hi => ?_))
        fun _ => ⟨?_, fun hu => absurd (hst.symm.trans hu) (by rintro ⟨⟩)⟩
      · exact hne (Pubkey.room.inj (hi.symm.trans hkey))
      · show rt.minimumBalance 0 + (r.totalLocked - rp.lockedAmount) ≤ l (.roomVault r.roomId)
        have old := (hs _ _ hr (by rw [hst]; rintro ⟨⟩)).1
        have e := balance r.roomId
        simp only [outflow_payment, inflow_payment, reduceCtorEq, ↓reduceIte] at e
        omega
  | closeRoom _ _ hkey =>
      refine hs.del_frame fun id hne r hr => hr.mono (le id fun hi => ?_)
      exact hne (Pubkey.room.inj (hi.symm.trans hkey))
  | closeRoomPlayer => exact kept fun _ => id

/-- So does whatever happens outside the program. -/
theorem Step.escrowed {rt : Runtime} {s s' : State} {e : Event} (h : Step rt s e s')
    (hs : s.Escrowed rt) : s'.Escrowed rt := by
  cases h with
  | exec h => exact (exec_effect h).escrowed hs
  | outside hd _ => exact hs.mono fun id _ hr => hr.mono (hd (.roomVault id) trivial)

theorem Reached.escrowed {rt : Runtime} {s : State} (h : Reached rt s) : s.Escrowed rt :=
  h.invariant (fun _ hs => by rw [State.Escrowed, hs.2.2.1]; exact .empty)
    fun _ _ _ hs hstep => hstep.escrowed hs

/-! ### The three payers -/

section Payers
variable {rt : Runtime} {now : ℤ} {s : State} {e : Error}

/-- Crediting a winner takes nothing from a vault. -/
theorem payWinner_not_short {room : Pubkey} {t : Tx} {seen : List Pubkey} {n : ℕ}
    {ri pi : AccountInfo} (he : Shortage e) : payWinner room t seen n ri pi ≠ .error e := by
  intro h
  have noRp : ∀ s a, loadRoomPlayer s a ≠ .error e :=
    fun s a h => he.not_anchor (loadRoomPlayer_error h)
  have noPlayer : ∀ s a, loadPlayer s a ≠ .error e :=
    fun s a h => he.not_anchor (loadPlayer_error h)
  cases he
  all_goals
    simp [payWinner, bind_eq_error, require_eq_error, add_eq_error, noRp, noPlayer] at h

/-- Nor does the loop. -/
theorem payWinners_not_short {room : Pubkey} (he : Shortage e) : ∀ {payouts : List ℕ}
    {infos : List AccountInfo} {seen : List Pubkey} {t : Tx},
    payWinners room t seen payouts infos ≠ .error e := by
  intro payouts
  induction payouts with
  | nil => exact nofun
  | cons n payouts ih =>
      intro infos seen t h
      match infos, h with
      | [], h => cases he <;> cases h
      | [_], h => cases he <;> cases h
      | _ :: _ :: _, h =>
          rcases bind_eq_error.mp h with h | ⟨_, -, h⟩
          · exact payWinner_not_short he h
          · exact ih h

/-- Adding up takes nothing. -/
theorem sumPayouts_not_short (he : Shortage e) : ∀ {payouts : List ℕ} {total : ℕ},
    sumPayouts total payouts ≠ .error e := by
  intro payouts
  induction payouts with
  | nil => exact nofun
  | cons n payouts ih =>
      intro total h
      simp only [sumPayouts, bind_eq_error, require_eq_error, add_eq_error, ih, and_false,
        exists_false, or_false] at h
      rcases h with ⟨-, rfl⟩ | ⟨-, -, -, rfl⟩ <;> cases he

/-- Nor does the check of the payouts. -/
theorem validatePayouts_not_short {payouts : List ℕ} {prize : ℕ} (he : Shortage e) :
    validatePayouts payouts prize ≠ .error e := by
  intro h
  have noSum : ∀ t ps, sumPayouts t ps ≠ .error e := fun _ _ => sumPayouts_not_short he
  cases he
  all_goals simp [validatePayouts, bind_eq_error, require_eq_error, noSum] at h

/-- Two payments in a row out of a vault. -/
def Tx.PaysTwice (rt : Runtime) (t : Tx) (v d d' : Pubkey) (n n' : ℕ) (e : Error) : Prop :=
  transferFromVault rt t v d n = .error e ∨
    ∃ t₁, transferFromVault rt t v d n = .ok t₁ ∧ transferFromVault rt t₁ v d' n' = .error e

/-- Covered together, neither finds the vault short. -/
theorem Tx.PaysTwice.covered {t : Tx} {v d d' : Pubkey} {n n' : ℕ}
    (hc : rt.minimumBalance 0 + (n + n') ≤ t.state.lamports v) (he : Shortage e) :
    ¬ t.PaysTwice rt v d d' n n' e := by
  rintro (h | ⟨t₁, h₁, h⟩)
  · exact transferFromVault_covered (fun _ => by omega) he h
  · refine transferFromVault_covered (fun _ => ?_) he h
    obtain ⟨⟨l, hm, rfl⟩, -⟩ := transferFromVault_eq_ok h₁
    have := hm.balance v
    simp only [outflow_payment, inflow_payment, ↓reduceIte] at this
    show n' + _ ≤ l v
    omega

/-- A distribution finds the vault short in one of its two payments. -/
theorem distributeWinnings_shortage {accs : DistributeWinnings} {payouts : List ℕ}
    (he : Shortage e) (h : distributeWinnings rt now accs payouts s = .error e) :
    ∃ (t : Tx) (fd : Pubkey) (r : Room), s.rooms.get r.roomId = some r ∧ r.status = .unlocked ∧
      t.state.lamports = s.lamports ∧
      t.PaysTwice rt (.roomVault r.roomId) .pool fd r.prizePool r.rakeAmount e := by
  have noConfig : ∀ a, loadConfig s a ≠ .error e := fun a h => he.not_anchor (loadConfig_error h)
  have noRoom : ∀ a, loadRoom s a ≠ .error e := fun a h => he.not_anchor (loadRoom_error h)
  have noSum : ∀ ps n, validatePayouts ps n ≠ .error e := fun _ _ => validatePayouts_not_short he
  have noPay : ∀ a t ps is, payWinners a t [] ps is ≠ .error e := fun _ _ _ _ =>
    payWinners_not_short he
  cases he
  all_goals
    simp only [distributeWinnings, bind_eq_error, seeds, mutable, signer, system,
      require_eq_error, require_eq_ok, noConfig, noRoom, noSum, noPay, reduceCtorEq,
      loadRoom_eq_ok, Error.arena.injEq, and_false, exists_false, false_or, or_false] at h
    obtain ⟨c, -, -, -, r, ⟨id, hid, hr⟩, -, -, -, hkey, -, -, -, hv, -, -, -, hpool, -, -, -, -, -,
      -, -, -, -, -, -, -, -, hst, total, htot, t, ht, h⟩ := h
    obtain ⟨-, hr⟩ := room_of_seeds hid hr hkey
    obtain ⟨rfl, hpp, -⟩ := validatePayouts_eq_ok htot
    obtain ⟨ws, -, -, -, hcr, -, -, -⟩ := payWinners_eq_ok ht
    rw [hv, hpool, ← hpp] at h
    exact ⟨t, _, r, hr, hst, hcr.lamports, h⟩

/-- A settlement finds a vault short only in one of its payments. -/
theorem settleToWinner_shortage {accs : SettleToWinner} (he : Shortage e)
    (h : settleToWinner rt now accs s = .error e) :
    ∃ (t : Tx) (d fd : Pubkey) (r : Room), s.rooms.get r.roomId = some r ∧
      r.status = .unlocked ∧ t.state.lamports = s.lamports ∧
      t.PaysTwice rt (.roomVault r.roomId) d fd r.prizePool r.rakeAmount e := by
  have noConfig : ∀ a, loadConfig s a ≠ .error e := fun a h => he.not_anchor (loadConfig_error h)
  have noRoom : ∀ a, loadRoom s a ≠ .error e := fun a h => he.not_anchor (loadRoom_error h)
  have noRp : ∀ a, loadRoomPlayer s a ≠ .error e :=
    fun a h => he.not_anchor (loadRoomPlayer_error h)
  cases he
  all_goals
    simp only [settleToWinner, bind_eq_error, seeds, mutable, signer, system,
      require_eq_error, require_eq_ok, noConfig, noRoom, noRp, reduceCtorEq,
      loadRoom_eq_ok, Error.arena.injEq, and_false, exists_false, false_or, or_false] at h
    obtain ⟨c, -, -, -, r, ⟨id, hid, hr⟩, -, -, -, hkey, -, -, -, hv, rp, -, -, -, -, -, -, -, -, -,
      -, -, -, -, -, -, -, -, -, -, -, hst, -, -, h⟩ := h
    obtain ⟨-, hr⟩ := room_of_seeds hid hr hkey
    rw [hv] at h
    exact ⟨_, _, _, r, hr, hst, rfl, h⟩

/-- A refund finds it short only in its payment. -/
theorem claimRefund_shortage {accs : ClaimRefund} (he : Shortage e)
    (h : claimRefund rt accs s = .error e) :
    ∃ (t : Tx) (r : Room) (n : ℕ), s.rooms.get r.roomId = some r ∧ r.status = .cancelled ∧
      n ≤ r.totalLocked ∧ t.state.lamports = s.lamports ∧
      transferFromVault rt t (.roomVault r.roomId) .pool n = .error e := by
  have noConfig : ∀ a, loadConfig s a ≠ .error e := fun a h => he.not_anchor (loadConfig_error h)
  have noRoom : ∀ a, loadRoom s a ≠ .error e := fun a h => he.not_anchor (loadRoom_error h)
  have noRp : ∀ a, loadRoomPlayer s a ≠ .error e :=
    fun a h => he.not_anchor (loadRoomPlayer_error h)
  have noPlayer : ∀ a, loadPlayer s a ≠ .error e := fun a h => he.not_anchor (loadPlayer_error h)
  cases he
  all_goals
    simp only [claimRefund, bind_eq_error, seeds, mutable, signer, system, add_eq_error,
      sub_eq_error, add_eq_ok, sub_eq_ok, require_eq_error, require_eq_ok, noConfig, noRoom, noRp,
      noPlayer, reduceCtorEq, loadRoom_eq_ok, Error.arena.injEq, and_false, false_or] at h
    obtain ⟨c, -, -, -, r, ⟨id, hid, hr⟩, -, -, -, hkey, h⟩ := h
    obtain ⟨rp, -, -, -, -, -, -, -, -, -, p, -, -, -, -, -, -, -, -, -, -, hv, h⟩ := h
    obtain ⟨-, -, -, hpool, -, -, -, -, -, -, -, hst, -, -, _, -, _, ⟨hle, -⟩, h⟩ := h
    obtain ⟨-, hr⟩ := room_of_seeds hid hr hkey
    rw [hv, hpool] at h
    exact ⟨_, r, _, hr, hst, hle, rfl, h⟩

end Payers

/-! ### Escrow sufficiency -/

/-- The two settlements of the room `id`. -/
def Instruction.Settles (id : RoomId) : Instruction → Prop
  | .distributeWinnings accs _ => accs.room.key = .room id
  | .settleToWinner accs => accs.room.key = .room id
  | _ => False

/-- The instructions that pay players out of a room vault. -/
def Instruction.PaysOut : Instruction → Prop
  | .distributeWinnings _ _ | .settleToWinner _ | .claimRefund _ => True
  | _ => False

/-- **A funded vault is never short.**. -/
theorem State.Escrowed.not_short {rt : Runtime} {s : State} (hs : s.Escrowed rt) {now : ℤ}
    {i : Instruction} {e : Error} (hi : i.PaysOut) (he : Shortage e) :
    exec rt now s i ≠ .error e := by
  intro h
  have hh : handle rt now s i = .error e := by
    simp only [exec, bind_eq_error, require_eq_error] at h
    rcases h with h | ⟨t, -, ⟨-, rfl⟩ | ⟨-, -, hok⟩⟩
    · exact h
    · cases he
    · cases hok
  -- a room about to be settled has its split covered
  have unlocked : ∀ {r : Room} {l : Pubkey → ℕ}, s.rooms.get r.roomId = some r →
      r.status = .unlocked → l = s.lamports →
      rt.minimumBalance 0 + (r.prizePool + r.rakeAmount) ≤ l (.roomVault r.roomId) := by
    rintro r l hr hst rfl
    obtain ⟨h₁, h₂⟩ := hs _ _ hr (by rw [hst]; rintro ⟨⟩)
    rw [h₂ hst]
    exact h₁
  cases i with
  | distributeWinnings accs payouts =>
      obtain ⟨t, fd, r, hr, hst, hl, hp⟩ := distributeWinnings_shortage he hh
      exact Tx.PaysTwice.covered (unlocked hr hst hl) he hp
  | settleToWinner accs =>
      obtain ⟨t, d, fd, r, hr, hst, hl, hp⟩ := settleToWinner_shortage he hh
      exact Tx.PaysTwice.covered (unlocked hr hst hl) he hp
  | claimRefund accs =>
      obtain ⟨t, r, n, hr, hst, hle, hl, hp⟩ := claimRefund_shortage he hh
      have old := (hs _ _ hr (by rw [hst]; rintro ⟨⟩)).1
      exact transferFromVault_covered (fun _ => by rw [hl]; omega) he hp
  | _ => exact hi

/-- A settlement takes the split out of the vault. -/
theorem Effect.settles {rt : Runtime} {now : ℤ} {s : State} {i : Instruction} {t : Tx}
    (h : Effect rt now s i t) (hw : s.WellFormed) {id : RoomId} (hi : i.Settles id) :
    ∃ c r, s.config = some c ∧ s.rooms.get id = some r ∧ r.status = .unlocked ∧
      outflow (.roomVault id) t.moves = r.prizePool + r.rakeAmount ∧
      inflow (.roomVault id) t.moves =
        if c.feeDestination = .roomVault id then r.rakeAmount else 0 := by
  cases h with
  | @distributeWinnings accs _ c r _ _ _ hc hr hkey _ _ hst =>
      obtain rfl : id = r.roomId := Pubkey.room.inj (hi.symm.trans hkey)
      exact ⟨c, r, hc, hr, hst, by simp, by simp⟩
  | @settleToWinner accs c r rp _ hc hr hkey _ _ hrp _ hst =>
      obtain rfl : id = r.roomId := Pubkey.room.inj (hi.symm.trans hkey)
      have hne : accs.winner.key ≠ .roomVault r.roomId := (hw.record hrp).2.2.ne trivial
      exact ⟨c, r, hc, hr, hst, by simp, by simp [hne]⟩
  | config _ _ _ _ hcases =>
      rcases hcases with ⟨_, _, _, _, _, _, rfl⟩ | ⟨_, _, rfl⟩ | ⟨_, rfl⟩ <;> exact hi.elim
  | _ => exact hi.elim

/-- **Escrow sufficiency.**  In every reached state, until a room is settled its vault holds
the rent and `total_locked`, and once its prize is unlocked the split is all of it; so neither
settlement and no refund finds a vault short, and a settlement pays exactly `total_locked` out
of the vault, which falls by as much unless the rake is sent to the vault itself. -/
theorem escrow_sufficiency {rt : Runtime} {s : State} (h : Reached rt s) :
    (∀ id r, s.rooms.get id = some r → r.status ≠ .settled →
      rt.minimumBalance 0 + r.totalLocked ≤ s.lamports (.roomVault id) ∧
        (r.status = .unlocked → r.prizePool + r.rakeAmount = r.totalLocked)) ∧
      (∀ now i e, Instruction.PaysOut i → Shortage e → exec rt now s i ≠ .error e) ∧
      ∀ now i t id r c, exec rt now s i = .ok t → Instruction.Settles id i →
        s.rooms.get id = some r → s.config = some c →
        outflow (.roomVault id) t.moves = r.totalLocked ∧
          (c.feeDestination ≠ .roomVault id →
            t.state.lamports (.roomVault id) + r.totalLocked = s.lamports (.roomVault id)) := by
  refine ⟨h.escrowed, fun now i e hi he => h.escrowed.not_short hi he, ?_⟩
  intro now i t id r c ht hi hr hc
  have hf := exec_effect ht
  obtain ⟨c', r', hc', hr', hst, hout, hin⟩ := hf.settles h.wellFormed hi
  obtain rfl : r' = r := Option.some.inj (hr'.symm.trans hr)
  obtain rfl : c' = c := Option.some.inj (hc'.symm.trans hc)
  rw [(h.escrowed _ _ hr (by rw [hst]; exact nofun)).2 hst] at hout
  refine ⟨hout, fun hne => ?_⟩
  have hb := hf.moved.balance (.roomVault id)
  rw [hout, hin, if_neg hne] at hb
  exact hb

/-- Two players who entered by the two paths, and the settlement of their room. -/
theorem escrow_sufficiency_two_paths : ∃ s r t, Reached .validator s ∧
    s.rooms.get (.ofByte 7) = some r ∧ r.totalLocked = 2000000 ∧
    890880 + 2000000 ≤ s.lamports (.roomVault (.ofByte 7)) ∧
    exec .validator 9 s (Call.settleToWinner (.key 2) (.key 3) (.key 5) (.ofByte 7)) = .ok t ∧
    outflow (.roomVault (.ofByte 7)) t.moves = 2000000 := by
  have run : (execAll .validator .funded
      [(0, Call.initializeProgram (.key 1) (.key 2) (.key 3) 500 50),
        (1, Call.deposit (.key 4) 5000000),
        (2, Call.createRoom (.key 2) (.ofByte 7) 1000000 4),
        (3, Call.joinRoom (.key 4) (.ofByte 7)),
        (4, Call.lockEntryFee (.key 4) (.ofByte 7)),
        (5, Call.enterRoom (.key 5) (.ofByte 7)),
        (6, Call.startRoom (.key 2) (.ofByte 7)),
        (7, Call.unlockPrize (.key 2) (.ofByte 7))]).passes (fun s =>
      s.config.isSome && (s.rooms.get (.ofByte 7)).any (fun r =>
        decide (r.status = .unlocked ∧ r.totalLocked = 2000000)) &&
      (exec .validator 9 s (Call.settleToWinner (.key 2) (.key 3) (.key 5) (.ofByte 7))).passes
        fun _ => true) = true := by
    decide
  obtain ⟨s, hs, htest⟩ := Result.passes_iff.mp run
  simp only [Bool.and_eq_true, Option.any_eq_true, decide_eq_true_iff] at htest
  obtain ⟨⟨hc, r, hr, hst, htl⟩, ht⟩ := htest
  obtain ⟨t, ht, -⟩ := Result.passes_iff.mp ht
  obtain ⟨c, hc⟩ := Option.isSome_iff_exists.mp hc
  obtain ⟨hlive, -, hsettle⟩ := escrow_sufficiency (reached_of_execAll hs)
  have hrent := (hlive _ r hr (by rw [hst]; exact nofun)).1
  have hout := (hsettle 9 _ t (.ofByte 7) r c ht rfl hr hc).1
  rw [htl] at hrent hout
  exact ⟨s, r, t, reached_of_execAll hs, hr, htl, hrent, ht, hout⟩

end SnakeArena.Program
