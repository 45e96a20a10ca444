import SnakeArena.Program.Rooms

/-!
# Program — what a room was opened with

A room's economics are its entry fee and its fee rate.  `create_room` writes both, the rate from
the config of that moment, and nothing writes them again; `unlock_prize` splits the pot by the
room's own rate, and a settlement pays the two parts that `unlock_prize` fixed.

`OpenedAt` says where in a run a room was opened and at what rate.  `Opened.of_run` carries it
along the run, with the split of every room that has one (`Room.Split`); the instructions that
move money on a room's account then read it off (`economics_fixed`).  The fee of a withdrawal is
the live one, under its own cap.
-/

namespace SnakeArena.Program
open SnakeArena.Library

def Event.Opens (id : RoomId) : Event → Prop
  | .exec _ (.createRoom _ id' _ _) => id' = id
  | _ => False

/-- The last `create_room` of `id` in the run was passed `entryFee`, at a time when the config
had `feeBps`. -/
structure OpenedAt (rt : Runtime) (s₀ : State) (ls : List Event) (s : State) (id : RoomId)
    (entryFee feeBps : ℕ) : Prop where
  run : ∃ before now accs maxPlayers after s₁ c s₂,
    ls = before ++ .exec now (.createRoom accs id entryFee maxPlayers) :: after ∧
    Run (Step rt) s₀ before s₁ ∧ s₁.config = some c ∧ c.feeBps = feeBps ∧
    Step rt s₁ (.exec now (.createRoom accs id entryFee maxPlayers)) s₂ ∧
    Run (Step rt) s₂ after s ∧ ∀ l ∈ after, ¬ l.Opens id
  cap : feeBps ≤ maxFeeBps

theorem OpenedAt.snoc {rt : Runtime} {s₀ s s' : State} {ls : List Event} {id : RoomId}
    {entryFee feeBps : ℕ} {l : Event} (h : OpenedAt rt s₀ ls s id entryFee feeBps)
    (hstep : Step rt s l s') (hl : ¬ l.Opens id) :
    OpenedAt rt s₀ (ls ++ [l]) s' id entryFee feeBps := by
  obtain ⟨⟨before, now, accs, maxPlayers, after, s₁, c, s₂, rfl, h₁, hc, hfee, h₂, h₃, hafter⟩,
      hcap⟩ :=
    h
  refine ⟨⟨before, now, accs, maxPlayers, after ++ [l], s₁, c, s₂, by simp, h₁, hc, hfee, h₂,
    h₃.snoc hstep, ?_⟩, hcap⟩
  intro l' hl'
  rcases List.mem_append.mp hl' with hl' | hl'
  · exact hafter l' hl'
  · rw [List.mem_singleton.mp hl']
    exact hl

/-- Once unlocked, the prize and the rake are the split of the pot at the room's rate. -/
def Room.Split (r : Room) : Prop :=
  r.status = .unlocked ∨ r.status = .settled →
    r.rakeAmount = r.totalLocked * r.feeBps / bpsDenominator ∧
      r.prizePool = r.totalLocked - r.rakeAmount

/-! ### One instruction -/

section Change
variable {rt : Runtime} {now : ℤ} {s : State} {i : Instruction} {t : Tx} {id : RoomId} {r r' : Room}

/-- No instruction on an existing room rewrites what it was opened with. -/
theorem RoomChange.terms {rps : Table (Pubkey × Pubkey) RoomPlayer}
    (h : RoomChange s id r i rps r') : r'.entryFee = r.entryFee ∧ r'.feeBps = r.feeBps := by
  cases h with
  | _ => exact ⟨rfl, rfl⟩

theorem RoomChange.not_opens {rps : Table (Pubkey × Pubkey) RoomPlayer}
    (h : RoomChange s id r i rps r') : ¬ (Event.exec now i).Opens id := by
  cases h with
  | other hi =>
      intro hopens
      cases i with
      | createRoom => exact hi hopens
      | _ => exact hopens
  | _ => exact not_false

/-- `unlock_prize` splits the pot; every other instruction leaves the split of an unlocked room
alone. -/
theorem Effect.split (h : Effect rt now s i t) (hr : s.rooms.get id = some r) (hsplit : r.Split)
    {rps : Table (Pubkey × Pubkey) RoomPlayer} (hchange : RoomChange s id r i rps r')
    (hr' : t.state.rooms.get id = some r') : r'.Split := by
  cases hchange with
  | other | closeRoomPlayer => exact hsplit
  | joinRoom _ hopen | lockEntryFee _ hopen | enterRoom _ hopen =>
      rintro (hst | hst)
      · cases hopen.symm.trans hst
      · cases hopen.symm.trans hst
  | startRoom | cancelRoom => rintro (hst | hst) <;> cases hst
  | claimRefund _ hst =>
      rintro (hst' | hst')
      · cases hst.symm.trans hst'
      · cases hst.symm.trans hst'
  | unlockPrize hkey =>
      cases h with
      | @unlockPrize _ _ r₀ rake _ hr₀ hkey₀ _ _ _ hrake =>
          obtain rfl : r₀.roomId = id := Pubkey.room.inj (hkey₀.symm.trans hkey)
          obtain rfl : r₀ = r := Option.some.inj (hr₀.symm.trans hr)
          have e := Option.some.inj ((Table.get_upd_same _ _ _).symm.trans hr')
          have hrake' := congrArg Room.rakeAmount e
          dsimp only at hrake'
          exact fun _ => ⟨hrake'.symm.trans hrake, rfl⟩
      | config _ _ _ _ hcases =>
          rcases hcases with ⟨_, _, _, _, _, _, h⟩ | ⟨_, _, h⟩ | ⟨_, h⟩ <;> cases h
  | distributeWinnings _ hst | settleToWinner _ hst => exact fun _ => hsplit (.inl hst)

end Change

/-! ### The run -/

/-- What is known of a room after a run: where it was opened, with what, and its split. -/
structure Opened (rt : Runtime) (s₀ : State) (ls : List Event) (s : State) (id : RoomId)
    (r : Room) : Prop where
  opened : OpenedAt rt s₀ ls s id r.entryFee r.feeBps
  split : r.Split

theorem Opened.of_run {rt : Runtime} {s₀ s : State} {ls : List Event} (h₀ : s₀.Genesis)
    (hrun : Run (Step rt) s₀ ls s) {id : RoomId} {r : Room} (hr : s.rooms.get id = some r) :
    Opened rt s₀ ls s id r := by
  revert id r
  refine hrun.history (I := fun ls s => ∀ {id r}, s.rooms.get id = some r →
    Opened rt s₀ ls s id r) ?_ ?_
  · intro id r hr
    rw [h₀.2.2.1] at hr
    cases hr
  · intro ls s l s' hrun ih hstep id r' hr'
    cases hstep with
    | outside hd hb =>
        exact ⟨(ih hr').opened.snoc (.outside hd hb) (fun h => h), (ih hr').split⟩
    | @exec now i t h =>
        have heffect := exec_effect h
        cases hr : s.rooms.get id with
        | none =>
            obtain ⟨⟨accs, entryFee, maxPlayers, rfl⟩, -, hopen, -⟩ := heffect.room_created hr hr'
            have hsplit : r'.Split := by
              rintro (hst | hst)
              · cases hopen.symm.trans hst
              · cases hopen.symm.trans hst
            refine ⟨?_, hsplit⟩
            have hwf := Reached.wellFormed ⟨s₀, ls, h₀, hrun⟩
            cases heffect with
            | @createRoom _ _ _ _ c _ _ _ hc =>
                have e := Option.some.inj ((Table.get_upd_same _ _ _).symm.trans hr')
                subst e
                exact ⟨⟨ls, now, accs, maxPlayers, [], s, c, _, rfl, hrun, hc, rfl, .exec h,
                  .nil _, by simp⟩, (hwf.config c hc).2.1⟩
            | config _ _ _ _ hcases =>
                rcases hcases with ⟨_, _, _, _, _, _, h⟩ | ⟨_, _, h⟩ | ⟨_, h⟩ <;> cases h
        | some r =>
            have hcloses : ¬ i.Closes id := by
              intro hi
              cases hr'.symm.trans (heffect.room_closed hi)
            obtain ⟨r₁, hr₁, hchange⟩ := heffect.room_change hr hcloses
            obtain rfl : r₁ = r' := Option.some.inj (hr₁.symm.trans hr')
            have hopened := (ih hr).opened.snoc (.exec h) hchange.not_opens
            obtain ⟨hfee, hbps⟩ := hchange.terms
            rw [← hfee, ← hbps] at hopened
            exact ⟨hopened, heffect.split hr (ih hr).split hchange hr'⟩

/-! ### What is paid -/

/-- What an instruction that moves money for a room, or out of custody, is bound by: the terms
the room was opened with, the pot it holds, and the cap of the withdrawal fee. -/
def OnTerms (rt : Runtime) (s₀ : State) (ls : List Event) (s : State) (t : Tx) :
    Instruction → Prop
  | .settleToWinner accs => ∃ id r c entryFee feeBps rake prize,
      accs.room.key = .room id ∧ s.rooms.get id = some r ∧ s.config = some c ∧
      OpenedAt rt s₀ ls s id entryFee feeBps ∧
      rake = r.totalLocked * feeBps / bpsDenominator ∧ rake + prize = r.totalLocked ∧
      t.moves = payment (.roomVault id) accs.winner.key prize ++
        payment (.roomVault id) c.feeDestination rake
  | .distributeWinnings accs payouts => ∃ id r c entryFee feeBps rake prize,
      accs.room.key = .room id ∧ s.rooms.get id = some r ∧ s.config = some c ∧
      OpenedAt rt s₀ ls s id entryFee feeBps ∧
      rake = r.totalLocked * feeBps / bpsDenominator ∧ rake + prize = r.totalLocked ∧
      payouts.sum = prize ∧
      t.moves = payment (.roomVault id) .pool prize ++
        payment (.roomVault id) c.feeDestination rake
  | .lockEntryFee accs => ∃ id r r' rp entryFee feeBps,
      accs.room.key = .room id ∧ s.rooms.get id = some r ∧
      OpenedAt rt s₀ ls s id entryFee feeBps ∧
      t.state.rooms.get id = some r' ∧ r'.totalLocked = r.totalLocked + entryFee ∧
      t.state.roomPlayers.get (.room id, accs.player.key) = some rp ∧
      rp.lockedAmount = entryFee ∧ t.moves = payment .pool (.roomVault id) entryFee
  | .enterRoom accs => ∃ id r r' rp rent entryFee feeBps,
      accs.room.key = .room id ∧ s.rooms.get id = some r ∧
      OpenedAt rt s₀ ls s id entryFee feeBps ∧
      t.state.rooms.get id = some r' ∧ r'.totalLocked = r.totalLocked + entryFee ∧
      t.state.roomPlayers.get (.room id, accs.player.key) = some rp ∧
      rp.lockedAmount = entryFee ∧
      t.moves = [⟨accs.player.key, .roomPlayer (.room id) accs.player.key, rent⟩,
        ⟨accs.player.key, .roomVault id, entryFee⟩]
  | .withdraw accs gross => ∃ c p p' fee net,
      s.config = some c ∧ c.withdrawalFeeBps ≤ maxWithdrawalFeeBps ∧
      fee = gross * c.withdrawalFeeBps / bpsDenominator ∧ fee + net = gross ∧
      fee * bpsDenominator ≤ gross * maxWithdrawalFeeBps ∧
      s.players.get accs.player.key = some p ∧ t.state.players.get accs.player.key = some p' ∧
      p'.balance + gross = p.balance ∧
      t.moves = payment .pool accs.player.key net ++ payment .pool .treasury fee
  | _ => True

/-- **A room's economics are fixed when it opens.** -/
theorem economics_fixed {rt : Runtime} {s₀ s : State} {ls : List Event} (h₀ : s₀.Genesis)
    (hrun : Run (Step rt) s₀ ls s) {now : ℤ} {i : Instruction} {t : Tx}
    (h : exec rt now s i = .ok t) : OnTerms rt s₀ ls s t i := by
  have hwf := Reached.wellFormed ⟨s₀, ls, h₀, hrun⟩
  have known : ∀ {id r}, s.rooms.get id = some r → Opened rt s₀ ls s id r :=
    fun hr => Opened.of_run h₀ hrun hr
  -- a split room pays the pot out whole
  have whole : ∀ {r : Room} {id}, s.rooms.get id = some r → r.status = .unlocked →
      r.rakeAmount = r.totalLocked * r.feeBps / bpsDenominator ∧
        r.rakeAmount + r.prizePool = r.totalLocked := by
    intro r id hr hst
    obtain ⟨hrake, hprize⟩ := (known hr).split (.inl hst)
    have hle : r.rakeAmount ≤ r.totalLocked := by
      rw [hrake]
      exact bps_le ((known hr).opened.cap.trans (by decide))
    exact ⟨hrake, by omega⟩
  cases exec_effect h with
  | lockEntryFee _ _ hr hkey =>
      exact ⟨_, _, _, _, _, _, hkey, hr, (known hr).opened, Table.get_upd_same _ _ _, rfl,
        Table.get_upd_same _ _ _, rfl, rfl⟩
  | enterRoom _ _ hr hkey =>
      exact ⟨_, _, _, _, _, _, _, hkey, hr, (known hr).opened, Table.get_upd_same _ _ _, rfl,
        Table.get_upd_same _ _ _, rfl, rfl⟩
  | distributeWinnings hc hr hkey _ _ hst _ _ hsum =>
      obtain ⟨hrake, hpot⟩ := whole hr hst
      exact ⟨_, _, _, _, _, _, _, hkey, hr, hc, (known hr).opened, hrake, hpot, hsum, rfl⟩
  | settleToWinner hc hr hkey _ _ _ _ hst =>
      obtain ⟨hrake, hpot⟩ := whole hr hst
      exact ⟨_, _, _, _, _, _, _, hkey, hr, hc, (known hr).opened, hrake, hpot, rfl⟩
  | @withdraw _ gross c p fee _ hc _ hp hbal hfee hle =>
      have hcap := (hwf.config c hc).2.2
      refine ⟨c, p, _, fee, gross - fee, hc, hcap, hfee, by omega, ?_, hp,
        Table.get_upd_same _ _ _, by dsimp only; omega, rfl⟩
      calc fee * bpsDenominator ≤ gross * c.withdrawalFeeBps := by
            rw [hfee]
            exact Nat.div_mul_le_self _ _
        _ ≤ gross * maxWithdrawalFeeBps := Nat.mul_le_mul_left _ hcap
  | config _ _ _ _ hcases =>
      rcases hcases with ⟨_, _, _, _, _, _, rfl⟩ | ⟨_, _, rfl⟩ | ⟨_, rfl⟩ <;> trivial
  | _ => trivial

/-- A room of two opened at 5%, paid at 5% after the fee went down to 1%. -/
theorem economics_fixed_after_update : ∃ ls s t, Run (Step .validator) .funded ls s ∧
    OnTerms .validator .funded ls s t
      (Call.settleToWinner (.key 2) (.key 3) (.key 4) (.ofByte 7)) ∧
    t.moves = payment (.roomVault (.ofByte 7)) (.key 4) 1900000 ++
      payment (.roomVault (.ofByte 7)) (.key 3) 100000 := by
  have run : (execAll .validator .funded
      [(0, Call.initializeProgram (.key 1) (.key 2) (.key 3) 500 50),
        (1, Call.createRoom (.key 2) (.ofByte 7) 1000000 4),
        (2, Call.enterRoom (.key 4) (.ofByte 7)),
        (3, .updateConfig ⟨.full .config, .full (.key 1)⟩ (some 100) none none none none),
        (4, Call.enterRoom (.key 5) (.ofByte 7)),
        (5, Call.startRoom (.key 2) (.ofByte 7)),
        (6, Call.unlockPrize (.key 2) (.ofByte 7))]).passes (fun s =>
      (exec .validator 7 s (Call.settleToWinner (.key 2) (.key 3) (.key 4) (.ofByte 7))).passes
        fun t => decide (t.moves = payment (.roomVault (.ofByte 7)) (.key 4) 1900000 ++
          payment (.roomVault (.ofByte 7)) (.key 3) 100000)) = true := by
    decide
  obtain ⟨s, hs, htest⟩ := Result.passes_iff.mp run
  obtain ⟨t, ht, hmoves⟩ := Result.passes_iff.mp htest
  exact ⟨_, s, t, execAll_run hs, economics_fixed State.funded_genesis (execAll_run hs) ht,
    of_decide_eq_true hmoves⟩

end SnakeArena.Program
