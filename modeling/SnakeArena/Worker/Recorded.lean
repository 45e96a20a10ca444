import SnakeArena.Program.Errors
import SnakeArena.Program.Rooms
import SnakeArena.Worker.Rules

/-!
# Worker — the books and the chain

Any number of settlements and of closing lobbies run beside the rest of the chain, where rooms
are entered and started and anybody can send lamports to a vault.  A settlement splits the pot
it read; the program splits the entry fees it locked.  What the books record is what the chain
paid when the two splits are the same at `unlock_prize` (`SplitsAlike`).

The vault also holds what was given to it, and the two fees are kept in different tables, so
that nothing makes them the same.
-/

namespace SnakeArena.Worker
open SnakeArena.Library SnakeArena.Db SnakeArena.Program SnakeArena.Books

/-! ### The worker beside the rest of the chain -/

inductive WorkerCall where
  | settleGame (gameId : ℕ)
  | closeLobby (tier : Tier) (gameId : ℕ)

/-- What the others do on chain. -/
inductive Elsewhere where
  | exec (now : ℤ) (i : Instruction)
  /-- A transfer of lamports from a wallet. -/
  | transfer (m : Move Pubkey)

/-- It ends a room before, or after, its settlement. -/
def Ends : Instruction → Bool
  | .cancelRoom _ | .closeRoom _ => true
  | _ => false

def elsewhere (rt : Runtime) (s : Services) : Elsewhere → Option Services
  | .exec now i => if Ends i then none else some (s.land rt now i)
  | .transfer m =>
      if m.source.CanSign ∧ m.amount ≤ s.chain.lamports m.source then
        some { s with chain := { s.chain with lamports := m.apply s.chain.lamports } }
      else none

def worker (deps : SettleDeps) : Functions Services Op Reply Outcome WorkerCall Elsewhere where
  program
    | .settleGame gameId => settleGame deps gameId .throws fun o => .returns (.settle gameId o)
    | .closeLobby tier gameId => closeLobby deps tier gameId .throws fun r => .returns (.stage r)
  outside := elsewhere deps.runtime

/-! ### What the program fixed -/

/-- A room split as `split`: its prize is unlocked, or paid. -/
structure SplitInto (split : Split) (r : Room) : Prop where
  prizePool : (r.prizePool : ℤ) = split.prizePool
  rake : (r.rakeAmount : ℤ) = split.rake
  status : r.status = .unlocked ∨ r.status = .settled ∧ r.distributed = r.prizePool

def SplitFixed (s : State) (id : RoomId) (split : Split) : Prop :=
  ∃ r, s.rooms.get id = some r ∧ SplitInto split r

/-- `settle_to_winner` paid the split. -/
def SplitPaid (s : State) (id : RoomId) (split : Split) : Prop :=
  ∃ r, s.rooms.get id = some r ∧ r.status = .settled ∧ SplitInto split r

section SplitFixed
variable {rt : Runtime} {now : ℤ} {s : State} {i : Instruction} {t : Tx} {id : RoomId}
  {split : Split}

/-- What is paid was fixed before. -/
theorem SplitPaid.fixed (h : SplitPaid s id split) : SplitFixed s id split := by
  obtain ⟨r, hr, -, hsplit⟩ := h
  exact ⟨r, hr, hsplit⟩

/-- A room pays one split. -/
theorem SplitPaid.unique {split' : Split} (h : SplitPaid s id split) (h' : SplitPaid s id split') :
    split = split' := by
  obtain ⟨r, hr, -, hsplit⟩ := h
  obtain ⟨r', hr', -, hsplit'⟩ := h'
  obtain rfl := Option.some.inj (hr.symm.trans hr')
  cases split
  cases split'
  rw [Split.mk.injEq]
  exact ⟨hsplit.prizePool.symm.trans hsplit'.prizePool, hsplit.rake.symm.trans hsplit'.rake⟩

/-- What is fixed stays so, until the room ends. -/
theorem SplitInto.exec {r : Room} (h : SplitInto split r) (hr : s.rooms.get id = some r)
    (hexec : Program.exec rt now s i = .ok t) (hi : Ends i = false) :
    ∃ r', t.state.rooms.get id = some r' ∧ SplitInto split r' ∧
      (r.status = .settled → r'.status = .settled) := by
  have hcloses : ¬i.Closes id := by
    cases i with
    | closeRoom => cases hi
    | _ => exact not_false
  obtain ⟨r', hr', hchange⟩ := (exec_effect hexec).room_change hr hcloses
  refine ⟨r', hr', ?_⟩
  have notOpen : r.status ≠ .open ∧ r.status ≠ .inProgress ∧ r.status ≠ .cancelled := by
    obtain hst | ⟨hst, -⟩ := h.status <;> rw [hst] <;> exact ⟨nofun, nofun, nofun⟩
  generalize t.state.roomPlayers = rps at hchange
  cases hchange with
  | other | closeRoomPlayer => exact ⟨h, fun hst => hst⟩
  | joinRoom _ hst | lockEntryFee _ hst | enterRoom _ hst | startRoom _ hst =>
      exact absurd hst notOpen.1
  | unlockPrize _ hst => exact absurd hst notOpen.2.1
  | claimRefund _ hst => exact absurd hst notOpen.2.2
  | cancelRoom => cases hi
  | distributeWinnings | settleToWinner =>
      exact ⟨⟨h.prizePool, h.rake, .inr ⟨rfl, rfl⟩⟩, fun _ => rfl⟩

/-- What is fixed stays, until the room's record ends. -/
theorem SplitFixed.exec (h : SplitFixed s id split) (hexec : Program.exec rt now s i = .ok t)
    (hi : Ends i = false) : SplitFixed t.state id split := by
  obtain ⟨r, hr, hsplit⟩ := h
  obtain ⟨r', hr', hsplit', -⟩ := hsplit.exec hr hexec hi
  exact ⟨r', hr', hsplit'⟩

/-- What is paid stays, until the room's record ends. -/
theorem SplitPaid.exec (h : SplitPaid s id split) (hexec : Program.exec rt now s i = .ok t)
    (hi : Ends i = false) : SplitPaid t.state id split := by
  obtain ⟨r, hr, hst, hsplit⟩ := h
  obtain ⟨r', hr', hsplit', hst'⟩ := hsplit.exec hr hexec hi
  exact ⟨r', hr', hst' hst, hsplit'⟩

/-- The split of a room whose prize is unlocked now. -/
theorem unlockPrize_fixed {sa : Pubkey}
    (hexec : Program.exec rt now s (Call.unlockPrize sa id) = .ok t) :
    ∃ r, s.rooms.get id = some r ∧ r.status = .inProgress ∧
      SplitFixed t.state id
        ⟨(r.totalLocked : ℤ) - (r.totalLocked * r.feeBps / Program.bpsDenominator : ℕ),
        (r.totalLocked * r.feeBps / Program.bpsDenominator : ℕ)⟩ := by
  have heffect := exec_effect hexec
  rw [Call.unlockPrize] at heffect
  cases heffect with
  | @unlockPrize _ c r rake hc hr hkey hsa hsig hst hrake hle =>
      obtain rfl := Pubkey.room.inj hkey
      subst hrake
      refine ⟨r, hr, hst, _, Table.get_upd_same _ _ _, ?_, rfl, .inl rfl⟩
      exact Nat.cast_sub hle
  | config _ _ _ _ hcases =>
      rcases hcases with ⟨_, _, _, _, _, _, h⟩ | ⟨_, _, h⟩ | ⟨_, h⟩ <;> cases h

/-- A prize that is fixed is paid once `settle_to_winner` succeeds, or finds the room settled. -/
theorem settleToWinner_paid {sa fd w : Pubkey} (h : SplitFixed s id split)
    (hexec : Program.exec rt now s (Call.settleToWinner sa fd w id) = .ok t) :
    SplitPaid t.state id split := by
  obtain ⟨r, hr, hsplit⟩ := h
  have heffect := exec_effect hexec
  rw [Call.settleToWinner] at heffect
  cases heffect with
  | @settleToWinner _ c r' rp l hc hr' hkey =>
      obtain rfl := Pubkey.room.inj hkey
      obtain rfl := Option.some.inj (hr'.symm.trans hr)
      exact ⟨_, Table.get_upd_same _ _ _, rfl, hsplit.prizePool, hsplit.rake, .inr ⟨rfl, rfl⟩⟩
  | config _ _ _ _ hcases =>
      rcases hcases with ⟨_, _, _, _, _, _, h⟩ | ⟨_, _, h⟩ | ⟨_, h⟩ <;> cases h

/-- An answer that the room is settled already is about this split. -/
theorem settleToWinner_done {sa fd w : Pubkey} {x : ArenaError} (h : SplitFixed s id split)
    (hx : Settled x)
    (hexec : Program.exec rt now s (Call.settleToWinner sa fd w id) = .error (.arena x)) :
    SplitPaid s id split := by
  obtain ⟨r, hr, hsplit⟩ := h
  obtain ⟨r', hr', hst⟩ := settleToWinner_settled hx hexec
  obtain rfl := Option.some.inj (hr.symm.trans hr')
  exact ⟨r, hr, (hsplit.status.resolve_left hst).1, hsplit⟩

end SplitFixed

/-! ### What the books record -/

/-- The columns of the game. -/
def Recorded (s : Services) (gameId : ℕ) (split : Split) : Prop :=
  ∃ game, s.database.games.get gameId = some game ∧ game.payoutLamports = split.prizePool ∧
    game.rakeLamports = split.rake

/-- The leg is of a payout, or a rake, of the split. -/
def LegOf (split : Split) (leg : Transaction) : Prop :=
  (leg.type = .payout → leg.amountLamports = split.prizePool) ∧
    (leg.type = .rake → leg.amountLamports = split.rake)

/-- Every reward and every leg of a settlement is of what the chain paid. -/
structure Matched (s : Services) : Prop where
  rewards : ∀ gameId userId amount, s.rewards.get (gameId, userId) = some amount →
    ∃ split, SplitPaid s.chain (roomIdFromUuid gameId) split ∧ amount = split.prizePool
  legs : ∀ p ∈ s.database.transactions, p.row.type = .payout ∨ p.row.type = .rake →
    ∀ gameId, p.row.gameId = some gameId →
      ∃ split, SplitPaid s.chain (roomIdFromUuid gameId) split ∧ LegOf split p.row

/-- What stays true as the others go on. -/
structure Later (s s' : Services) : Prop where
  fixed : ∀ id split, SplitFixed s.chain id split → SplitFixed s'.chain id split
  paid : ∀ id split, SplitPaid s.chain id split → SplitPaid s'.chain id split
  rewards : ∀ key amount, s.rewards.get key = some amount → s'.rewards.get key = some amount
  recorded : ∀ gameId split, SplitPaid s.chain (roomIdFromUuid gameId) split →
    Recorded s gameId split → Recorded s' gameId split

theorem Later.refl (s : Services) : Later s s :=
  ⟨fun _ _ h => h, fun _ _ h => h, fun _ _ h => h, fun _ _ _ h => h⟩

theorem Later.trans (s₁ s₂ s₃ : Services) (h : Later s₁ s₂) (h' : Later s₂ s₃) : Later s₁ s₃ where
  fixed id split hf := h'.fixed id split (h.fixed id split hf)
  paid id split hp := h'.paid id split (h.paid id split hp)
  rewards key amount ha := h'.rewards key amount (h.rewards key amount ha)
  recorded gameId split hp hr :=
    h'.recorded gameId split (h.paid _ split hp) (h.recorded gameId split hp hr)

section Keeps
variable {s s' : Services} {gameId : ℕ} {split : Split}

/-- A write to the other tables, or to rows of games that record nothing. -/
theorem keeps_aside (hchain : s'.chain = s.chain) (hrewards : s'.rewards = s.rewards)
    (hlegs : s'.database.transactions = s.database.transactions)
    (hgames : ∀ gameId game, s.database.games.get gameId = some game →
      ∃ game', s'.database.games.get gameId = some game' ∧
        game'.payoutLamports = game.payoutLamports ∧ game'.rakeLamports = game.rakeLamports) :
    Keeps Matched Later s s' := by
  refine fun hI => ⟨⟨?_, ?_⟩, ?_, ?_, ?_, ?_⟩
  · rw [hchain, hrewards]
    exact hI.rewards
  · rw [hchain, hlegs]
    exact hI.legs
  · rw [hchain]
    exact fun _ _ h => h
  · rw [hchain]
    exact fun _ _ h => h
  · rw [hrewards]
    exact fun _ _ h => h
  · rintro gameId split - ⟨game, hgame, hpayout, hrake⟩
    obtain ⟨game', hgame', hpayout', hrake'⟩ := hgames gameId game hgame
    exact ⟨game', hgame', hpayout'.trans hpayout, hrake'.trans hrake⟩

/-- A row's other columns are no amounts. -/
theorem keeps_updateGame {data : Game → Game} (h : s.updateGame gameId data = some s')
    (hdata : ∀ game, (data game).payoutLamports = game.payoutLamports ∧
      (data game).rakeLamports = game.rakeLamports) : Keeps Matched Later s s' := by
  obtain ⟨game, hgame, rfl⟩ := Option.map_eq_some_iff.mp h
  refine keeps_aside rfl rfl rfl fun gameId' game' hgame' => ?_
  by_cases e : gameId' = gameId
  · subst e
    obtain rfl := Option.some.inj (hgame.symm.trans hgame')
    exact ⟨_, Table.get_upd_same _ _ _, hdata game⟩
  · exact ⟨game', by rwa [Table.get_upd_other e], rfl, rfl⟩

/-- What was paid goes to the row of the game. -/
theorem keeps_record {data : Game → Game} (h : s.updateGame gameId data = some s')
    (hpaid : SplitPaid s.chain (roomIdFromUuid gameId) split)
    (hdata : ∀ game, (data game).payoutLamports = split.prizePool ∧
      (data game).rakeLamports = split.rake) :
    Keeps Matched Later s s' ∧ Recorded s' gameId split := by
  obtain ⟨game, hgame, rfl⟩ := Option.map_eq_some_iff.mp h
  have hrecorded : Recorded
      { s with
        database := { s.database with games := s.database.games.upd gameId (data game) } }
      gameId split := ⟨_, Table.get_upd_same _ _ _, hdata game⟩
  refine ⟨fun hI => ⟨⟨hI.rewards, hI.legs⟩, fun _ _ h => h, fun _ _ h => h, fun _ _ h => h, ?_⟩,
    hrecorded⟩
  intro gameId' split' hpaid' hrecorded'
  by_cases e : gameId' = gameId
  · subst e
    rwa [hpaid'.unique hpaid]
  · obtain ⟨game', hgame', hcolumns⟩ := hrecorded'
    exact ⟨game', by rwa [Table.get_upd_other e], hcolumns⟩

/-- A reward of what was paid. -/
theorem keeps_reward {userId : ℕ} (hpaid : SplitPaid s.chain (roomIdFromUuid gameId) split)
    (hnone : s.rewards.get (gameId, userId) = none) :
    Keeps Matched Later s
      { s with rewards := s.rewards.upd (gameId, userId) split.prizePool } := by
  refine fun hI => ⟨⟨?_, hI.legs⟩, fun _ _ h => h, fun _ _ h => h, ?_, fun _ _ _ h => h⟩
  · intro gameId' userId' amount hget
    by_cases e : (gameId', userId') = (gameId, userId)
    · obtain ⟨rfl, rfl⟩ := Prod.mk.inj e
      obtain rfl := Option.some.inj ((Table.get_upd_same _ _ _).symm.trans hget)
      exact ⟨split, hpaid, rfl⟩
    · rw [Table.get_upd_other e] at hget
      exact hI.rewards gameId' userId' amount hget
  · intro key amount hget
    by_cases e : key = (gameId, userId)
    · subst e
      cases hnone.symm.trans hget
    · exact (Table.get_upd_other e).trans hget

/-- An instruction that does not end a room. -/
theorem keeps_land {rt : Runtime} {now : ℤ} {i : Instruction} (hi : Ends i = false) :
    Keeps Matched Later s (s.land rt now i) := by
  unfold Services.land
  split
  next t ht =>
      refine fun hI => ⟨⟨?_, ?_⟩, fun _ _ h => h.exec ht hi, fun _ _ h => h.exec ht hi,
        fun _ _ h => h, fun _ _ _ h => h⟩
      · intro gameId userId amount hget
        obtain ⟨split, hpaid, hamount⟩ := hI.rewards gameId userId amount hget
        exact ⟨split, hpaid.exec ht hi, hamount⟩
      · intro p hp htype gameId hgame
        obtain ⟨split, hpaid, hleg⟩ := hI.legs p hp htype gameId hgame
        exact ⟨split, hpaid.exec ht hi, hleg⟩
  · exact fun hI => ⟨hI, .refl s⟩

end Keeps

/-! ### The ledger of a settlement -/

/-- A statement that posts legs of the split, or writes an account. -/
def Posts (gameId : ℕ) (split : Split) : Statement → Prop
  | .updateAccount .. => True
  | .createTransactions rows => ∀ p ∈ rows, p.row.gameId = some gameId ∧ LegOf split p.row
  | _ => False

section Ledger
variable {gameId : ℕ} {split : Split}

/-- **A settlement posts the prize to its winner and the rake to the platform**, and nothing
else. -/
theorem settlePayments_posts {escrow : PoolAccount} {payouts : List (ℕ × ℤ)}
    (hpayouts : ∀ payout ∈ payouts, payout.2 = split.prizePool) : ∀ {payments : List Payment},
      Executes (Posts gameId split) (settlePayments gameId split.rake escrow payments payouts) := by
  induction payouts with
  | nil =>
      intro payments
      have finish : ∀ rake : Option Rake, Executes (Posts gameId split)
          (.run (updateEscrow gameId escrow
              (escrow.balanceLamports - paymentsTotal payments - rakeTotal rake)) <|
            .commit (.settle gameId payments rake escrow) .done) := fun _ => ⟨trivial, trivial⟩
      rw [settlePayments, settleRake]
      dsimp only
      split
      · refine executes_findAccount fun found => ?_
        cases found with
        | none => exact finish none
        | some account =>
            refine executes_uuid fun id => executes_run trivial (executes_run ?_ (finish _))
            simp [Posts, Rake.legs, transfer, Side.posting, LegOf]
      · exact finish none
  | cons payout payouts ih =>
      obtain ⟨playerId, lamports⟩ := payout
      obtain ⟨hlamports, hrest⟩ := List.forall_mem_cons.mp hpayouts
      intro payments
      rw [settlePayments]
      refine executes_findAccount fun found => ?_
      cases found with
      | none => exact ih hrest
      | some custody =>
          refine executes_uuid fun id => executes_run trivial (executes_run ?_ (ih hrest))
          simp only at hlamports
          simp [Posts, Payment.prizeLegs, Payment.legs, transfer, Side.posting, LegOf, hlamports]

/-- The whole transaction posts that, or nothing. -/
theorem postSettlementLedger_posts {payouts : List (ℕ × ℤ)}
    (hpayouts : ∀ payout ∈ payouts, payout.2 = split.prizePool) :
    Executes (Posts gameId split) (postSettlementLedger gameId payouts split.rake) := by
  refine executes_findAccount fun found => ?_
  cases found with
  | none => trivial
  | some escrow =>
      intro view
      dsimp only
      split
      · trivial
      · exact settlePayments_posts hpayouts

/-- Statements that post legs of the split leave the games, and add such legs. -/
theorem runAll_posts {bs : List Statement} : ∀ {db view : Database},
    runAll Database.exec bs db = .ok view → (∀ b ∈ bs, Posts gameId split b) →
      view.games = db.games ∧ ∀ p ∈ view.transactions, p ∈ db.transactions ∨
        p.row.gameId = some gameId ∧ LegOf split p.row := by
  induction bs with
  | nil =>
      rintro db view h -
      obtain rfl := Except.ok.inj h
      exact ⟨rfl, fun _ => .inl⟩
  | cons b bs ih =>
      intro db view h hbs
      obtain ⟨u, hu, hrest⟩ := runAll_cons.mp h
      obtain ⟨hb, hbs⟩ := List.forall_mem_cons.mp hbs
      obtain ⟨hgames, hlegs⟩ := ih hrest hbs
      have hstep : u.games = db.games ∧ ∀ p ∈ u.transactions, p ∈ db.transactions ∨
          p.row.gameId = some gameId ∧ LegOf split p.row := by
        cases b with
        | updateAccount name read data =>
            obtain ⟨_, -, -, rfl⟩ := Database.writes hu
            exact ⟨rfl, fun _ => .inl⟩
        | createTransactions rows =>
            simp only [Database.exec] at hu
            split_ifs at hu
            obtain rfl := Except.ok.inj hu
            refine ⟨rfl, fun p hp => ?_⟩
            obtain hp | hp := List.mem_append.mp hp
            · exact .inl hp
            · exact .inr (hb p hp)
        | _ => exact hb.elim
      refine ⟨hgames.trans hstep.1, fun p hp => ?_⟩
      obtain hp | hp := hlegs p hp
      · exact hstep.2 p hp
      · exact .inr hp

/-- The ledger of a settlement keeps the books in order once the split is paid. -/
theorem keeps_ledger {s : Services} {db : Database} {bs : List Statement}
    (hpaid : SplitPaid s.chain (roomIdFromUuid gameId) split) (hbs : ∀ b ∈ bs, Posts gameId split b)
    (hrun : runAll Database.exec bs s.database = .ok db) :
    Keeps Matched Later s { s with database := db } := by
  obtain ⟨hgames, hlegs⟩ := runAll_posts hrun hbs
  refine fun hI => ⟨⟨hI.rewards, ?_⟩, fun _ _ h => h, fun _ _ h => h, fun _ _ h => h, ?_⟩
  · intro p hp htype gameId' hgame
    obtain hp | ⟨hgame', hleg⟩ := hlegs p hp
    · exact hI.legs p hp htype gameId' hgame
    · obtain rfl := Option.some.inj (hgame.symm.trans hgame')
      exact ⟨split, hpaid, hleg⟩
  · rintro gameId' split' - ⟨game, hgame, hcolumns⟩
    exact ⟨game, by rw [hgames]; exact hgame, hcolumns⟩

end Ledger

/-! ### What a settlement knows -/

/-- At `unlock_prize` the pot is the entry fees that the room locked, and the two fees take the
same of it. -/
def SplitsAlike (s : Services) : Op → Reply → Prop
  | .unlockPrize gameId pot rakeBps, _ =>
      ∀ r ∈ s.chain.rooms.get (roomIdFromUuid gameId), r.status = .inProgress →
        pot = r.totalLocked ∧ (pot * rakeBps).tdiv bpsDenominator =
          (r.totalLocked * r.feeBps / Program.bpsDenominator : ℕ)
  | _, _ => True

instance (s : Services) (op : Op) (c : Reply) : Decidable (SplitsAlike s op c) :=
  match op with
  | .unlockPrize gameId pot rakeBps =>
      inferInstanceAs (Decidable (∀ r ∈ s.chain.rooms.get (roomIdFromUuid gameId),
        r.status = .inProgress → pot = r.totalLocked ∧ (pot * rakeBps).tdiv bpsDenominator =
          (r.totalLocked * r.feeBps / Program.bpsDenominator : ℕ)))
  | .read | .write | .startRoom _ | .settleToWinner _ => .isTrue trivial

/-- The chain paid the split, and the books say so. -/
structure Accounted (s : Services) (gameId winnerId : ℕ) (split : Split) : Prop where
  paid : SplitPaid s.chain (roomIdFromUuid gameId) split
  reward : s.rewards.get (gameId, winnerId) = some split.prizePool
  columns : Recorded s gameId split

/-- A settlement that returns with a prize has accounted for it. -/
def Honest : Outcome → Services → Prop
  | .settle gameId (.settled winnerId split _), s =>
      0 < split.prizePool → Accounted s gameId winnerId split
  | _, _ => True

abbrev Sound (prog : Prog) (s : Services) : Prop := Safe Matched Later SplitsAlike Honest prog s

/-- What is accounted for stays so. -/
theorem Accounted.later {s s' : Services} {gameId winnerId : ℕ} {split : Split}
    (h : Accounted s gameId winnerId split) (hl : Later s s') :
    Accounted s' gameId winnerId split where
  paid := hl.paid _ _ h.paid
  reward := hl.rewards _ _ h.reward
  columns := hl.recorded _ _ h.paid h.columns

section Sound
variable {deps : SettleDeps} {gameId : ℕ} {s : Services}

/-- A program that throws claims nothing. -/
theorem throws_sound (s : Services) : Sound .throws s := trivial

/-- The leaderboard keeps whatever is known. -/
theorem updateLeaderboard_sound {K : Services → Prop}
    (hK : ∀ s s', Later s s' → K s → K s') {standings : List ReportedStanding} {k : Prog}
    (hk : ∀ s, K s → Sound k s) : ∀ s, K s → Sound (updateLeaderboard .throws standings k) s := by
  rintro s hs s' hR hI c -
  refine ⟨hI, .refl s', ?_⟩
  refine safe_forEach (fun standing k hk => safe_forEach (fun period k hk s hs => ?_) hk) hk _
    (hK s s' hR hs)
  rw [updateEntry]
  refine safe_read Later.refl throws_sound fun s₁ h₁ _ => ?_
  have save : ∀ {s₂ v : Services} {key : LeaderboardPeriod × ℕ} {entry : Option LeaderboardEntry},
      s₂.saveEntry key entry = some v → Keeps Matched Later s₂ v := by
    intro s₂ v key entry hv
    obtain ⟨entry, -, rfl⟩ := Option.map_eq_some_iff.mp hv
    exact keeps_aside rfl rfl rfl fun _ game hgame => ⟨game, hgame, rfl, rfl⟩
  have goOn : ∀ s₂ v, Later s₁ s₂ → Matched s₂ → Keeps Matched Later s₂ v → Sound k v :=
    fun s₂ v h₂ hI₂ hv => hk v (hK _ _ (h₁.trans _ _ _ (h₂.trans _ _ _ (hv hI₂).2)) hs)
  split
  · exact safe_write Later.refl throws_sound (fun s₂ v _ hv => save hv)
      fun s₂ v h₂ hI₂ hv => goOn s₂ v h₂ hI₂ (save hv)
  · have saveNew : ∀ s₂ v, (if (s₂.leaderboard.get (period, standing.playerId)).isSome then none
        else s₂.saveEntry (period, standing.playerId) (LeaderboardEntry.first standing)) = some v →
        Keeps Matched Later s₂ v := by
      intro s₂ v hv
      split at hv
      · cases hv
      · exact save hv
    exact safe_write Later.refl throws_sound (fun s₂ v _ hv => saveNew s₂ v hv)
      fun s₂ v h₂ hI₂ hv => goOn s₂ v h₂ hI₂ (saveNew s₂ v hv)

/-- An update of other columns of the game. -/
theorem updateGame_sound {K : Services → Prop} (hK : ∀ s s', Later s s' → K s → K s')
    {data : Game → Game} (hdata : ∀ game, (data game).payoutLamports = game.payoutLamports ∧
      (data game).rakeLamports = game.rakeLamports) {k : Prog} (hk : ∀ s, K s → Sound k s)
    (s : Services) (hs : K s) : Sound (updateGame gameId data .throws k) s :=
  safe_updateGame Later.refl throws_sound (fun _ _ _ h => keeps_updateGame h hdata)
    fun _ v hR hI h => hk v (hK _ _ (hR.trans _ _ _ (keeps_updateGame h hdata hI).2) hs)

/-- A write of a row's other columns. -/
theorem updateAside_sound {data : Game → Game}
    (hdata : ∀ game, (data game).payoutLamports = game.payoutLamports ∧
      (data game).rakeLamports = game.rakeLamports) {k : Prog} (hk : ∀ s, Sound k s)
    (s : Services) : Sound (updateGame gameId data .throws k) s :=
  updateGame_sound (K := fun _ => True) (fun _ _ _ _ => trivial) hdata (fun s _ => hk s) s trivial

/-- A reward that is there is kept, and one that is not is written. -/
theorem createReward_writes (gameId : ℕ) (throw : Prog) (payout : PayoutShare) (k : Prog) :
    ∃ f, createReward gameId throw payout k = write f throw k ∧ ∀ s v, f s = some v →
      (∃ amount, s.rewards.get (gameId, payout.playerId) = some amount) ∧ s = v ∨
        s.rewards.get (gameId, payout.playerId) = none ∧ { s with
          rewards := s.rewards.upd (gameId, payout.playerId) payout.lamports } = v := by
  unfold createReward
  refine ⟨_, rfl, fun s v hv => ?_⟩
  split at hv
  next amount hget => exact .inl ⟨⟨amount, hget⟩, Option.some.inj hv⟩
  next hnone => exact .inr ⟨hnone, Option.some.inj hv⟩

/-- After the payment: everything is recorded, and what is returned says so. -/
theorem record_sound {d : Decided} {payout : PayoutShare} (signature : Option String)
    (hpayouts : d.payouts = [payout]) (hwinner : payout.playerId = d.winnerId)
    (hprize : payout.lamports = d.split.prizePool) :
    ∀ s, SplitPaid s.chain (roomIdFromUuid gameId) d.split →
      Sound (record gameId .throws (fun o => .returns (.settle gameId o)) d signature) s := by
  intro s hs
  have hlater : ∀ s₁ s₂, Later s₁ s₂ → Accounted s₁ gameId d.winnerId d.split →
      Accounted s₂ gameId d.winnerId d.split := fun _ _ hl h => h.later hl
  have returned : ∀ s, Accounted s gameId d.winnerId d.split →
      Sound (.returns (.settle gameId (.settled d.winnerId d.split signature))) s :=
    fun _ h _ hR _ _ => h.later hR
  have rest : ∀ s, Accounted s gameId d.winnerId d.split →
      Sound (updateLeaderboard .throws d.standings <|
        finishGame gameId .throws .confirmed signature <|
          notifyPlayers <| .returns (.settle gameId (.settled d.winnerId d.split signature))) s :=
    updateLeaderboard_sound hlater fun s h =>
      updateGame_sound hlater (by exact fun _ => ⟨rfl, rfl⟩)
        (fun s h => safe_notify Later.refl fun s' hR _ => returned s' (h.later hR)) s h
  rw [record, recordRewards, hpayouts, forEach, List.foldr_cons, List.foldr_nil]
  -- the reward is ours, or one of the same split
  obtain ⟨f, hcreate, hf⟩ := createReward_writes gameId .throws payout _
  rw [hcreate]
  rw [hwinner, hprize] at hf
  have reward : ∀ s' v, Later s s' → Matched s' → f s' = some v →
      Later s' v ∧ Matched v ∧ v.rewards.get (gameId, d.winnerId) = some d.split.prizePool := by
    intro s' v hR hI hv
    have hpaid := hR.paid _ _ hs
    obtain ⟨⟨amount, hget⟩, rfl⟩ | ⟨hnone, rfl⟩ := hf s' v hv
    · obtain ⟨split, hpaid', rfl⟩ := hI.rewards _ _ _ hget
      exact ⟨.refl _, hI, by rw [hget, hpaid'.unique hpaid]⟩
    · obtain ⟨hI', hR'⟩ := keeps_reward hpaid hnone hI
      exact ⟨hR', hI', Table.get_upd_same _ _ _⟩
  refine safe_write Later.refl throws_sound (fun s' v hR hv hI => ?_) fun s' v hR hI hv => ?_
  · obtain ⟨hR', hI', -⟩ := reward s' v hR hI hv
    exact ⟨hI', hR'⟩
  · obtain ⟨hR', hI', hreward⟩ := reward s' v hR hI hv
    have hpaid : SplitPaid v.chain (roomIdFromUuid gameId) d.split :=
      hR'.paid _ _ (hR.paid _ _ hs)
    have hcolumns : ∀ game : Game,
        (totalPayout [payout] = d.split.prizePool) ∧ d.split.rake = d.split.rake :=
      fun _ => ⟨by simp [totalPayout, hprize], rfl⟩
    refine safe_updateGame Later.refl throws_sound
      (fun s₁ v₁ h₁ hv₁ => (keeps_record hv₁ (h₁.paid _ _ hpaid) hcolumns).1)
      fun s₁ v₁ h₁ hI₁ hv₁ => ?_
    obtain ⟨hkeeps, hrecorded⟩ := keeps_record hv₁ (h₁.paid _ _ hpaid) hcolumns
    have haccounted : Accounted v₁ gameId d.winnerId d.split :=
      ⟨(hkeeps hI₁).2.paid _ _ (h₁.paid _ _ hpaid),
        (hkeeps hI₁).2.rewards _ _ (h₁.rewards _ _ hreward), hrecorded⟩
    refine safe_transaction (P := Posts gameId d.split) Later.refl Later.trans throws_sound
      (postSettlementLedger_posts fun p hp => ?_) (by simp)
      (fun s₂ db bs h₂ hbs hrun => keeps_ledger (h₂.paid _ _ haccounted.paid) hbs hrun)
      fun s₂ h₂ => rest s₂ (haccounted.later h₂)
    obtain rfl := List.mem_singleton.mp hp
    exact hprize

/-- What a call of the service answers, and leaves. -/
theorem answer_ok {rt : Runtime} {now : ℤ} {i : Instruction} {signature signature' : String}
    (h : ((s.answer rt now i).map fun _ => signature) = .ok signature') :
    ∃ t, exec rt now s.chain i = .ok t ∧ (s.land rt now i).chain = t.state := by
  unfold Services.answer at h
  unfold Services.land
  cases hexec : exec rt now s.chain i with
  | ok t => exact ⟨t, rfl, rfl⟩
  | error e =>
      rw [hexec] at h
      cases h

/-- An instruction that fails leaves the chain. -/
theorem answer_error {rt : Runtime} {now : ℤ} {i : Instruction} {signature : String} {e : Failure}
    (h : ((s.answer rt now i).map fun _ => signature) = .error e) :
    ∃ x, e = .program x ∧ exec rt now s.chain i = .error x ∧ s.land rt now i = s := by
  unfold Services.answer at h
  unfold Services.land
  cases hexec : exec rt now s.chain i with
  | ok t =>
      rw [hexec] at h
      cases h
  | error x =>
      rw [hexec] at h
      exact ⟨x, (Except.error.inj h).symm, rfl, rfl⟩

/-- The errors that count as done are those of a settled room. -/
theorem isAlreadyDone_settled {x : Error} (h : isAlreadyDone (.program x) = true) :
    ∃ y, x = .arena y ∧ Settled y := by
  unfold isAlreadyDone at h
  split at h
  next heq => exact ⟨_, Failure.program.inj heq, .inl rfl⟩
  next heq => exact ⟨_, Failure.program.inj heq, .inr rfl⟩
  · cases h

/-- An answer that is no more than `rejected`, and the like. -/
theorem returns_sound {o : SettleOutcome} (ho : ∀ w split sig, o ≠ .settled w split sig)
    (s : Services) : Sound (.returns (.settle gameId o)) s := by
  rintro s' - -
  cases o with
  | settled w split sig => exact absurd rfl (ho w split sig)
  | noResult | rejected | alreadySettled => trivial

/-- A settlement that fails has paid nothing that it records. -/
theorem failSettlement_sound {k : Prog} {error : String} (hk : ∀ s, Sound k s) (s : Services) :
    Sound (failSettlement gameId .throws error k) s :=
  updateAside_sound (by exact fun _ => ⟨rfl, rfl⟩) hk s

section Decided
variable {d : Decided} {payout : PayoutShare} {authority : Pubkey}

/-- Once its prize is unlocked as the books will have it, a match is paid so. -/
theorem payWinner_sound (hpayouts : d.payouts = [payout]) (hwinner : payout.playerId = d.winnerId)
    (hprize : payout.lamports = d.split.prizePool) (s : Services)
    (hs : SplitFixed s.chain (roomIdFromUuid gameId) d.split) :
    Sound (payWinner deps gameId .throws (fun o => .returns (.settle gameId o)) authority d) s := by
  refine safe_read Later.refl throws_sound fun s₁ h₁ _ => ?_
  split
  · exact failSettlement_sound (returns_sound (by nofun)) s₁
  · refine safe_sendSigned Later.refl Later.trans (fun s₂ c _ _ => keeps_land rfl)
      (fun s₂ c h₂ hI₂ _ => ?_) fun s₂ _ => failSettlement_sound throws_sound s₂
    have hfixed := h₂.fixed _ _ (h₁.fixed _ _ hs)
    split
    next signature hanswer =>
        obtain ⟨t, hexec, hland⟩ := answer_ok hanswer
        refine record_sound _ hpayouts hwinner hprize _ ?_
        rw [hland]
        exact settleToWinner_paid hfixed hexec
    next e hanswer =>
        obtain ⟨x, rfl, hexec, hland⟩ := answer_error hanswer
        rw [hland]
        split
        next hdone =>
            obtain ⟨y, rfl, hy⟩ := isAlreadyDone_settled hdone
            exact record_sound _ hpayouts hwinner hprize _ (settleToWinner_done hfixed hy hexec)
        · exact failSettlement_sound throws_sound s₂

/-- **What is recorded is what the chain paid**: the prize of the split that the room has fixed. -/
theorem settleOnChain_sound (hpayouts : d.payouts = [payout])
    (hwinner : payout.playerId = d.winnerId) (hprize : payout.lamports = d.split.prizePool)
    (s : Services) :
    Sound
      (settleOnChain deps gameId .throws (fun o => .returns (.settle gameId o)) authority d) s := by
  unfold settleOnChain
  extract_lets caught unlock
  have hunlock : ∀ s, Sound unlock s := by
    intro s
    refine safe_sendSigned Later.refl Later.trans (fun s₁ c _ _ => keeps_land rfl)
      (fun s₁ c _ _ halike => ?_) fun s₁ _ => trivial
    split
    next signature hanswer =>
        obtain ⟨t, hexec, hland⟩ := answer_ok hanswer
        refine payWinner_sound hpayouts hwinner hprize _ ?_
        obtain ⟨r, hr, hst, hfixed⟩ := unlockPrize_fixed hexec
        obtain ⟨hpot, hrake⟩ := halike r hr hst
        rw [hland, Decided.split, splitPot, hrake, hpot]
        exact hfixed
    next e hanswer =>
        obtain ⟨x, rfl, hexec, -⟩ := answer_error hanswer
        dsimp only [caught]
        split
        next hdone =>
            obtain ⟨y, rfl, hy⟩ := isAlreadyDone_settled hdone
            exact absurd hexec (unlockPrize_not_settled hy)
        · trivial
  refine safe_sendSigned Later.refl Later.trans (fun s₁ c _ _ => keeps_land rfl)
    (fun s₁ c _ _ _ => ?_) fun s₁ _ => trivial
  split
  · exact hunlock _
  next e hanswer =>
      obtain ⟨x, rfl, hexec, -⟩ := answer_error hanswer
      split
      · exact hunlock _
      · dsimp only [caught]
        split
        next hdone =>
            obtain ⟨y, rfl, hy⟩ := isAlreadyDone_settled hdone
            exact absurd hexec (startRoom_not_settled hy)
        · trivial

/-- The winner gets the whole prize, whenever anybody does. -/
def WinnerPaid (d : Decided) : Prop :=
  ∀ payout, d.payouts = [payout] →
    payout.playerId = d.winnerId ∧ payout.lamports = d.split.prizePool

/-- With a winner to pay, or with no pot. -/
theorem payOut_sound (hauthority : deps.settlementAuthority.isSome) (hd : WinnerPaid d)
    (s : Services) :
    Sound (payOut deps gameId .throws (fun o => .returns (.settle gameId o)) d) s := by
  unfold payOut
  split_ifs with hpot hlimit htotal
  · refine updateAside_sound (by exact fun _ => ⟨rfl, rfl⟩) (fun s => ?_) s
    refine updateLeaderboard_sound (K := fun _ => True) (fun _ _ _ _ => trivial) (fun s _ => ?_) s
      trivial
    exact safe_notify Later.refl fun s' _ _ => fun _ _ _ h => absurd h (lt_irrefl _)
  · exact returns_sound (by nofun) s
  · exact returns_sound (by nofun) s
  · obtain hnil | ⟨payout, hpayout, -⟩ := @computePayouts_eq d.standings d.split.prizePool
    · exact absurd (.inr hnil) hpot
    · obtain ⟨hwinner, hprize⟩ := hd payout hpayout
      obtain ⟨authority, hsome⟩ := Option.isSome_iff_exists.mp hauthority
      rw [hsome]
      exact updateAside_sound (by exact fun _ => ⟨rfl, rfl⟩)
        (settleOnChain_sound hpayout hwinner hprize) s

end Decided

/-! ### Every call -/

/-- Reading the pot pays nothing. -/
theorem readPot_sound {game : Game} {k : ℤ → Prog} (hk : ∀ pot s, Sound (k pot) s) (s : Services) :
    Sound (readPot deps gameId .throws game k) s := by
  unfold readPot
  split
  · refine safe_readVault Later.refl Later.trans fun balance rentFloor s₁ _ _ => ?_
    split
    · exact updateAside_sound (by exact fun _ => ⟨rfl, rfl⟩) (hk _) s₁
    · exact hk 0 s₁
  · exact hk _ s

/-- Comparing the vault with the pot pays nothing. -/
theorem checkVault_sound {game : Game} {k : Prog} (hk : ∀ s, Sound k s) (s : Services) :
    Sound (checkVault deps gameId .throws (fun o => .returns (.settle gameId o)) game k) s := by
  unfold checkVault
  split
  · refine safe_readVault Later.refl Later.trans fun balance rentFloor s₁ _ _ => ?_
    split
    · exact updateAside_sound (by exact fun _ => ⟨rfl, rfl⟩) (returns_sound (by nofun)) s₁
    · exact hk s₁
  · exact hk s

/-- Reading the entries of the players, one after the other. -/
theorem findPaid_sound {wallets : ℕ → Option Pubkey} {k : List ℕ → Prog}
    (hk : ∀ paid s, Sound (k paid) s) {reported : List ℕ} : ∀ {paid : List ℕ} {s : Services},
      Sound (findPaid gameId .throws wallets k paid reported) s := by
  induction reported with
  | nil => exact hk _ _
  | cons playerId reported ih =>
      intro paid s
      rw [findPaid]
      split
      · exact ih
      · exact safe_read Later.refl throws_sound fun _ _ _ => ih

/-- Taking over the entrants that paid. -/
theorem adopt_sound {game : Game} {report : MatchResultReport} {k : VerificationContext → Prog}
    (hk : ∀ context s, Sound (k context) s) (s : Services) :
    Sound (adopt gameId .throws game report k) s := by
  unfold adopt
  split
  · refine safe_read Later.refl throws_sound fun s₁ _ _ => findPaid_sound fun paid s₂ => ?_
    split
    · exact hk _ s₂
    · exact hk _ s₂
  · exact hk _ s

/-- A report is settled as the chain pays it. -/
theorem settleReport_sound (hauthority : deps.settlementAuthority.isSome) {game : Game}
    {report : MatchResultReport} (s : Services) :
    Sound
      (settleReport deps gameId .throws (fun o => .returns (.settle gameId o)) game report) s := by
  refine adopt_sound (fun context s₁ => ?_) s
  dsimp only
  split
  · exact failSettlement_sound (returns_sound (by nofun)) s₁
  · split
    · exact returns_sound (by nofun) s₁
    next winner hwinner =>
        refine safe_forEach (K := fun _ => True) (fun _ k hk s _ => ?_) (fun s _ => ?_) s₁ trivial
        · exact safe_write Later.refl throws_sound
            (fun s' v _ hv hI => Option.some.inj hv ▸ ⟨hI, .refl _⟩) fun s' v _ _ _ => hk v trivial
        · refine checkVault_sound (readPot_sound fun pot s₂ => payOut_sound hauthority ?_ s₂) s
          intro payout hpayout
          obtain ⟨hid, hlamports, -⟩ := computePayouts_winner hwinner hpayout
          exact ⟨hid, hlamports⟩

/-- The whole call. -/
theorem settleGame_sound (hauthority : deps.settlementAuthority.isSome) (s : Services) :
    Sound (settleGame deps gameId .throws fun o => .returns (.settle gameId o)) s := by
  refine safe_read Later.refl throws_sound fun s₁ _ _ => ?_
  split
  · exact returns_sound (by nofun) s₁
  · split_ifs
    · exact returns_sound (by nofun) s₁
    · exact returns_sound (by nofun) s₁
    · refine safe_read Later.refl throws_sound fun s₂ _ _ => ?_
      split
      · exact returns_sound (by nofun) s₂
      · exact returns_sound (by nofun) s₂
      · exact settleReport_sound hauthority s₂

/-- Sealing the pot pays nothing. -/
theorem sealPot_sound {k : Prog} {pot : ℤ} (hk : ∀ s, Sound k s) (s : Services) :
    Sound (sealPot deps gameId .throws k pot) s := by
  unfold sealPot
  split
  · exact hk s
  · split
    · refine safe_sendSigned Later.refl Later.trans (fun s₁ c _ _ => keeps_land rfl)
        (fun s₁ c _ _ _ => ?_) fun s₁ _ => ?_
      · split
        · exact hk _
        · split
          · exact hk _
          · exact failSettlement_sound hk _
      · exact failSettlement_sound hk s₁
    · exact hk s

/-- The launch pays nothing. -/
theorem closeLobby_sound {tier : Tier} (s : Services) :
    Sound (closeLobby deps tier gameId .throws fun r => .returns (.stage r)) s := by
  have returned : ∀ r s, Sound (.returns (.stage r)) s := fun _ _ _ _ _ => trivial
  unfold closeLobby
  dsimp only
  split
  · exact returned _ s
  · refine safe_read Later.refl throws_sound fun s₁ _ _ => ?_
    split
    · exact returned _ s₁
    · split
      · exact returned _ s₁
      · refine safe_read Later.refl throws_sound fun s₂ _ _ => ?_
        split
        · exact returned _ s₂
        · refine safe_readVault Later.refl Later.trans fun balance rentFloor s₃ _ _ => ?_
          exact updateAside_sound (by exact fun _ => ⟨rfl, rfl⟩) (sealPot_sound (returned _)) s₃

end Sound

/-! ### The books record what the chain paid -/

/-- Before the first call of the worker, with nothing settled. -/
structure WorkerStart (s : System Services (Task Services Op Reply Outcome WorkerCall)) : Prop where
  procs : s.procs = Table.empty
  rewards : s.store.rewards = Table.empty
  legs : ∀ p ∈ s.store.database.transactions, p.row.type ≠ .payout ∧ p.row.type ≠ .rake

section Runs
variable {deps : SettleDeps} {s : System Services (Task Services Op Reply Outcome WorkerCall)}

/-- What happens elsewhere leaves what is paid and recorded. -/
theorem elsewhere_keeps {rt : Runtime} {s s' : Services} {e : Elsewhere}
    (h : elsewhere rt s e = some s') : Keeps Matched Later s s' := by
  cases e with
  | exec now i =>
      simp only [elsewhere] at h
      split at h
      · cases h
      next hi =>
          obtain rfl := Option.some.inj h
          exact keeps_land (Bool.eq_false_iff.mpr hi)
  | transfer m =>
      simp only [elsewhere, Option.ite_none_right_eq_some] at h
      obtain rfl := Option.some.inj h.2
      exact fun hI => ⟨⟨hI.rewards, hI.legs⟩, fun _ _ h => h, fun _ _ h => h, fun _ _ h => h,
        fun _ _ _ h => h⟩

/-- **The books record what the chain paid**, in every run in which the two splits are the same
whenever a prize is unlocked: whoever a settlement returns with was paid on chain what their
reward, the row of the game and its legs say. -/
theorem books_record_payment (hauthority : deps.settlementAuthority.isSome)
    (hs : Reachable (Guarded (worker deps).processes.Step (Functions.Allows SplitsAlike))
      WorkerStart s) {gameId winnerId : ℕ} {split : Split} {signature : Option String}
    (hreturned : Functions.Returned s (.settle gameId (.settled winnerId split signature)))
    (hprize : 0 < split.prizePool) :
    SplitPaid s.store.chain (roomIdFromUuid gameId) split ∧
      s.store.rewards.get (gameId, winnerId) = some split.prizePool ∧
      Recorded s.store gameId split ∧
      ∀ p ∈ s.store.database.transactions, p.row.gameId = some gameId → LegOf split p.row := by
  have hkeeps : (worker deps).processes.Keeps (Functions.Allows SplitsAlike) Matched
      (fun s _ p => Promises Matched Later SplitsAlike Honest s p) fun _ _ => True := by
    refine Functions.keeps Later.refl Later.trans (fun _ _ h => h) (fun request s => ?_)
      fun s e s' hI _ he => elsewhere_keeps he hI
    cases request with
    | settleGame gameId => exact settleGame_sound hauthority s
    | closeLobby tier gameId => exact closeLobby_sound s
  have hstart : ∀ s, WorkerStart s → Matched s.store ∧ s.procs = Table.empty := by
    refine fun s h => ⟨⟨fun gameId userId amount hget => ?_, fun p hp htype => ?_⟩, h.procs⟩
    · rw [h.rewards] at hget
      cases hget
    · obtain ⟨hpayout, hrake⟩ := h.legs p hp
      exact absurd htype (not_or.mpr ⟨hpayout, hrake⟩)
  obtain ⟨hmatched, hhonest⟩ := Functions.returned Later.refl hkeeps hstart hs hreturned
  obtain ⟨hpaid, hreward, hcolumns⟩ := hhonest hprize
  refine ⟨hpaid, hreward, hcolumns, fun p hp hgame => ?_⟩
  by_cases htype : p.row.type = .payout ∨ p.row.type = .rake
  · obtain ⟨split', hpaid', hleg⟩ := hmatched.legs p hp htype gameId hgame
    rwa [hpaid.unique hpaid']
  · rw [not_or] at htype
    exact ⟨fun h => absurd h htype.1, fun h => absurd h htype.2⟩

/-- Two players have entered the room of game 7. -/
def enteredRoom : Result State :=
  execAll .validator .funded
    [(0, Call.initializeProgram (.key 1) (.key 2) (.key 3) 500 50),
      (1, Call.createRoom (.key 2) (roomIdFromUuid 7) 1000000 4),
      (2, Call.enterRoom (.key 4) (roomIdFromUuid 7)),
      (3, Call.enterRoom (.key 5) (roomIdFromUuid 7))]

def placed (playerId placement score kills survivedMs : ℕ) : ReportedStanding :=
  ⟨playerId, placement, score, kills, survivedMs⟩

/-- Player 1 finished game 7 before player 2. -/
def finishedReport : MatchResultReport :=
  ⟨7, "", "node", [placed 1 1 5 2 100, placed 2 2 3 0 50], 0⟩

/-- And the first of them has won it. -/
def finishedGame (chain : State) : System Services (Task Services Op Reply Outcome WorkerCall) where
  store :=
    { database := { emptyDatabase.store with games := Table.empty.upd 7 (.created "node" 500) }
      wallets := [⟨1, .key 4, true, some 0, 0⟩, ⟨2, .key 5, true, some 0, 0⟩]
      rewards := .empty
      leaderboard := .empty
      results :=
        Table.empty.upd 7 (some finishedReport)
      lobbies := .empty
      chain }
  procs := .empty

theorem finishedGame_start (chain : State) : WorkerStart (finishedGame chain) := by
  refine ⟨rfl, rfl, fun p hp => ?_⟩
  exact absurd (show p ∈ ([] : List Posting) from hp) List.not_mem_nil

def settler : SettleDeps := ⟨.validator, some (.key 2), .key 3, fun _ => ""⟩

/-- One settlement, from its call to its return. -/
def settleOnce : List (Act (Task Services Op Reply Outcome WorkerCall) Reply Elsewhere) :=
  .start 0 (.call (.settleGame 7)) :: List.replicate 30 (.resume 0 {})

/-- A settlement with a prize: the game, the winner and the split. -/
def Outcome.prize : Outcome → Option (ℕ × ℕ × Split)
  | .settle gameId (.settled winnerId split _) =>
      if 0 < split.prizePool then some (gameId, winnerId, split) else none
  | _ => none

/-- A result with a prize says to whom, and how much. -/
theorem returned_of_prize {s : System Services (Task Services Op Reply Outcome WorkerCall)}
    {gameId winnerId : ℕ} {split : Split}
    (h : (Functions.result s 0).bind Outcome.prize = some (gameId, winnerId, split)) :
    ∃ signature, Functions.Returned s (.settle gameId (.settled winnerId split signature)) ∧
      0 < split.prizePool := by
  obtain ⟨o, hresult, hprize⟩ := Option.bind_eq_some_iff.mp h
  unfold Outcome.prize at hprize
  split at hprize
  · rw [Option.ite_none_right_eq_some] at hprize
    obtain ⟨hpositive, heq⟩ := hprize
    cases heq
    exact ⟨_, .of_result hresult, hpositive⟩
  · cases hprize

/-- Nothing was given to the vault, and the fees are the same. -/
theorem books_record_payment_entered :
    ∃ (s : System Services (Task Services Op Reply Outcome WorkerCall)) (gameId winnerId : ℕ)
      (split : Split), 0 < split.prizePool ∧ SplitPaid s.store.chain (roomIdFromUuid gameId) split ∧
        s.store.rewards.get (gameId, winnerId) = some split.prizePool ∧
        Recorded s.store gameId split ∧
        ∀ p ∈ s.store.database.transactions, p.row.gameId = some gameId → LegOf split p.row := by
  have hrun : enteredRoom.passes (fun chain =>
      ((worker settler).processes.actsWhen (Functions.Allows SplitsAlike) (finishedGame chain)
        settleOnce).any fun s => ((Functions.result s 0).bind Outcome.prize).isSome) = true := by
    decide +kernel
  obtain ⟨chain, -, htest⟩ := Result.passes_iff.mp hrun
  obtain ⟨s, hs, htest⟩ :=
    (worker settler).processes.reachable_of_actsWhen (finishedGame_start chain) htest
  obtain ⟨⟨gameId, winnerId, split⟩, hprize⟩ := Option.isSome_iff_exists.mp htest
  obtain ⟨signature, hreturned, hpositive⟩ := returned_of_prize hprize
  exact ⟨s, gameId, winnerId, split, hpositive, books_record_payment rfl hs hreturned hpositive⟩

/-- Somebody gives 5000 lamports to the vault before the settlement reads it: the books record
more than the chain paid. -/
theorem books_record_payment_given : ¬∀ s,
    Reachable (worker settler).processes.Step WorkerStart s →
      ∀ gameId winnerId split signature,
        Functions.Returned s (.settle gameId (.settled winnerId split signature)) →
          0 < split.prizePool → SplitPaid s.store.chain (roomIdFromUuid gameId) split := by
  intro h
  have hrun : enteredRoom.passes (fun chain =>
      ((worker settler).processes.acts (finishedGame chain)
        (.other (.transfer ⟨.key 6, .roomVault (roomIdFromUuid 7), 5000⟩) :: settleOnce)).any
          fun s =>
          ((Functions.result s 0).bind Outcome.prize).any fun (gameId, _, split) =>
            (s.store.chain.rooms.get (roomIdFromUuid gameId)).any fun r =>
              decide ((r.prizePool : ℤ) ≠ split.prizePool)) = true := by
    decide +kernel
  obtain ⟨chain, -, htest⟩ := Result.passes_iff.mp hrun
  obtain ⟨s, hs, htest⟩ :=
    (worker settler).processes.reachable_of_acts (finishedGame_start chain) htest
  obtain ⟨⟨gameId, winnerId, split⟩, hprize, htest⟩ := (Option.any_eq_true _ _).mp htest
  obtain ⟨r, hr, hother⟩ := (Option.any_eq_true _ _).mp htest
  obtain ⟨signature, hreturned, hpositive⟩ := returned_of_prize hprize
  obtain ⟨r', hr', -, hsplit⟩ := h s hs gameId winnerId split signature hreturned hpositive
  obtain rfl := Option.some.inj (hr.symm.trans hr')
  exact of_decide_eq_true hother hsplit.prizePool

end Runs

end SnakeArena.Worker
