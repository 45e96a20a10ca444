import SnakeArena.Program.Calls
import SnakeArena.Program.Transaction

/-!
# Program — what a distribution pays

The caller of `distribute_winnings` chooses the accounts it credits.  `Distributed` says what
they must have been and what changed in the players' records: the accounts are the addresses
derived from as many different players, each with a locked record of the room, and each player
gets the amount at its own index.  `distribute_winnings_pays_table` proves it of every call
that succeeds, whatever was passed.

A call that fails leaves nothing behind, in whatever transaction it stands: a record written
before the failure is rolled back with the rest of the transaction (`land`).
-/

namespace SnakeArena.Program
open SnakeArena.Library

/-! ### A record that is not paid has no payout -/

def State.Unpaid (s : State) : Prop :=
  s.roomPlayers.All fun _ rp => rp.state ≠ .paid → rp.payout = 0

/-- The payout loop writes paid records only. -/
theorem Credited.unpaid {room : Pubkey} {s s' : State} {ws : List (Pubkey × ℕ)}
    (h : Credited room s ws s') (hs : s.Unpaid) : s'.Unpaid := by
  induction h with
  | nil => exact hs
  | cons _ _ _ _ _ _ _ ih => exact ih (Table.All.upd hs fun h => absurd rfl h)

theorem Effect.unpaid {rt : Runtime} {now : ℤ} {s : State} {i : Instruction} {t : Tx}
    (h : Effect rt now s i t) (hs : s.Unpaid) : t.state.Unpaid := by
  cases h with
  | joinRoom | enterRoom => exact Table.All.upd hs fun _ => rfl
  | lockEntryFee _ _ _ _ _ hrp _ _ hjoined =>
      exact Table.All.modify hs hrp fun hzero _ => hzero (by simp [hjoined])
  | distributeWinnings _ _ _ _ _ _ _ _ _ hcr => exact hcr.unpaid hs
  | settleToWinner => exact Table.All.upd hs fun h => absurd rfl h
  | claimRefund _ _ hrp _ _ hlocked =>
      exact Table.All.modify hs hrp fun hzero _ => hzero (by simp [hlocked])
  | closeRoomPlayer => exact Table.All.del hs
  | _ => exact hs

theorem Reached.unpaid {rt : Runtime} {s : State} (h : Reached rt s) : s.Unpaid := by
  refine h.invariant ?_ ?_
  · rintro s ⟨-, -, -, hempty, -⟩
    rw [State.Unpaid, hempty]
    exact .empty
  · rintro s e s' hs hstep
    cases hstep with
    | exec h => exact (exec_effect h).unpaid hs
    | outside => exact hs

/-! ### The accounts passed -/

/-- One pair of addresses for each winner, in order. -/
def winnerKeys (room : Pubkey) (winners : List Pubkey) : List Pubkey :=
  winners.flatMap fun w => [.roomPlayer room w, .player w]

theorem payWinner_accounts {room : Pubkey} {seen : List Pubkey} {n : ℕ} {ri pi : AccountInfo}
    {t t' : Tx} {w : Pubkey} (h : payWinner room t seen n ri pi = .ok (t', w)) :
    ri.isWritable = true ∧ pi.isWritable = true ∧ ri.key = .roomPlayer room w ∧
      pi.key = .player w := by
  simp only [payWinner, bind_eq_ok, require_eq_ok, Except.ok.injEq, Prod.mk.injEq] at h
  obtain ⟨-, ⟨hri, hpi⟩, rp, -, -, -, -, -, -, -, -, hrk, p, -, -, -, -, hpk, -, -, -, -, -,
    rfl⟩ := h
  exact ⟨hri, hpi, hrk, hpk⟩

/-- The loop has checked every account it was given, when it was given two for each payout. -/
theorem payWinners_accounts {room : Pubkey} : ∀ {payouts : List ℕ} {infos : List AccountInfo}
    {seen : List Pubkey} {t t' : Tx} {ws : List (Pubkey × ℕ)},
    payWinners room t seen payouts infos = .ok t' → infos.length = payouts.length * 2 →
    PaysInOrder infos payouts ws →
    infos.map AccountInfo.key = winnerKeys room (ws.map Prod.fst) ∧
      ∀ a ∈ infos, a.isWritable = true := by
  intro payouts
  induction payouts with
  | nil =>
      rintro infos seen t t' ws - hlen hpays
      obtain rfl : infos = [] := List.length_eq_zero_iff.mp (by simpa using hlen)
      obtain rfl : ws = [] := by simpa [PaysInOrder, winnerAccounts] using hpays
      simp [winnerKeys]
  | cons n payouts ih =>
      rintro infos seen t t' ws h hlen hpays
      obtain - | ⟨ri, - | ⟨pi, rest⟩⟩ := infos
      · simp [payWinners] at h
      · simp [payWinners] at h
      · simp only [payWinners, bind_eq_ok, Prod.exists] at h
        obtain ⟨t₁, w, h₁, h₂⟩ := h
        obtain ⟨hri, hpi, hrk, hpk⟩ := payWinner_accounts h₁
        cases ws with
        | nil => simp [PaysInOrder, winnerAccounts] at hpays
        | cons winner ws =>
            simp only [PaysInOrder, winnerAccounts, List.zip_cons_cons, List.map_cons,
              List.cons.injEq, Prod.mk.injEq, hpk, Pubkey.player.injEq] at hpays
            obtain ⟨⟨rfl, -⟩, hrest⟩ := hpays
            simp only [List.length_cons] at hlen
            obtain ⟨hkeys, hwritable⟩ := ih h₂ (by omega) hrest
            refine ⟨?_, ?_⟩
            · simp only [List.map_cons, hkeys, hrk, hpk, winnerKeys, List.flatMap_cons,
                List.cons_append, List.nil_append]
            · rintro a ha
              rcases List.mem_cons.mp ha with rfl | ha
              · exact hri
              · rcases List.mem_cons.mp ha with rfl | ha
                · exact hpi
                · exact hwritable a ha

/-- What was passed to a distribution that succeeds. -/
theorem distributeWinnings_accounts {rt : Runtime} {now : ℤ} {s : State} {t : Tx}
    {accs : DistributeWinnings} {payouts : List ℕ} {ws : List (Pubkey × ℕ)}
    (h : distributeWinnings rt now accs payouts s = .ok t)
    (hpays : PaysInOrder accs.remaining payouts ws) :
    accs.remaining.map AccountInfo.key = winnerKeys accs.room.key (ws.map Prod.fst) ∧
      ∀ a ∈ accs.remaining, a.isWritable = true := by
  simp only [distributeWinnings, bind_eq_ok, require_eq_ok] at h
  obtain ⟨_, -, _, -, _, -, _, -, _, -, _, -, _, -, _, -, _, -, _, -, _, -, _, -, _, -, _, -,
    -, hlen, -, -, _, -, t₁, h₁, -⟩ := h
  exact payWinners_accounts h₁ hlen hpays

/-! ### A distribution -/

/-- `winners` were paid `payouts`, one each and in order, by a call that was passed
`remaining`. -/
structure Distributed (room : Pubkey) (prizePool : ℕ) (remaining : List AccountInfo)
    (payouts : List ℕ) (winners : List Pubkey) (s s' : State) : Prop where
  accounts : remaining.map AccountInfo.key = winnerKeys room winners
  writable : ∀ a ∈ remaining, a.isWritable = true
  count : winners.length = payouts.length
  distinct : winners.Nodup
  sum : payouts.sum = prizePool
  paid : ∀ e ∈ winners.zip payouts, ∃ rp p,
    s.roomPlayers.get (room, e.1) = some rp ∧ rp.room = room ∧ rp.player = e.1 ∧
    rp.state = .locked ∧
    s'.roomPlayers.get (room, e.1) = some { rp with payout := rp.payout + e.2, state := .paid } ∧
    s.players.get e.1 = some p ∧ p.owner = e.1 ∧
    s'.players.get e.1 = some
      { p with balance := p.balance + e.2, totalWinnings := p.totalWinnings + e.2 }
  otherRecords : ∀ k, (k.1 = room → k.2 ∉ winners) →
    s'.roomPlayers.get k = s.roomPlayers.get k
  otherPlayers : ∀ o, o ∉ winners → s'.players.get o = s.players.get o

/-- The chain after a transaction was tried: one that fails leaves it as it was. -/
def land (rt : Runtime) (now : ℤ) (s : State) (legs : List Leg) : State :=
  match execLegs rt now s legs with
  | .ok s' => s'
  | .error _ => s

/-- A leg that fails takes the legs before it along. -/
theorem land_of_error {rt : Runtime} {now : ℤ} {leg : Leg} {e : Error}
    {after : List Leg} {s' : State} (h : leg.exec rt now s' = .error e) :
    ∀ {before : List Leg} {s : State},
    execLegs rt now s before = .ok s' → land rt now s (before ++ leg :: after) = s := by
  have fails : ∀ {before : List Leg} {s : State}, execLegs rt now s before = .ok s' →
      execLegs rt now s (before ++ leg :: after) = .error e := by
    intro before
    induction before with
    | nil =>
        rintro s hs
        obtain rfl : s = s' := Except.ok.inj hs
        simp [execLegs, h, bind, Except.bind]
    | cons l before ih =>
        rintro s hs
        simp only [execLegs, bind_eq_ok] at hs
        obtain ⟨t, ht, hrest⟩ := hs
        simp only [List.cons_append, execLegs, ht, bind, Except.bind]
        exact ih hrest
  intro before s hs
  rw [land, fails hs]

/-- **A distribution pays exactly its table.**  When `distribute_winnings` succeeds, the accounts
it was passed are those of different players of the room, in the order of the payouts; each
record was locked and is paid now, each player was credited with the payout at its index, the
payouts add up to the prize, and no other record changed.  When it fails, nothing changes. -/
theorem distribute_winnings_pays_table {rt : Runtime} {s : State} (hs : Reached rt s) (now : ℤ)
    (accs : DistributeWinnings) (payouts : List ℕ) :
    (∀ t, exec rt now s (.distributeWinnings accs payouts) = .ok t → ∃ r winners,
      s.rooms.get r.roomId = some r ∧ accs.room.key = .room r.roomId ∧
      Distributed accs.room.key r.prizePool accs.remaining payouts winners s t.state) ∧
    ∀ e, exec rt now s (.distributeWinnings accs payouts) = .error e →
      ∀ s₀ before after, execLegs rt now s₀ before = .ok s →
        land rt now s₀ (before ++ .arena (.distributeWinnings accs payouts) :: after) = s₀ := by
  constructor
  case right =>
      intro e he s₀ before after hbefore
      have hleg : (Leg.arena (.distributeWinnings accs payouts)).exec rt now s = .error e := he
      exact land_of_error hleg hbefore
  rintro t ht
  simp only [exec, handle, bind_eq_ok, require_eq_ok, Except.ok.injEq] at ht
  obtain ⟨t', h, -, -, rfl⟩ := ht
  obtain ⟨c, r, ws, s₁, l, -, hr, hkey, -, -, -, hsnd, hnodup, hsum, hcr, -, hpays, rfl⟩ :=
    distributeWinnings_eq_ok h
  obtain ⟨hkeys, hwritable⟩ := distributeWinnings_accounts h hpays
  rw [hkey] at hkeys
  refine ⟨r, ws.map Prod.fst, hr, hkey, ?_⟩
  rw [hkey]
  have hzip : (ws.map Prod.fst).zip payouts = ws := by
    rw [← hsnd, List.zip_map', List.map_id']
  exact {
    accounts := hkeys
    writable := hwritable
    count := by rw [← hsnd, List.length_map, List.length_map]
    distinct := hnodup
    sum := hsum
    paid := by
      rintro ⟨w, n⟩ hw
      rw [hzip] at hw
      obtain ⟨rp, p, hrp, hroom, hpl, hlocked, hrp', hp, hp'⟩ := hcr.winner hnodup hw
      have hzero : rp.payout = 0 := hs.unpaid _ _ hrp (by simp [hlocked])
      refine ⟨rp, p, hrp, hroom, hpl, hlocked, ?_, hp, (hs.wellFormed.players _ _ hp).1, hp'⟩
      rw [hrp', hzero, Nat.zero_add]
    otherRecords := fun k hk => hcr.record_frame hk
    otherPlayers := fun o ho => hcr.player_frame ho }

/-- Two winners of a room of three, paid from its prize. -/
theorem distribute_winnings_pays_table_two : ∃ s t, ∃ (r : Room) (winners : List Pubkey),
    Reached .validator s ∧
    exec .validator 9 s (Call.distributeWinnings (.key 2) (.key 3) (.ofByte 7)
      [(.key 5, 900000), (.key 4, 1950000)]) = .ok t ∧
    Distributed (.room (.ofByte 7)) r.prizePool
      (([.key 5, .key 4] : List Pubkey).flatMap fun w =>
        [.full (.roomPlayer (.room (.ofByte 7)) w), .full (.player w)])
      [900000, 1950000] winners s t.state := by
  have run : (execAll .validator .funded
      ((0, Call.initializeProgram (.key 1) (.key 2) (.key 3) 500 50) ::
        (2, Call.createRoom (.key 2) (.ofByte 7) 1000000 4) ::
        ([.key 4, .key 5, .key 6] : List Pubkey).flatMap (fun p =>
          [(3, Call.deposit p 5000000), (4, Call.joinRoom p (.ofByte 7)),
            (5, Call.lockEntryFee p (.ofByte 7))]) ++
        [(6, Call.startRoom (.key 2) (.ofByte 7)),
          (7, Call.unlockPrize (.key 2) (.ofByte 7))])).passes (fun s =>
      (exec .validator 9 s (Call.distributeWinnings (.key 2) (.key 3) (.ofByte 7)
        [(.key 5, 900000), (.key 4, 1950000)])).passes fun _ => true) = true := by
    decide
  obtain ⟨s, hs, htest⟩ := Result.passes_iff.mp run
  obtain ⟨t, ht, -⟩ := Result.passes_iff.mp htest
  obtain ⟨r, winners, -, -, h⟩ :=
    (distribute_winnings_pays_table (reached_of_execAll hs) 9 _ _).1 t ht
  exact ⟨s, t, r, winners, reached_of_execAll hs, ht, h⟩

end SnakeArena.Program
