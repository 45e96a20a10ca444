import SnakeArena.Program.Room

/-!
# Program — settlement (`instructions/settle.rs`)

Unlocking the prize, paying winners by either path, cancelling and refunding.
-/

namespace SnakeArena.Program
open SnakeArena.Library

/-! ### unlock_prize -/

/-- The accounts of `unlock_prize`. -/
structure UnlockPrize where
  config : AccountInfo
  room : AccountInfo
  settlementAuthority : AccountInfo

/-- Commits the split of the escrowed pot between winners and the house.  No lamports move. -/
def unlockPrize (now : ℤ) (accs : UnlockPrize) (s : State) : Result Tx := do
  let config ← loadConfig s accs.config.key
  seeds accs.config .config
  let room ← loadRoom s accs.room.key
  mutable accs.room
  seeds accs.room (.room room.roomId)
  require (accs.settlementAuthority.key = config.settlementAuthority)
    (.arena .unauthorizedSettlement)
  signer accs.settlementAuthority
  require (room.status = .inProgress) (.arena .roomNotInProgress)
  -- the fee snapshotted at creation, not the live config value
  let rakeAmount ← applyBps room.totalLocked room.feeBps
  let prizePool ← sub room.totalLocked rakeAmount
  .ok ((Tx.start s).setRoom room.roomId
    { room with rakeAmount, prizePool, status := .unlocked, unlockedAt := now })

/-! ### distribute_winnings -/

/-- The accounts of `distribute_winnings`; the winners' are the remaining ones, in pairs. -/
structure DistributeWinnings where
  config : AccountInfo
  room : AccountInfo
  roomVault : AccountInfo
  pool : AccountInfo
  feeDestination : AccountInfo
  settlementAuthority : AccountInfo
  systemProgram : AccountInfo
  /-- One `[RoomPlayer, PlayerAccount]` pair for each payout. -/
  remaining : List AccountInfo

/-- One turn of the payout loop: the record and the account of a winner are checked against
their expected addresses, credited and written back.  Returns the winner. -/
def payWinner (room : Pubkey) (t : Tx) (seen : List Pubkey) (amount : ℕ)
    (roomPlayerInfo playerInfo : AccountInfo) : Result (Tx × Pubkey) := do
  require (roomPlayerInfo.isWritable = true ∧ playerInfo.isWritable = true)
    (.arena .winnerAccountMismatch)
  let rp ← loadRoomPlayer t.state roomPlayerInfo.key
  require (rp.room = room) (.arena .roomPlayerMismatch)
  require (rp.state = .locked) (.arena .entryFeeNotLocked)
  let winner := rp.player
  require (winner ∉ seen) (.arena .duplicateWinner)
  require (roomPlayerInfo.key = .roomPlayer room winner) (.arena .roomPlayerMismatch)
  let p ← loadPlayer t.state playerInfo.key
  require (p.owner = winner) (.arena .playerOwnerMismatch)
  require (playerInfo.key = .player winner) (.arena .playerOwnerMismatch)
  let balance ← add p.balance amount
  let totalWinnings ← add p.totalWinnings amount
  .ok ((t.setRoomPlayer room winner { rp with payout := amount, state := .paid }).setPlayer winner
    { p with balance, totalWinnings }, winner)

/-- The payout loop.  The last case is an index past `remaining_accounts`, which the length
check before the loop excludes. -/
def payWinners (room : Pubkey) (t : Tx) (seen : List Pubkey) :
    List ℕ → List AccountInfo → Result Tx
  | [], _ => .ok t
  | amount :: payouts, roomPlayerInfo :: playerInfo :: rest => do
      let (t, winner) ← payWinner room t seen amount roomPlayerInfo playerInfo
      payWinners room t (seen ++ [winner]) payouts rest
  | _ :: _, _ => .error (.arena .winnerAccountMismatch)

/-- Credits every winner and sweeps the rake, atomically. -/
def distributeWinnings (rt : Runtime) (now : ℤ) (accs : DistributeWinnings) (payouts : List ℕ)
    (s : State) : Result Tx := do
  let config ← loadConfig s accs.config.key
  seeds accs.config .config
  let room ← loadRoom s accs.room.key
  mutable accs.room
  seeds accs.room (.room room.roomId)
  mutable accs.roomVault
  seeds accs.roomVault (.roomVault room.roomId)
  mutable accs.pool
  seeds accs.pool .pool
  mutable accs.feeDestination
  require (accs.feeDestination.key = config.feeDestination) (.arena .treasuryMismatch)
  require (accs.settlementAuthority.key = config.settlementAuthority)
    (.arena .unauthorizedSettlement)
  signer accs.settlementAuthority
  system accs.systemProgram
  require (accs.remaining.length = payouts.length * 2) (.arena .winnerAccountMismatch)
  require (room.status = .unlocked) (.arena .prizeNotUnlocked)
  let totalPayout ← validatePayouts payouts room.prizePool
  let t ← payWinners accs.room.key (.start s) [] payouts accs.remaining
  let t ← transferFromVault rt t accs.roomVault.key accs.pool.key totalPayout
  let t ← transferFromVault rt t accs.roomVault.key accs.feeDestination.key room.rakeAmount
  .ok (t.setRoom room.roomId
    { room with
      distributed := totalPayout, winnersPaid := payouts.length, status := .settled
      settledAt := now })

/-! ### cancel_room -/

/-- The accounts of `cancel_room`. -/
structure CancelRoom where
  config : AccountInfo
  room : AccountInfo
  signer : AccountInfo

/-- Aborts a room and opens refunds: the authority at once, anyone after the delay. -/
def cancelRoom (now : ℤ) (accs : CancelRoom) (s : State) : Result Tx := do
  let config ← loadConfig s accs.config.key
  seeds accs.config .config
  let room ← loadRoom s accs.room.key
  mutable accs.room
  seeds accs.room (.room room.roomId)
  signer accs.signer
  require (room.status ≠ .settled) (.arena .roomAlreadySettled)
  require (room.status ≠ .cancelled) (.arena .roomCancelled)
  if accs.signer.key = config.settlementAuthority then
    .ok ((Tx.start s).setRoom room.roomId { room with status := .cancelled })
  else do
    let unlockAt := room.createdAt + permissionlessCancelDelaySeconds
    require (unlockAt ≤ i64Max) (.arena .overflow)
    require (now ≥ unlockAt) (.arena .cancelDelayNotElapsed)
    .ok ((Tx.start s).setRoom room.roomId { room with status := .cancelled })

/-! ### claim_refund -/

/-- The accounts of `claim_refund`: anyone may sign for the player. -/
structure ClaimRefund where
  config : AccountInfo
  room : AccountInfo
  roomPlayer : AccountInfo
  playerAccount : AccountInfo
  roomVault : AccountInfo
  pool : AccountInfo
  player : AccountInfo
  claimant : AccountInfo
  systemProgram : AccountInfo

/-- Returns one player's escrowed entry fee after cancellation.  Anyone may crank it. -/
def claimRefund (rt : Runtime) (accs : ClaimRefund) (s : State) : Result Tx := do
  let _ ← loadConfig s accs.config.key
  seeds accs.config .config
  let room ← loadRoom s accs.room.key
  mutable accs.room
  seeds accs.room (.room room.roomId)
  let rp ← loadRoomPlayer s accs.roomPlayer.key
  mutable accs.roomPlayer
  seeds accs.roomPlayer (.roomPlayer accs.room.key accs.player.key)
  require (rp.room = accs.room.key) (.arena .roomPlayerMismatch)
  require (rp.player = accs.player.key) (.arena .roomPlayerOwnerMismatch)
  let p ← loadPlayer s accs.playerAccount.key
  mutable accs.playerAccount
  seeds accs.playerAccount (.player accs.player.key)
  require (p.owner = accs.player.key) (.arena .playerOwnerMismatch)
  mutable accs.roomVault
  seeds accs.roomVault (.roomVault room.roomId)
  mutable accs.pool
  seeds accs.pool .pool
  mutable accs.claimant
  signer accs.claimant
  system accs.systemProgram
  require (room.status = .cancelled) (.arena .roomNotCancelled)
  require (rp.state = .locked) (.arena .entryFeeNotLocked)
  let amount := rp.lockedAmount
  let balance ← add p.balance amount
  let totalLocked ← sub room.totalLocked amount
  let t := (Tx.start s).setRoomPlayer accs.room.key accs.player.key { rp with state := .refunded }
  -- a saturating subtraction
  let t := t.setPlayer accs.player.key
    { p with balance, totalWagered := p.totalWagered - amount }
  let t := t.setRoom room.roomId { room with totalLocked }
  transferFromVault rt t accs.roomVault.key accs.pool.key amount

/-! ### settle_to_winner -/

/-- The accounts of `settle_to_winner`. -/
structure SettleToWinner where
  config : AccountInfo
  room : AccountInfo
  roomVault : AccountInfo
  winnerRoomPlayer : AccountInfo
  winner : AccountInfo
  feeDestination : AccountInfo
  settlementAuthority : AccountInfo
  systemProgram : AccountInfo

/-- Pays the last surviving player directly, and sweeps the rake. -/
def settleToWinner (rt : Runtime) (now : ℤ) (accs : SettleToWinner) (s : State) : Result Tx := do
  let config ← loadConfig s accs.config.key
  seeds accs.config .config
  let room ← loadRoom s accs.room.key
  mutable accs.room
  seeds accs.room (.room room.roomId)
  mutable accs.roomVault
  seeds accs.roomVault (.roomVault room.roomId)
  let rp ← loadRoomPlayer s accs.winnerRoomPlayer.key
  mutable accs.winnerRoomPlayer
  seeds accs.winnerRoomPlayer (.roomPlayer accs.room.key accs.winner.key)
  require (rp.player = accs.winner.key) (.arena .playerOwnerMismatch)
  mutable accs.winner
  mutable accs.feeDestination
  require (accs.feeDestination.key = config.feeDestination) (.arena .treasuryMismatch)
  require (accs.settlementAuthority.key = config.settlementAuthority)
    (.arena .unauthorizedSettlement)
  signer accs.settlementAuthority
  system accs.systemProgram
  require (room.status = .unlocked) (.arena .roomAlreadySettled)
  require (rp.state = .locked) (.arena .alreadyPaid)
  let prize := room.prizePool
  let rake := room.rakeAmount
  let t ← transferFromVault rt (.start s) accs.roomVault.key accs.winner.key prize
  let t ← transferFromVault rt t accs.roomVault.key accs.feeDestination.key rake
  .ok ((t.setRoomPlayer accs.room.key accs.winner.key
    { rp with payout := prize, state := .paid }).setRoom room.roomId
    { room with distributed := prize, winnersPaid := 1, status := .settled, settledAt := now })

/-! ### What each does when it succeeds -/

/-- The payout loop as a relation: each winner of the list has a locked record of the room and
a custody account, and is credited. -/
inductive Credited (room : Pubkey) : State → List (Pubkey × ℕ) → State → Prop where
  | nil (s : State) : Credited room s [] s
  | cons {s s' : State} {w : Pubkey} {n : ℕ} {ws : List (Pubkey × ℕ)} {rp : RoomPlayer}
      {p : PlayerAccount} (hrp : s.roomPlayers.get (room, w) = some rp) (hroom : rp.room = room)
      (hw : rp.player = w) (hlocked : rp.state = .locked) (hp : s.players.get w = some p)
      (howner : p.owner = w)
      (t : Credited room
        { s with
          players := s.players.upd w
            { p with balance := p.balance + n, totalWinnings := p.totalWinnings + n }
          roomPlayers := s.roomPlayers.upd (room, w) { rp with payout := n, state := .paid } }
        ws s') : Credited room s ((w, n) :: ws) s'

/-- The custody accounts among `remaining_accounts`: the second of each pair. -/
def winnerAccounts : List AccountInfo → List Pubkey
  | _ :: playerInfo :: rest => playerInfo.key :: winnerAccounts rest
  | _ => []

/-- A winner's account is one of those passed. -/
theorem winnerAccounts_subset : ∀ (infos : List AccountInfo) {a : Pubkey},
    a ∈ winnerAccounts infos → a ∈ infos.map AccountInfo.key
  | _ :: playerInfo :: rest, a, h => by
      rcases List.mem_cons.mp h with rfl | h
      · simp
      · exact .tail _ (.tail _ (winnerAccounts_subset rest h))

/-- The payouts `ws` go to the custody accounts passed, in order. -/
def PaysInOrder (infos : List AccountInfo) (payouts : List ℕ) (ws : List (Pubkey × ℕ)) : Prop :=
  (winnerAccounts infos).zip payouts = ws.map fun w => (.player w.1, w.2)

/-- Who is paid was passed. -/
theorem PaysInOrder.remaining {infos : List AccountInfo} {payouts : List ℕ}
    {ws : List (Pubkey × ℕ)} (h : PaysInOrder infos payouts ws) :
    ∀ w ∈ ws.map Prod.fst, .player w ∈ infos.map AccountInfo.key := by
  intro w hw
  obtain ⟨⟨w, n⟩, hmem, rfl⟩ := List.mem_map.mp hw
  have hzip : (Pubkey.player w, n) ∈ (winnerAccounts infos).zip payouts := by
    rw [h]
    exact List.mem_map.mpr ⟨_, hmem, rfl⟩
  exact winnerAccounts_subset _ (List.of_mem_zip hzip).1

section Ok
variable {rt : Runtime} {now : ℤ} {s : State} {t : Tx}

/-- The rake is taken once, and the rest is the prize. -/
theorem unlockPrize_eq_ok {accs : UnlockPrize} (h : unlockPrize now accs s = .ok t) :
    ∃ c r rake, s.config = some c ∧ s.rooms.get r.roomId = some r ∧
      accs.room.key = .room r.roomId ∧ accs.settlementAuthority.key = c.settlementAuthority ∧
      c.settlementAuthority.CanSign ∧ r.status = .inProgress ∧
      rake = r.totalLocked * r.feeBps / bpsDenominator ∧ rake ≤ r.totalLocked ∧
      t = ⟨{ s with
              rooms := s.rooms.upd r.roomId
                { r with
                  rakeAmount := rake, prizePool := r.totalLocked - rake, status := .unlocked
                  unlockedAt := now } }, [], []⟩ := by
  simp only [unlockPrize, bind_eq_ok, loadConfig_eq_ok, loadRoom_eq_ok, seeds_eq_ok,
    require_eq_ok, mutable_eq_ok, signer_eq_ok, sub_eq_ok, Except.ok.injEq] at h
  obtain ⟨c, ⟨-, hc⟩, -, -, r, ⟨id, hid, hr⟩, -, -, -, hkey, -, hsa, -, hsig, -, hst, rake, hrake,
    _, ⟨hle, rfl⟩, rfl⟩ := h
  obtain ⟨hrk, hr⟩ := room_of_seeds hid hr hkey
  exact ⟨c, r, rake, hc, hr, hrk, hsa, hsa ▸ accs.settlementAuthority.signer_ok hsig, hst,
    applyBps_eq_ok hrake, hle, rfl⟩

/-- A winner is paid once, from a record of this room whose stake is locked. -/
theorem payWinner_eq_ok {room : Pubkey} {seen : List Pubkey} {n : ℕ} {ri pi : AccountInfo}
    {t t' : Tx} {w : Pubkey} (h : payWinner room t seen n ri pi = .ok (t', w)) :
    ∃ rp p, w ∉ seen ∧ t.state.roomPlayers.get (room, w) = some rp ∧ rp.room = room ∧
      rp.player = w ∧ rp.state = .locked ∧ t.state.players.get w = some p ∧ p.owner = w ∧
      pi.key = .player w ∧ t' = ⟨{ t.state with
                players := t.state.players.upd w
                  { p with balance := p.balance + n, totalWinnings := p.totalWinnings + n }
                roomPlayers := t.state.roomPlayers.upd (room, w)
                  { rp with payout := n, state := .paid } }, t.moves, t.debits⟩ := by
  simp only [payWinner, bind_eq_ok, require_eq_ok, loadRoomPlayer_eq_ok, loadPlayer_eq_ok,
    add_eq_ok, Except.ok.injEq, Prod.mk.injEq] at h
  obtain ⟨-, -, rp, ⟨a, b, hab, hrp⟩, -, hroom, -, hst, -, hseen, -, hkey, p, ⟨o, ho, hp⟩, -,
    howner, -, hpk, _, ⟨-, rfl⟩, _, ⟨-, rfl⟩, rfl, rfl⟩ := h
  obtain ⟨rfl, rfl⟩ := Pubkey.roomPlayer.inj (hab.symm.trans hkey)
  obtain rfl : o = rp.player := Pubkey.player.inj (ho.symm.trans hpk)
  exact ⟨rp, p, hseen, hrp, hroom, rfl, hst, hp, howner, hpk, rfl⟩

/-- The loop credits the payouts in order, to as many different players. -/
theorem payWinners_eq_ok {room : Pubkey} : ∀ {payouts : List ℕ} {infos : List AccountInfo}
    {seen : List Pubkey} {t t' : Tx}, payWinners room t seen payouts infos = .ok t' →
    ∃ ws : List (Pubkey × ℕ), ws.map Prod.snd = payouts ∧ (ws.map Prod.fst).Nodup ∧
      (∀ w ∈ ws.map Prod.fst, w ∉ seen) ∧ Credited room t.state ws t'.state ∧
      PaysInOrder infos payouts ws ∧ t'.moves = t.moves ∧ t'.debits = t.debits := by
  intro payouts
  induction payouts with
  | nil =>
      intro infos seen t t' h
      simp only [payWinners, Except.ok.injEq] at h
      subst h
      exact ⟨[], rfl, List.nodup_nil, by simp, .nil _, List.zip_nil_right, rfl, rfl⟩
  | cons n payouts ih =>
      intro infos seen t t' h
      match infos, h with
      | [], h => simp [payWinners] at h
      | [_], h => simp [payWinners] at h
      | ri :: pi :: rest, h =>
          simp only [payWinners, bind_eq_ok, Prod.exists] at h
          obtain ⟨t₁, w, h₁, h₂⟩ := h
          obtain ⟨rp, p, hseen, hrp, hroom, hw, hst, hp, howner, hpi, rfl⟩ := payWinner_eq_ok h₁
          obtain ⟨ws, hn, hnodup, hnew, hcr, hinfos, hm, hd⟩ := ih h₂
          refine ⟨(w, n) :: ws, by simp [hn], ?_, ?_, .cons hrp hroom hw hst hp howner hcr, ?_,
            hm, hd⟩
          · rw [List.map_cons, List.nodup_cons]
            exact ⟨fun hmem => hnew w hmem (by simp), hnodup⟩
          · intro x hx
            rcases List.mem_cons.mp hx with rfl | hx
            · exact hseen
            · exact fun hs => hnew x hx (by simp [hs])
          · rw [PaysInOrder, winnerAccounts, List.zip_cons_cons, hinfos, hpi, List.map_cons]

/-- The payouts add up to the prize, and each winner is credited with theirs. -/
theorem distributeWinnings_eq_ok {accs : DistributeWinnings} {payouts : List ℕ}
    (h : distributeWinnings rt now accs payouts s = .ok t) :
    ∃ c r ws s₁ l, s.config = some c ∧ s.rooms.get r.roomId = some r ∧
      accs.room.key = .room r.roomId ∧ accs.settlementAuthority.key = c.settlementAuthority ∧
      c.settlementAuthority.CanSign ∧ r.status = .unlocked ∧
      ws.map Prod.snd = payouts ∧ (ws.map Prod.fst).Nodup ∧ payouts.sum = r.prizePool ∧
      Credited (.room r.roomId) s ws s₁ ∧
      Moved s₁.lamports (payment (.roomVault r.roomId) .pool r.prizePool ++
        payment (.roomVault r.roomId) c.feeDestination r.rakeAmount) l ∧
      PaysInOrder accs.remaining payouts ws ∧
      t = ⟨{ s₁ with
              lamports := l
              rooms := s₁.rooms.upd r.roomId
                { r with
                  distributed := r.prizePool, winnersPaid := payouts.length
                  status := .settled, settledAt := now } },
            payment (.roomVault r.roomId) .pool r.prizePool ++
              payment (.roomVault r.roomId) c.feeDestination r.rakeAmount, []⟩ := by
  simp only [distributeWinnings, bind_eq_ok, loadConfig_eq_ok, loadRoom_eq_ok, seeds_eq_ok,
    require_eq_ok, mutable_eq_ok, signer_eq_ok, system_eq_ok, Except.ok.injEq] at h
  obtain ⟨c, ⟨-, hc⟩, -, -, r, ⟨id, hid, hr⟩, -, -, -, hkey, -, -, -, hv, -, -, -, hpool, -, -, -,
    hfd, -, hsa, -, hsig, -, -, -, -, -, hst, total, htot, t₁, h₁, t₂, h₂, t₃, h₃, rfl⟩ := h
  obtain ⟨hrk, hr⟩ := room_of_seeds hid hr hkey
  obtain ⟨rfl, hpp, -, -, -⟩ := validatePayouts_eq_ok htot
  rw [hrk] at h₁
  rw [hv, hpool, ← hpp] at h₂
  rw [hv, hfd] at h₃
  obtain ⟨ws, hsnd, hnodup, -, hcr, hpays, hm, hd⟩ := payWinners_eq_ok h₁
  obtain ⟨⟨l₂, m₂, rfl⟩, -⟩ := transferFromVault_eq_ok h₂
  obtain ⟨⟨l₃, m₃, rfl⟩, -⟩ := transferFromVault_eq_ok h₃
  exact ⟨c, r, ws, t₁.state, l₃, hc, hr, hrk, hsa,
    hsa ▸ accs.settlementAuthority.signer_ok hsig, hst, hsnd, hnodup, hpp.symm, hcr,
    m₂.append m₃, hpays, by simp [Tx.setRoom, hm, hd, Tx.start, hpp]⟩

/-- A room is cancelled by the authority, or by anyone after the delay. -/
theorem cancelRoom_eq_ok {accs : CancelRoom} (h : cancelRoom now accs s = .ok t) :
    ∃ c r, s.config = some c ∧ s.rooms.get r.roomId = some r ∧
      accs.room.key = .room r.roomId ∧ r.status ≠ .settled ∧ r.status ≠ .cancelled ∧
      (accs.signer.key = c.settlementAuthority ∨
        r.createdAt + permissionlessCancelDelaySeconds ≤ now) ∧
      t = ⟨{ s with rooms := s.rooms.upd r.roomId { r with status := .cancelled } }, [], []⟩ := by
  simp only [cancelRoom, bind_eq_ok, loadConfig_eq_ok, loadRoom_eq_ok, seeds_eq_ok,
    require_eq_ok, mutable_eq_ok, signer_eq_ok] at h
  obtain ⟨c, ⟨-, hc⟩, -, -, r, ⟨id, hid, hr⟩, -, -, -, hkey, -, -, -, hns, -, hnc, h⟩ := h
  obtain ⟨hrk, hr⟩ := room_of_seeds hid hr hkey
  split at h
  · next hauth => exact ⟨c, r, hc, hr, hrk, hns, hnc, .inl hauth, (Except.ok.inj h).symm⟩
  · simp only [bind_eq_ok, require_eq_ok, Except.ok.injEq] at h
    obtain ⟨-, -, -, hnow, rfl⟩ := h
    exact ⟨c, r, hc, hr, hrk, hns, hnc, .inr hnow, rfl⟩

/-- A refund gives back what the record locked. -/
theorem claimRefund_eq_ok {accs : ClaimRefund} (h : claimRefund rt accs s = .ok t) :
    ∃ r rp p l, s.rooms.get r.roomId = some r ∧ accs.room.key = .room r.roomId ∧
      s.roomPlayers.get (.room r.roomId, accs.player.key) = some rp ∧
      s.players.get accs.player.key = some p ∧ r.status = .cancelled ∧ rp.state = .locked ∧
      rp.lockedAmount ≤ r.totalLocked ∧
      Moved s.lamports (payment (.roomVault r.roomId) .pool rp.lockedAmount) l ∧
      t = ⟨{ s with
              lamports := l
              players := s.players.upd accs.player.key
                { p with
                  balance := p.balance + rp.lockedAmount
                  totalWagered := p.totalWagered - rp.lockedAmount }
              rooms := s.rooms.upd r.roomId
                { r with totalLocked := r.totalLocked - rp.lockedAmount }
              roomPlayers := s.roomPlayers.upd (.room r.roomId, accs.player.key)
                { rp with state := .refunded } },
            payment (.roomVault r.roomId) .pool rp.lockedAmount, []⟩ := by
  simp only [claimRefund, bind_eq_ok, loadConfig_eq_ok, loadRoom_eq_ok, loadRoomPlayer_eq_ok,
    loadPlayer_eq_ok, seeds_eq_ok, require_eq_ok, mutable_eq_ok, signer_eq_ok, system_eq_ok,
    add_eq_ok, sub_eq_ok] at h
  obtain ⟨c, -, -, -, r, ⟨id, hid, hr⟩, -, -, -, hkey, rp, ⟨a, b, hab, hrp⟩, -, -, -, hrpk, -, -,
    -, -, p, ⟨o, ho, hp⟩, -, -, -, hpk, -, -, -, -, -, hv, -, -, -, hpool, -, -, -, -, -, -, -, hst,
    -, hlocked, _, ⟨-, rfl⟩, _, ⟨hle, rfl⟩, h⟩ := h
  obtain ⟨hrk, hr⟩ := room_of_seeds hid hr hkey
  obtain rfl : o = accs.player.key := Pubkey.player.inj (ho.symm.trans hpk)
  obtain ⟨rfl, rfl⟩ := Pubkey.roomPlayer.inj (hab.symm.trans hrpk)
  rw [hpool, hv] at h
  obtain ⟨⟨l, hl, rfl⟩, -⟩ := transferFromVault_eq_ok h
  rw [hrk] at hrp
  exact ⟨r, rp, p, l, hr, hrk, hrp, hp, hst, hlocked, hle, hl,
    by simp [Tx.setPlayer, Tx.setRoom, Tx.setRoomPlayer, Tx.start, hrk]⟩

/-- The whole prize goes to one wallet. -/
theorem settleToWinner_eq_ok {accs : SettleToWinner} (h : settleToWinner rt now accs s = .ok t) :
    ∃ c r rp l, s.config = some c ∧ s.rooms.get r.roomId = some r ∧
      accs.room.key = .room r.roomId ∧ accs.settlementAuthority.key = c.settlementAuthority ∧
      c.settlementAuthority.CanSign ∧
      s.roomPlayers.get (.room r.roomId, accs.winner.key) = some rp ∧
      rp.player = accs.winner.key ∧ r.status = .unlocked ∧ rp.state = .locked ∧
      Moved s.lamports (payment (.roomVault r.roomId) accs.winner.key r.prizePool ++
        payment (.roomVault r.roomId) c.feeDestination r.rakeAmount) l ∧
      t = ⟨{ s with
              lamports := l
              rooms := s.rooms.upd r.roomId
                { r with
                  distributed := r.prizePool, winnersPaid := 1, status := .settled
                  settledAt := now }
              roomPlayers := s.roomPlayers.upd (.room r.roomId, accs.winner.key)
                { rp with payout := r.prizePool, state := .paid } },
            payment (.roomVault r.roomId) accs.winner.key r.prizePool ++
              payment (.roomVault r.roomId) c.feeDestination r.rakeAmount, []⟩ := by
  simp only [settleToWinner, bind_eq_ok, loadConfig_eq_ok, loadRoom_eq_ok, loadRoomPlayer_eq_ok,
    seeds_eq_ok, require_eq_ok, mutable_eq_ok, signer_eq_ok, system_eq_ok, Except.ok.injEq] at h
  obtain ⟨c, ⟨-, hc⟩, -, -, r, ⟨id, hid, hr⟩, -, -, -, hkey, -, -, -, hv, rp, ⟨a, b, hab, hrp⟩, -,
    -, -, hrpk, -, hw, -, -, -, -, -, hfd, -, hsa, -, hsig, -, -, -, hst, -, hlocked,
      t₁, h₁, t₂, h₂,
    rfl⟩ := h
  obtain ⟨hrk, hr⟩ := room_of_seeds hid hr hkey
  obtain ⟨rfl, rfl⟩ := Pubkey.roomPlayer.inj (hab.symm.trans hrpk)
  rw [hv] at h₁ h₂
  rw [hfd] at h₂
  obtain ⟨⟨l₁, m₁, rfl⟩, -⟩ := transferFromVault_eq_ok h₁
  obtain ⟨⟨l₂, m₂, rfl⟩, -⟩ := transferFromVault_eq_ok h₂
  rw [hrk] at hrp
  exact ⟨c, r, rp, l₂, hc, hr, hrk, hsa, hsa ▸ accs.settlementAuthority.signer_ok hsig, hrp, hw,
    hst, hlocked, m₁.append m₂, by simp [Tx.setRoom, Tx.setRoomPlayer, Tx.start, hrk]⟩

end Ok

end SnakeArena.Program
