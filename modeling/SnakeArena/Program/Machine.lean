import SnakeArena.Library.Runs
import SnakeArena.Program.Admin
import SnakeArena.Program.Custody
import SnakeArena.Program.Settle
import SnakeArena.Program.Cleanup

/-!
# Program — the machine (`lib.rs`)

The program's nineteen instructions, executed one at a time by the runtime at some clock, and
between them anything the rest of the chain does: lamports move among accounts the program does
not derive, and may be given to those it does.

`Effect` lists what each instruction does when it succeeds; `exec_effect` derives it once, and
every invariant of the program is a case analysis on it.
-/

namespace SnakeArena.Program
open SnakeArena.Library

/-- What a transaction may call. -/
inductive Instruction where
  | initializeProgram (accs : Initialize) (settlementAuthority feeDestination : Pubkey)
      (feeBps withdrawalFeeBps : ℕ)
  | updateConfig (accs : UpdateConfig) (feeBps withdrawalFeeBps : Option ℕ)
      (settlementAuthority feeDestination : Option Pubkey) (paused : Option Bool)
  | transferAdmin (accs : TransferAdmin) (newAdmin : Pubkey)
  | acceptAdmin (accs : AcceptAdmin)
  | withdrawTreasury (accs : WithdrawTreasury) (amount : ℕ)
  | deposit (accs : Deposit) (amount : ℕ)
  | withdraw (accs : Withdraw) (amount : ℕ)
  | createRoom (accs : CreateRoom) (roomId : RoomId) (entryFee maxPlayers : ℕ)
  | joinRoom (accs : JoinRoom)
  | enterRoom (accs : EnterRoom)
  | lockEntryFee (accs : LockEntryFee)
  | startRoom (accs : StartRoom)
  | unlockPrize (accs : UnlockPrize)
  | distributeWinnings (accs : DistributeWinnings) (payouts : List ℕ)
  | settleToWinner (accs : SettleToWinner)
  | cancelRoom (accs : CancelRoom)
  | claimRefund (accs : ClaimRefund)
  | closeRoom (accs : CloseRoom)
  | closeRoomPlayer (accs : CloseRoomPlayer)

/-- The handler of an instruction. -/
def handle (rt : Runtime) (now : ℤ) (s : State) : Instruction → Result Tx
  | .initializeProgram accs sa fd fee wfee => initializeProgram rt accs sa fd fee wfee s
  | .updateConfig accs fee wfee sa fd p => updateConfig accs fee wfee sa fd p s
  | .transferAdmin accs a => transferAdmin accs a s
  | .acceptAdmin accs => acceptAdmin accs s
  | .withdrawTreasury accs n => withdrawTreasury rt accs n s
  | .deposit accs n => deposit rt accs n s
  | .withdraw accs n => withdraw rt accs n s
  | .createRoom accs id fee max => createRoom rt now accs id fee max s
  | .joinRoom accs => joinRoom rt now accs s
  | .enterRoom accs => enterRoom rt now accs s
  | .lockEntryFee accs => lockEntryFee rt accs s
  | .startRoom accs => startRoom accs s
  | .unlockPrize accs => unlockPrize now accs s
  | .distributeWinnings accs payouts => distributeWinnings rt now accs payouts s
  | .settleToWinner accs => settleToWinner rt now accs s
  | .cancelRoom accs => cancelRoom now accs s
  | .claimRefund accs => claimRefund rt accs s
  | .closeRoom accs => closeRoom rt accs s
  | .closeRoomPlayer accs => closeRoomPlayer accs s

/-- The runtime's comparison after an instruction: lamports written by the program may have
lowered only accounts the program owned. -/
def OwnerRule (s : State) (t : Tx) : Prop :=
  ∀ a ∈ t.debits, t.state.lamports a < s.lamports a → (s.account a).isSome = true

instance (s : State) (t : Tx) : Decidable (OwnerRule s t) := by
  unfold OwnerRule; infer_instance

/-- One instruction, committed or refused. -/
def exec (rt : Runtime) (now : ℤ) (s : State) (i : Instruction) : Result Tx := do
  let t ← handle rt now s i
  require (rt.ownerRule = true → OwnerRule s t) (.system .externalAccountLamportSpend)
  .ok t

/-! ### What an instruction does -/

/-- What a successful instruction does: one constructor for each handler, except that the
three writers of an existing config share one and so do the three changes of a room's status
alone. -/
inductive Effect (rt : Runtime) (now : ℤ) (s : State) : Instruction → Tx → Prop where
  | initializeProgram {accs sa fd fee wfee} {n a b l} (hnone : s.config = none)
      (hsig : accs.admin.key.CanSign) (hfee : fee ≤ maxFeeBps)
      (hwfee : wfee ≤ maxWithdrawalFeeBps)
      (hl : Moved s.lamports ([⟨accs.admin.key, .config, n⟩] ++ payment accs.admin.key .pool a ++
        payment accs.admin.key .treasury b) l)
      (hrent : rt.minimumBalance 0 ≤ l .pool) :
      Effect rt now s (.initializeProgram accs sa fd fee wfee)
        ⟨{ s with
            lamports := l
            config := some ⟨accs.admin.key, none, sa, .treasury, fd, fee, wfee, false, 0⟩ },
          [⟨accs.admin.key, .config, n⟩] ++ payment accs.admin.key .pool a ++
            payment accs.admin.key .treasury b, []⟩
  | config {i} {c c' : Config} (hc : s.config = some c) (htr : c'.treasury = c.treasury)
      (hfee : c.feeBps ≤ maxFeeBps → c'.feeBps ≤ maxFeeBps)
      (hwfee : c.withdrawalFeeBps ≤ maxWithdrawalFeeBps →
        c'.withdrawalFeeBps ≤ maxWithdrawalFeeBps)
      (hi : (∃ accs fee wfee sa fd p, i = .updateConfig accs fee wfee sa fd p) ∨
        (∃ accs a, i = .transferAdmin accs a) ∨ ∃ accs, i = .acceptAdmin accs) :
      Effect rt now s i ⟨{ s with config := some c' }, [], []⟩
  | withdrawTreasury {accs n l}
      (hl : Moved s.lamports (payment .treasury accs.destination.key n) l) :
      Effect rt now s (.withdrawTreasury accs n)
        ⟨{ s with lamports := l }, payment .treasury accs.destination.key n, []⟩
  | deposit {accs n} {c : Config} {p ms l} (hc : s.config = some c) (hpaused : c.paused = false)
      (hsig : accs.player.key.CanSign)
      (hp : s.players.get accs.player.key = some p ∨
        s.players.get accs.player.key = none ∧ p = .zeroed)
      (hms : ∀ m ∈ ms, m.source = accs.player.key ∧ m.dest = .player accs.player.key)
      (hl : Moved s.lamports (ms ++ [⟨accs.player.key, .pool, n⟩]) l) :
      Effect rt now s (.deposit accs n)
        ⟨{ s with
            lamports := l
            players := s.players.upd accs.player.key
              { p with
                owner := accs.player.key
                balance := p.balance + n
                totalDeposited := p.totalDeposited + n } },
          ms ++ [⟨accs.player.key, .pool, n⟩], []⟩
  | withdraw {accs n} {c : Config} {p fee l} (hc : s.config = some c)
      (hsig : accs.player.key.CanSign) (hp : s.players.get accs.player.key = some p)
      (hbal : n ≤ p.balance) (hfee : fee = n * c.withdrawalFeeBps / bpsDenominator)
      (hle : fee ≤ n)
      (hl : Moved s.lamports
        (payment .pool accs.player.key (n - fee) ++ payment .pool .treasury fee) l) :
      Effect rt now s (.withdraw accs n)
        ⟨{ s with
            lamports := l
            players := s.players.upd accs.player.key
              { p with balance := p.balance - n, totalWithdrawn := p.totalWithdrawn + n } },
          payment .pool accs.player.key (n - fee) ++ payment .pool .treasury fee, []⟩
  | createRoom {accs id fee max} {c : Config} {n a l} (hc : s.config = some c)
      (hpaused : c.paused = false) (hnone : s.rooms.get id = none)
      (hsa : accs.settlementAuthority.key = c.settlementAuthority)
      (hsig : c.settlementAuthority.CanSign) (hfee : minEntryFeeLamports ≤ fee)
      (hmin : minPlayersPerRoom ≤ max) (hmax : max ≤ maxPlayersPerRoom)
      (hl : Moved s.lamports ([⟨c.settlementAuthority, .room id, n⟩] ++
        payment c.settlementAuthority (.roomVault id) a) l)
      (hrent : rt.minimumBalance 0 ≤ l (.roomVault id)) :
      Effect rt now s (.createRoom accs id fee max)
        ⟨{ s with
            lamports := l
            config := some { c with totalRooms := c.totalRooms + 1 }
            rooms := s.rooms.upd id (.opened id c.settlementAuthority fee max c.feeBps now) },
          [⟨c.settlementAuthority, .room id, n⟩] ++
            payment c.settlementAuthority (.roomVault id) a, []⟩
  | joinRoom {accs} {c : Config} {r p n l} (hc : s.config = some c) (hpaused : c.paused = false)
      (hr : s.rooms.get r.roomId = some r) (hkey : accs.room.key = .room r.roomId)
      (hsig : accs.player.key.CanSign)
      (hnone : s.roomPlayers.get (.room r.roomId, accs.player.key) = none)
      (hp : s.players.get accs.player.key = some p) (hopen : r.status = .open)
      (hfull : r.playerCount < r.maxPlayers)
      (hl : Moved s.lamports
        [⟨accs.player.key, .roomPlayer (.room r.roomId) accs.player.key, n⟩] l) :
      Effect rt now s (.joinRoom accs)
        ⟨{ s with
            lamports := l
            players := s.players.upd accs.player.key { p with roomsJoined := p.roomsJoined + 1 }
            rooms := s.rooms.upd r.roomId { r with playerCount := r.playerCount + 1 }
            roomPlayers := s.roomPlayers.upd (.room r.roomId, accs.player.key)
              ⟨.room r.roomId, accs.player.key, 0, 0, now, .joined⟩ },
          [⟨accs.player.key, .roomPlayer (.room r.roomId) accs.player.key, n⟩], []⟩
  | lockEntryFee {accs} {c : Config} {r rp p l} (hc : s.config = some c)
      (hpaused : c.paused = false) (hr : s.rooms.get r.roomId = some r)
      (hkey : accs.room.key = .room r.roomId) (hsig : accs.player.key.CanSign)
      (hrp : s.roomPlayers.get (.room r.roomId, accs.player.key) = some rp)
      (hp : s.players.get accs.player.key = some p) (hopen : r.status = .open)
      (hjoined : rp.state = .joined) (hbal : r.entryFee ≤ p.balance)
      (hmax : r.totalLocked + r.entryFee ≤ u64Max)
      (hl : Moved s.lamports (payment .pool (.roomVault r.roomId) r.entryFee) l) :
      Effect rt now s (.lockEntryFee accs)
        ⟨{ s with
            lamports := l
            players := s.players.upd accs.player.key
              { p with
                balance := p.balance - r.entryFee
                totalWagered := p.totalWagered + r.entryFee }
            rooms := s.rooms.upd r.roomId
              { r with
                totalLocked := r.totalLocked + r.entryFee
                lockedCount := r.lockedCount + 1 }
            roomPlayers := s.roomPlayers.upd (.room r.roomId, accs.player.key)
              { rp with lockedAmount := r.entryFee, state := .locked } },
          payment .pool (.roomVault r.roomId) r.entryFee, []⟩
  | enterRoom {accs} {c : Config} {r n l} (hc : s.config = some c) (hpaused : c.paused = false)
      (hr : s.rooms.get r.roomId = some r) (hkey : accs.room.key = .room r.roomId)
      (hsig : accs.player.key.CanSign)
      (hnone : s.roomPlayers.get (.room r.roomId, accs.player.key) = none)
      (hopen : r.status = .open) (hfull : r.playerCount < r.maxPlayers)
      (hmax : r.totalLocked + r.entryFee ≤ u64Max)
      (hl : Moved s.lamports [⟨accs.player.key, .roomPlayer (.room r.roomId) accs.player.key, n⟩,
        ⟨accs.player.key, .roomVault r.roomId, r.entryFee⟩] l) :
      Effect rt now s (.enterRoom accs)
        ⟨{ s with
            lamports := l
            rooms := s.rooms.upd r.roomId
              { r with
                playerCount := r.playerCount + 1
                lockedCount := r.lockedCount + 1
                totalLocked := r.totalLocked + r.entryFee }
            roomPlayers := s.roomPlayers.upd (.room r.roomId, accs.player.key)
              ⟨.room r.roomId, accs.player.key, r.entryFee, 0, now, .locked⟩ },
          [⟨accs.player.key, .roomPlayer (.room r.roomId) accs.player.key, n⟩,
            ⟨accs.player.key, .roomVault r.roomId, r.entryFee⟩], []⟩
  | startRoom {accs} {c : Config} {r} (hc : s.config = some c)
      (hr : s.rooms.get r.roomId = some r) (hkey : accs.room.key = .room r.roomId)
      (hsa : accs.settlementAuthority.key = c.settlementAuthority)
      (hsig : c.settlementAuthority.CanSign) (hopen : r.status = .open)
      (hcount : r.lockedCount = r.playerCount) (hmin : minPlayersPerRoom ≤ r.lockedCount) :
      Effect rt now s (.startRoom accs)
        ⟨{ s with rooms := s.rooms.upd r.roomId { r with status := .inProgress } }, [], []⟩
  | unlockPrize {accs} {c : Config} {r rake} (hc : s.config = some c)
      (hr : s.rooms.get r.roomId = some r) (hkey : accs.room.key = .room r.roomId)
      (hsa : accs.settlementAuthority.key = c.settlementAuthority)
      (hsig : c.settlementAuthority.CanSign) (hst : r.status = .inProgress)
      (hrake : rake = r.totalLocked * r.feeBps / bpsDenominator) (hle : rake ≤ r.totalLocked) :
      Effect rt now s (.unlockPrize accs)
        ⟨{ s with
            rooms := s.rooms.upd r.roomId
              { r with
                rakeAmount := rake, prizePool := r.totalLocked - rake, status := .unlocked
                unlockedAt := now } }, [], []⟩
  | distributeWinnings {accs payouts} {c : Config} {r ws s₁ l} (hc : s.config = some c)
      (hr : s.rooms.get r.roomId = some r) (hkey : accs.room.key = .room r.roomId)
      (hsa : accs.settlementAuthority.key = c.settlementAuthority)
      (hsig : c.settlementAuthority.CanSign) (hst : r.status = .unlocked)
      (hsnd : ws.map Prod.snd = payouts) (hnodup : (ws.map Prod.fst).Nodup)
      (hsum : payouts.sum = r.prizePool) (hcr : Credited (.room r.roomId) s ws s₁)
      (hl : Moved s₁.lamports (payment (.roomVault r.roomId) .pool r.prizePool ++
        payment (.roomVault r.roomId) c.feeDestination r.rakeAmount) l)
      (hpays : PaysInOrder accs.remaining payouts ws) :
      Effect rt now s (.distributeWinnings accs payouts)
        ⟨{ s₁ with
            lamports := l
            rooms := s₁.rooms.upd r.roomId
              { r with
                distributed := r.prizePool, winnersPaid := payouts.length, status := .settled
                settledAt := now } },
          payment (.roomVault r.roomId) .pool r.prizePool ++
            payment (.roomVault r.roomId) c.feeDestination r.rakeAmount, []⟩
  | settleToWinner {accs} {c : Config} {r rp l} (hc : s.config = some c)
      (hr : s.rooms.get r.roomId = some r) (hkey : accs.room.key = .room r.roomId)
      (hsa : accs.settlementAuthority.key = c.settlementAuthority)
      (hsig : c.settlementAuthority.CanSign)
      (hrp : s.roomPlayers.get (.room r.roomId, accs.winner.key) = some rp)
      (hw : rp.player = accs.winner.key) (hst : r.status = .unlocked) (hlocked : rp.state = .locked)
      (hl : Moved s.lamports (payment (.roomVault r.roomId) accs.winner.key r.prizePool ++
        payment (.roomVault r.roomId) c.feeDestination r.rakeAmount) l) :
      Effect rt now s (.settleToWinner accs)
        ⟨{ s with
            lamports := l
            rooms := s.rooms.upd r.roomId
              { r with
                distributed := r.prizePool, winnersPaid := 1, status := .settled
                settledAt := now }
            roomPlayers := s.roomPlayers.upd (.room r.roomId, accs.winner.key)
              { rp with payout := r.prizePool, state := .paid } },
          payment (.roomVault r.roomId) accs.winner.key r.prizePool ++
            payment (.roomVault r.roomId) c.feeDestination r.rakeAmount, []⟩
  | cancelRoom {accs} {c : Config} {r} (hc : s.config = some c)
      (hr : s.rooms.get r.roomId = some r) (hkey : accs.room.key = .room r.roomId)
      (hns : r.status ≠ .settled) (hnc : r.status ≠ .cancelled)
      (hwho : accs.signer.key = c.settlementAuthority ∨
        r.createdAt + permissionlessCancelDelaySeconds ≤ now) :
      Effect rt now s (.cancelRoom accs)
        ⟨{ s with rooms := s.rooms.upd r.roomId { r with status := .cancelled } }, [], []⟩
  | claimRefund {accs} {r rp p l} (hr : s.rooms.get r.roomId = some r)
      (hkey : accs.room.key = .room r.roomId)
      (hrp : s.roomPlayers.get (.room r.roomId, accs.player.key) = some rp)
      (hp : s.players.get accs.player.key = some p) (hst : r.status = .cancelled)
      (hlocked : rp.state = .locked) (hle : rp.lockedAmount ≤ r.totalLocked)
      (hl : Moved s.lamports (payment (.roomVault r.roomId) .pool rp.lockedAmount) l) :
      Effect rt now s (.claimRefund accs)
        ⟨{ s with
            lamports := l
            players := s.players.upd accs.player.key
              { p with
                balance := p.balance + rp.lockedAmount
                totalWagered := p.totalWagered - rp.lockedAmount }
            rooms := s.rooms.upd r.roomId
              { r with totalLocked := r.totalLocked - rp.lockedAmount }
            roomPlayers := s.roomPlayers.upd (.room r.roomId, accs.player.key)
              { rp with state := .refunded } },
          payment (.roomVault r.roomId) .pool rp.lockedAmount, []⟩
  | closeRoom {accs} {c : Config} {r n l} (hc : s.config = some c)
      (hr : s.rooms.get r.roomId = some r) (hkey : accs.room.key = .room r.roomId)
      (hfin : r.status = .settled ∨ r.status = .cancelled)
      (hfloor : s.lamports (.roomVault r.roomId) ≤ rt.minimumBalance 0)
      (hl : Moved s.lamports
        [⟨.roomVault r.roomId, c.settlementAuthority, s.lamports (.roomVault r.roomId)⟩,
          ⟨.room r.roomId, c.settlementAuthority, n⟩] l) :
      Effect rt now s (.closeRoom accs)
        ⟨{ s with lamports := l, rooms := s.rooms.del r.roomId },
          [⟨.roomVault r.roomId, c.settlementAuthority, s.lamports (.roomVault r.roomId)⟩,
            ⟨.room r.roomId, c.settlementAuthority, n⟩],
          [.roomVault r.roomId, .room r.roomId]⟩
  | closeRoomPlayer {accs} {r rp n l} (hr : s.rooms.get r.roomId = some r)
      (hkey : accs.room.key = .room r.roomId)
      (hrp : s.roomPlayers.get (.room r.roomId, accs.player.key) = some rp)
      (hpl : rp.player = accs.player.key) (hst : rp.state = .paid ∨ rp.state = .refunded)
      (hfin : r.status = .settled ∨ r.status = .cancelled)
      (hl : Moved s.lamports
        [⟨.roomPlayer (.room r.roomId) accs.player.key, accs.player.key, n⟩] l) :
      Effect rt now s (.closeRoomPlayer accs)
        ⟨{ s with
            lamports := l
            roomPlayers := s.roomPlayers.del (.room r.roomId, accs.player.key) },
          [⟨.roomPlayer (.room r.roomId) accs.player.key, accs.player.key, n⟩],
          [.roomPlayer (.room r.roomId) accs.player.key]⟩

/-- **What an instruction does is one of the cases**, with what was checked. -/
theorem handle_effect {rt : Runtime} {now : ℤ} {s : State} {i : Instruction} {t : Tx}
    (h : handle rt now s i = .ok t) : Effect rt now s i t := by
  cases i with
  | initializeProgram accs sa fd fee wfee =>
      obtain ⟨n, a, b, l, h₁, h₂, h₃, h₄, h₅, h₆, rfl⟩ := initializeProgram_eq_ok h
      exact .initializeProgram h₁ h₂ h₃ h₄ h₅ h₆
  | updateConfig accs fee wfee sa fd p =>
      obtain ⟨c, c', h₁, h₂, -, h₄, h₅, -, -, rfl⟩ := updateConfig_eq_ok h
      exact .config h₁ h₂ h₄ h₅ (.inl ⟨_, _, _, _, _, _, rfl⟩)
  | transferAdmin accs a =>
      obtain ⟨c, h₁, rfl⟩ := transferAdmin_eq_ok h
      exact .config h₁ rfl id id (.inr (.inl ⟨_, _, rfl⟩))
  | acceptAdmin accs =>
      obtain ⟨c, h₁, rfl⟩ := acceptAdmin_eq_ok h
      exact .config h₁ rfl id id (.inr (.inr ⟨_, rfl⟩))
  | withdrawTreasury accs n =>
      obtain ⟨l, hl, rfl⟩ := withdrawTreasury_eq_ok h
      exact .withdrawTreasury hl
  | deposit accs n =>
      obtain ⟨c, p, ms, l, h₁, h₂, h₃, h₄, h₅, h₆, rfl⟩ := deposit_eq_ok h
      exact .deposit h₁ h₂ h₃ h₄ h₅ h₆
  | withdraw accs n =>
      obtain ⟨c, p, fee, l, h₁, h₂, h₃, h₄, h₅, h₆, h₇, rfl⟩ := withdraw_eq_ok h
      exact .withdraw h₁ h₂ h₃ h₄ h₅ h₆ h₇
  | createRoom accs id fee max =>
      obtain ⟨c, n, a, l, h₁, h₂, h₃, h₄, h₅, h₆, h₇, h₈, h₉, h₁₀, rfl⟩ := createRoom_eq_ok h
      exact .createRoom h₁ h₂ h₃ h₄ h₅ h₆ h₇ h₈ h₉ h₁₀
  | joinRoom accs =>
      obtain ⟨c, r, p, n, l, h₁, h₂, h₃, h₄, h₅, h₆, h₇, h₈, h₉, h₁₀, rfl⟩ := joinRoom_eq_ok h
      exact .joinRoom h₁ h₂ h₃ h₄ h₅ h₆ h₇ h₈ h₉ h₁₀
  | enterRoom accs =>
      obtain ⟨c, r, n, l, h₁, h₂, h₃, h₄, h₅, h₆, h₇, h₈, h₉, h₁₀, rfl⟩ := enterRoom_eq_ok h
      exact .enterRoom h₁ h₂ h₃ h₄ h₅ h₆ h₇ h₈ h₉ h₁₀
  | lockEntryFee accs =>
      obtain ⟨c, r, rp, p, l, h₁, h₂, h₃, h₄, h₅, h₆, h₇, h₈, h₉, h₁₀, h₁₁, h₁₂, rfl⟩ :=
        lockEntryFee_eq_ok h
      exact .lockEntryFee h₁ h₂ h₃ h₄ h₅ h₆ h₇ h₈ h₉ h₁₀ h₁₁ h₁₂
  | startRoom accs =>
      obtain ⟨c, r, h₁, h₂, h₃, h₄, h₅, h₆, h₇, h₈, rfl⟩ := startRoom_eq_ok h
      exact .startRoom h₁ h₂ h₃ h₄ h₅ h₆ h₇ h₈
  | unlockPrize accs =>
      obtain ⟨c, r, rake, h₁, h₂, h₃, h₄, h₅, h₆, h₇, h₈, rfl⟩ := unlockPrize_eq_ok h
      exact .unlockPrize h₁ h₂ h₃ h₄ h₅ h₆ h₇ h₈
  | distributeWinnings accs payouts =>
      obtain ⟨c, r, ws, s₁, l, h₁, h₂, h₃, h₄, h₅, h₆, h₇, h₈, h₉, h₁₀, h₁₁, h₁₂, rfl⟩ :=
        distributeWinnings_eq_ok h
      exact .distributeWinnings h₁ h₂ h₃ h₄ h₅ h₆ h₇ h₈ h₉ h₁₀ h₁₁ h₁₂
  | settleToWinner accs =>
      obtain ⟨c, r, rp, l, h₁, h₂, h₃, h₄, h₅, h₆, h₇, h₈, h₉, h₁₀, rfl⟩ := settleToWinner_eq_ok h
      exact .settleToWinner h₁ h₂ h₃ h₄ h₅ h₆ h₇ h₈ h₉ h₁₀
  | cancelRoom accs =>
      obtain ⟨c, r, h₁, h₂, h₃, h₄, h₅, h₆, rfl⟩ := cancelRoom_eq_ok h
      exact .cancelRoom h₁ h₂ h₃ h₄ h₅ h₆
  | claimRefund accs =>
      obtain ⟨r, rp, p, l, h₁, h₂, h₃, h₄, h₅, h₆, h₇, h₈, rfl⟩ := claimRefund_eq_ok h
      exact .claimRefund h₁ h₂ h₃ h₄ h₅ h₆ h₇ h₈
  | closeRoom accs =>
      obtain ⟨c, r, n, l, h₁, h₂, h₃, h₄, h₅, h₆, rfl⟩ := closeRoom_eq_ok h
      exact .closeRoom h₁ h₂ h₃ h₄ h₅ h₆
  | closeRoomPlayer accs =>
      obtain ⟨r, rp, n, l, h₁, h₂, h₃, h₄, h₅, h₆, h₇, rfl⟩ := closeRoomPlayer_eq_ok h
      exact .closeRoomPlayer h₁ h₂ h₃ h₄ h₅ h₆ h₇

/-- **What an instruction does**, read off its handler once. -/
theorem exec_effect {rt : Runtime} {now : ℤ} {s : State} {i : Instruction} {t : Tx}
    (h : exec rt now s i = .ok t) : Effect rt now s i t := by
  simp only [exec, bind_eq_ok, require_eq_ok, Except.ok.injEq] at h
  obtain ⟨t', h', -, -, rfl⟩ := h
  exact handle_effect h'

/-! ### The payout loop -/

section Credited
variable {room : Pubkey} {s s' : State} {ws : List (Pubkey × ℕ)}

/-- The payout loop moves no lamports. -/
theorem Credited.lamports (h : Credited room s ws s') : s'.lamports = s.lamports := by
  induction h with
  | nil => rfl
  | cons _ _ _ _ _ _ _ ih => exact ih

theorem Credited.rooms (h : Credited room s ws s') : s'.rooms = s.rooms := by
  induction h with
  | nil => rfl
  | cons _ _ _ _ _ _ _ ih => exact ih

theorem Credited.config (h : Credited room s ws s') : s'.config = s.config := by
  induction h with
  | nil => rfl
  | cons _ _ _ _ _ _ _ ih => exact ih

/-- The loop writes the accounts of its winners only. -/
theorem Credited.player_frame (h : Credited room s ws s') {o : Pubkey}
    (ho : o ∉ ws.map Prod.fst) : s'.players.get o = s.players.get o := by
  induction h with
  | nil => rfl
  | cons _ _ _ _ _ _ _ ih =>
      simp only [List.map_cons, List.mem_cons, not_or] at ho
      rw [ih ho.2, Table.get_upd_other ho.1]

/-- The records of those who are not paid stay. -/
theorem Credited.record_frame (h : Credited room s ws s') {k : Pubkey × Pubkey}
    (hk : k.1 = room → k.2 ∉ ws.map Prod.fst) : s'.roomPlayers.get k = s.roomPlayers.get k := by
  induction h with
  | nil => rfl
  | @cons _ _ w _ _ _ _ _ _ _ _ _ _ _ ih =>
      simp only [List.map_cons, List.mem_cons, not_or] at hk
      rw [ih fun e => (hk e).2, Table.get_upd_other fun e => (hk (by rw [e])).1 (by rw [e])]

/-- Every winner had a locked record of the room and a custody account; the record is now paid
with the winner's payout, and the account credited with it. -/
theorem Credited.winner (h : Credited room s ws s') (hnodup : (ws.map Prod.fst).Nodup)
    {w : Pubkey} {n : ℕ} (hw : (w, n) ∈ ws) : ∃ rp p,
      s.roomPlayers.get (room, w) = some rp ∧ rp.room = room ∧ rp.player = w ∧
      rp.state = .locked ∧
      s'.roomPlayers.get (room, w) = some { rp with payout := n, state := .paid } ∧
      s.players.get w = some p ∧
      s'.players.get w = some
        { p with balance := p.balance + n, totalWinnings := p.totalWinnings + n } := by
  induction h with
  | nil => cases hw
  | @cons s s' w₀ n₀ ws rp p hrp hroom hpl hlocked hp _ ht ih =>
      rw [List.map_cons, List.nodup_cons] at hnodup
      rcases List.mem_cons.mp hw with e | hmem
      · cases e
        refine ⟨rp, p, hrp, hroom, hpl, hlocked, ?_, hp, ?_⟩
        · rw [ht.record_frame fun _ => hnodup.1, Table.get_upd_same]
        · rw [ht.player_frame hnodup.1, Table.get_upd_same]
      · have hne : w ≠ w₀ := by
          rintro rfl
          exact hnodup.1 (List.mem_map.mpr ⟨_, hmem, rfl⟩)
        obtain ⟨rp', p', h₁, h₂, h₃, h₄, h₅, h₆, h₇⟩ := ih hnodup.2 hmem
        rw [Table.get_upd_other fun e => hne (Prod.mk.inj e).2] at h₁
        rw [Table.get_upd_other hne] at h₆
        exact ⟨rp', p', h₁, h₂, h₃, h₄, h₅, h₆, h₇⟩

end Credited

/-- An instruction changes lamports only by its moves. -/
theorem Effect.moved {rt : Runtime} {now : ℤ} {s : State} {i : Instruction} {t : Tx}
    (h : Effect rt now s i t) : Moved s.lamports t.moves t.state.lamports := by
  cases h with
  | config => exact .nil _
  | startRoom => exact .nil _
  | unlockPrize => exact .nil _
  | cancelRoom => exact .nil _
  | distributeWinnings _ _ _ _ _ _ _ _ _ hcr hl => exact hcr.lamports ▸ hl
  | _ => assumption

/-! ### Runs -/

/-- What happens between two states: an instruction executed at a clock, or a change of
lamports elsewhere. -/
inductive Event where
  | exec (now : ℤ) (i : Instruction)
  | outside

/-- One event.  An instruction that fails changes nothing and is left out.  The rest of the
chain cannot lower a derived address, and the supply fits the lamport type. -/
inductive Step (rt : Runtime) : State → Event → State → Prop where
  | exec {s : State} {now : ℤ} {i : Instruction} {t : Tx} (h : exec rt now s i = .ok t) :
      Step rt s (.exec now i) t.state
  | outside {s : State} {l : Pubkey → ℕ} (hd : ∀ a, a.Derived → s.lamports a ≤ l a)
      (hb : Bounded (u64Max + 1) l) : Step rt s .outside { s with lamports := l }

/-- A state some run from before the program's first call ends in. -/
abbrev Reached (rt : Runtime) : State → Prop := Reachable (Step rt) State.Genesis

end SnakeArena.Program
