import SnakeArena.Program.Utils

/-!
# Program — room lifecycle (`instructions/room.rs`)

Creation, joining, escrowing entry fees by either path, and closing the joins.  `now` is the
clock sysvar.
-/

namespace SnakeArena.Program
open SnakeArena.Library

/-! ### create_room -/

/-- The accounts of `create_room`. -/
structure CreateRoom where
  config : AccountInfo
  room : AccountInfo
  roomVault : AccountInfo
  settlementAuthority : AccountInfo
  systemProgram : AccountInfo

/-- What `create_room` writes. -/
def Room.opened (roomId : RoomId) (creator : Pubkey) (entryFee maxPlayers feeBps : ℕ)
    (now : ℤ) : Room :=
  { roomId, creator, status := .open, entryFee, maxPlayers, playerCount := 0, lockedCount := 0
    totalLocked := 0, prizePool := 0, rakeAmount := 0, distributed := 0, winnersPaid := 0
    feeBps, createdAt := now, unlockedAt := 0, settledAt := 0 }

/-- The settlement authority opens a room under the config's terms of the moment, and funds the
vault to its rent floor. -/
def createRoom (rt : Runtime) (now : ℤ) (accs : CreateRoom) (roomId : RoomId)
    (entryFee maxPlayers : ℕ) (s : State) : Result Tx := do
  let config ← loadConfig s accs.config.key
  mutable accs.config
  seeds accs.config .config
  require (config.paused = false) (.arena .programPaused)
  let t ← initAccount rt (.start s) accs.settlementAuthority accs.room (.room roomId) roomSpace
  mutable accs.roomVault
  seeds accs.roomVault (.roomVault roomId)
  mutable accs.settlementAuthority
  require (accs.settlementAuthority.key = config.settlementAuthority)
    (.arena .unauthorizedSettlement)
  signer accs.settlementAuthority
  system accs.systemProgram
  require (entryFee ≥ minEntryFeeLamports) (.arena .entryFeeTooSmall)
  require (minPlayersPerRoom ≤ maxPlayers ∧ maxPlayers ≤ maxPlayersPerRoom)
    (.arena .invalidRoomCapacity)
  let t ← fundRentExemption rt t accs.settlementAuthority accs.roomVault.key
  let room := Room.opened roomId accs.settlementAuthority.key entryFee maxPlayers
    config.feeBps now
  let totalRooms ← add config.totalRooms 1
  .ok ((t.setRoom roomId room).setConfig { config with totalRooms })

/-! ### join_room -/

/-- The accounts of `join_room`. -/
structure JoinRoom where
  config : AccountInfo
  room : AccountInfo
  roomPlayer : AccountInfo
  playerAccount : AccountInfo
  player : AccountInfo
  systemProgram : AccountInfo

/-- Takes a seat that is still to be paid: the balance is checked here, and taken by
`lock_entry_fee`. -/
def joinRoom (rt : Runtime) (now : ℤ) (accs : JoinRoom) (s : State) : Result Tx := do
  let config ← loadConfig s accs.config.key
  seeds accs.config .config
  require (config.paused = false) (.arena .programPaused)
  let room ← loadRoom s accs.room.key
  mutable accs.room
  seeds accs.room (.room room.roomId)
  let t ← initAccount rt (.start s) accs.player accs.roomPlayer
    (.roomPlayer accs.room.key accs.player.key) roomPlayerSpace
  let p ← loadPlayer s accs.playerAccount.key
  mutable accs.playerAccount
  seeds accs.playerAccount (.player accs.player.key)
  require (p.owner = accs.player.key) (.arena .playerOwnerMismatch)
  mutable accs.player
  signer accs.player
  system accs.systemProgram
  require (room.status = .open) (.arena .roomNotOpen)
  require (room.playerCount < room.maxPlayers) (.arena .roomFull)
  require (p.balance ≥ room.entryFee) (.arena .insufficientBalance)
  let playerCount ← checkedIncr u16Max room.playerCount
  let roomsJoined ← checkedIncr u32Max p.roomsJoined
  let rp : RoomPlayer := ⟨accs.room.key, accs.player.key, 0, 0, now, .joined⟩
  .ok (((t.setRoomPlayer accs.room.key accs.player.key rp).setRoom room.roomId
    { room with playerCount }).setPlayer accs.player.key { p with roomsJoined })

/-! ### lock_entry_fee -/

/-- The accounts of `lock_entry_fee`. -/
structure LockEntryFee where
  config : AccountInfo
  room : AccountInfo
  roomPlayer : AccountInfo
  playerAccount : AccountInfo
  pool : AccountInfo
  roomVault : AccountInfo
  player : AccountInfo
  systemProgram : AccountInfo

/-- Moves the entry fee out of the player's spendable balance into the room's vault. -/
def lockEntryFee (rt : Runtime) (accs : LockEntryFee) (s : State) : Result Tx := do
  let config ← loadConfig s accs.config.key
  seeds accs.config .config
  require (config.paused = false) (.arena .programPaused)
  let room ← loadRoom s accs.room.key
  mutable accs.room
  seeds accs.room (.room room.roomId)
  let rp ← loadRoomPlayer s accs.roomPlayer.key
  mutable accs.roomPlayer
  seeds accs.roomPlayer (.roomPlayer accs.room.key accs.player.key)
  require (rp.room = accs.room.key) (.arena .roomPlayerMismatch)
  require (rp.player = accs.player.key) (.arena .roomPlayerOwnerMismatch)
  let p ← loadPlayer s accs.playerAccount.key
  mutable accs.playerAccount
  seeds accs.playerAccount (.player accs.player.key)
  require (p.owner = accs.player.key) (.arena .playerOwnerMismatch)
  mutable accs.pool
  seeds accs.pool .pool
  mutable accs.roomVault
  seeds accs.roomVault (.roomVault room.roomId)
  signer accs.player
  system accs.systemProgram
  let entryFee := room.entryFee
  require (room.status = .open) (.arena .roomNotOpen)
  require (rp.state = .joined) (.arena .entryFeeAlreadyLocked)
  require (p.balance ≥ entryFee) (.arena .insufficientBalance)
  let balance ← sub p.balance entryFee
  let totalWagered ← add p.totalWagered entryFee
  let totalLocked ← add room.totalLocked entryFee
  let lockedCount ← checkedIncr u16Max room.lockedCount
  let t := ((Tx.start s).setPlayer accs.player.key { p with balance, totalWagered }).setRoomPlayer
    accs.room.key accs.player.key { rp with lockedAmount := entryFee, state := .locked }
  let t := t.setRoom room.roomId { room with totalLocked, lockedCount }
  transferFromVault rt t accs.pool.key accs.roomVault.key entryFee

/-! ### start_room -/

/-- The accounts of `start_room`. -/
structure StartRoom where
  config : AccountInfo
  room : AccountInfo
  settlementAuthority : AccountInfo

/-- Closes joining. -/
def startRoom (accs : StartRoom) (s : State) : Result Tx := do
  let config ← loadConfig s accs.config.key
  seeds accs.config .config
  let room ← loadRoom s accs.room.key
  mutable accs.room
  seeds accs.room (.room room.roomId)
  require (accs.settlementAuthority.key = config.settlementAuthority)
    (.arena .unauthorizedSettlement)
  signer accs.settlementAuthority
  require (room.status = .open) (.arena .roomNotOpen)
  require (room.lockedCount = room.playerCount) (.arena .entryFeesNotLocked)
  require (room.lockedCount ≥ minPlayersPerRoom) (.arena .invalidRoomCapacity)
  .ok ((Tx.start s).setRoom room.roomId { room with status := .inProgress })

/-! ### enter_room -/

/-- The accounts of `enter_room`, which needs no player account. -/
structure EnterRoom where
  config : AccountInfo
  room : AccountInfo
  roomPlayer : AccountInfo
  roomVault : AccountInfo
  player : AccountInfo
  systemProgram : AccountInfo

/-- Takes a seat and escrows the entry fee in one player-signed transaction. -/
def enterRoom (rt : Runtime) (now : ℤ) (accs : EnterRoom) (s : State) : Result Tx := do
  let config ← loadConfig s accs.config.key
  seeds accs.config .config
  require (config.paused = false) (.arena .programPaused)
  let room ← loadRoom s accs.room.key
  mutable accs.room
  seeds accs.room (.room room.roomId)
  let t ← initAccount rt (.start s) accs.player accs.roomPlayer
    (.roomPlayer accs.room.key accs.player.key) roomPlayerSpace
  mutable accs.roomVault
  seeds accs.roomVault (.roomVault room.roomId)
  mutable accs.player
  signer accs.player
  system accs.systemProgram
  let entryFee := room.entryFee
  require (room.status = .open) (.arena .roomNotOpen)
  require (room.playerCount < room.maxPlayers) (.arena .roomFull)
  let t ← transferToVault t accs.player accs.roomVault.key entryFee
  let rp : RoomPlayer := ⟨accs.room.key, accs.player.key, entryFee, 0, now, .locked⟩
  let playerCount ← checkedIncr u16Max room.playerCount
  let lockedCount ← checkedIncr u16Max room.lockedCount
  let totalLocked ← add room.totalLocked entryFee
  .ok ((t.setRoomPlayer accs.room.key accs.player.key rp).setRoom room.roomId
    { room with playerCount, lockedCount, totalLocked })

/-! ### What each does when it succeeds -/

section Ok
variable {rt : Runtime} {now : ℤ} {s : State} {t : Tx}

/-- The room of an instruction is the one its address names. -/
theorem room_of_seeds {info : AccountInfo} {room : Room} {id : RoomId} (h : info.key = .room id)
    (hr : s.rooms.get id = some room) (hk : info.key = .room room.roomId) :
    info.key = .room room.roomId ∧ s.rooms.get room.roomId = some room := by
  obtain rfl : id = room.roomId := Pubkey.room.inj (h.symm.trans hk)
  exact ⟨hk, hr⟩

/-- A room is created where there is none, with the caps checked, and its vault has its floor. -/
theorem createRoom_eq_ok {accs : CreateRoom} {id : RoomId} {fee max : ℕ}
    (h : createRoom rt now accs id fee max s = .ok t) :
    ∃ c n a l, s.config = some c ∧ c.paused = false ∧ s.rooms.get id = none ∧
      accs.settlementAuthority.key = c.settlementAuthority ∧ c.settlementAuthority.CanSign ∧
      minEntryFeeLamports ≤ fee ∧ minPlayersPerRoom ≤ max ∧ max ≤ maxPlayersPerRoom ∧
      Moved s.lamports ([⟨c.settlementAuthority, .room id, n⟩] ++
        payment c.settlementAuthority (.roomVault id) a) l ∧
      rt.minimumBalance 0 ≤ l (.roomVault id) ∧
      t = ⟨{ s with
              lamports := l
              config := some { c with totalRooms := c.totalRooms + 1 }
              rooms := s.rooms.upd id
                (.opened id c.settlementAuthority fee max c.feeBps now) },
            [⟨c.settlementAuthority, .room id, n⟩] ++
              payment c.settlementAuthority (.roomVault id) a, []⟩ := by
  simp only [createRoom, bind_eq_ok, loadConfig_eq_ok, seeds_eq_ok, require_eq_ok,
    mutable_eq_ok, signer_eq_ok, system_eq_ok, add_eq_ok, Except.ok.injEq] at h
  obtain ⟨c, ⟨-, hc⟩, -, -, -, -, -, hpaused, t₁, h₁, -, -, -, hv, -, -, -, hsa, -, hsig, -, -, -,
    hfee, -, hmax, t₂, h₂, _, ⟨-, rfl⟩, rfl⟩ := h
  have hcan : c.settlementAuthority.CanSign := hsa ▸ accs.settlementAuthority.signer_ok hsig
  rw [hv] at h₂
  -- the authority pays twice: for the room's account, and for the vault's floor
  obtain ⟨-, hnone, l₁, m₁, rfl⟩ := initAccount_eq_ok h₁
  obtain ⟨l₂, m₂, rfl⟩ := fundRentExemption_eq_ok h₂
  rw [hsa] at m₁ m₂
  refine ⟨c, _, _, l₂, hc, hpaused, by simpa [Tx.start, State.account] using hnone, hsa, hcan,
    hfee, hmax.1, hmax.2, m₁.append m₂, ?_, by simp [Tx.setConfig, Tx.setRoom, Tx.start, hsa]⟩
  -- the vault had what it had, and the payment is what was missing to the floor
  have e := m₂.balance (.roomVault id)
  have hne : c.settlementAuthority ≠ .roomVault id := fun e => by rw [e] at hcan; exact hcan
  simp only [inflow_payment, outflow_payment, hne, ↓reduceIte] at e
  omega

/-- A join adds an entry record with nothing locked, and counts the player. -/
theorem joinRoom_eq_ok {accs : JoinRoom} (h : joinRoom rt now accs s = .ok t) :
    ∃ c r p n l, s.config = some c ∧ c.paused = false ∧ s.rooms.get r.roomId = some r ∧
      accs.room.key = .room r.roomId ∧ accs.player.key.CanSign ∧
      s.roomPlayers.get (.room r.roomId, accs.player.key) = none ∧
      s.players.get accs.player.key = some p ∧ r.status = .open ∧
      r.playerCount < r.maxPlayers ∧
      Moved s.lamports [⟨accs.player.key, .roomPlayer (.room r.roomId) accs.player.key, n⟩] l ∧
      t = ⟨{ s with
              lamports := l
              players := s.players.upd accs.player.key { p with roomsJoined := p.roomsJoined + 1 }
              rooms := s.rooms.upd r.roomId { r with playerCount := r.playerCount + 1 }
              roomPlayers := s.roomPlayers.upd (.room r.roomId, accs.player.key)
                ⟨.room r.roomId, accs.player.key, 0, 0, now, .joined⟩ },
            [⟨accs.player.key, .roomPlayer (.room r.roomId) accs.player.key, n⟩], []⟩ := by
  simp only [joinRoom, bind_eq_ok, loadConfig_eq_ok, loadRoom_eq_ok, loadPlayer_eq_ok,
    seeds_eq_ok, require_eq_ok, mutable_eq_ok, signer_eq_ok, system_eq_ok, checkedIncr_eq_ok,
    Except.ok.injEq] at h
  obtain ⟨c, ⟨-, hc⟩, -, -, -, hpaused, r, ⟨id, hid, hr⟩, -, -, -, hkey, t₁, h₁, p,
    ⟨o, ho, hp⟩, -, -, -, hpk, -, -, -, -, -, hsig, -, -, -, hopen, -, hfull, -, -, _, ⟨-, rfl⟩, _,
    ⟨-, rfl⟩, rfl⟩ := h
  obtain ⟨hrk, hr⟩ := room_of_seeds hid hr hkey
  obtain rfl : o = accs.player.key := Pubkey.player.inj (ho.symm.trans hpk)
  rw [hrk] at h₁
  -- the entry record did not exist: a second join fails here
  obtain ⟨-, hnone, l, hl, rfl⟩ := initAccount_eq_ok h₁
  exact ⟨c, r, p, _, l, hc, hpaused, hr, hrk, accs.player.signer_ok hsig,
    by simpa [Tx.start, State.account] using hnone, hp, hopen, hfull, hl,
    by simp [Tx.setPlayer, Tx.setRoom, Tx.setRoomPlayer, Tx.start, hrk]⟩

/-- The fee moves from the pool to the vault, and the same amount from the balance to the room. -/
theorem lockEntryFee_eq_ok {accs : LockEntryFee} (h : lockEntryFee rt accs s = .ok t) :
    ∃ c r rp p l, s.config = some c ∧ c.paused = false ∧ s.rooms.get r.roomId = some r ∧
      accs.room.key = .room r.roomId ∧ accs.player.key.CanSign ∧
      s.roomPlayers.get (.room r.roomId, accs.player.key) = some rp ∧
      s.players.get accs.player.key = some p ∧ r.status = .open ∧ rp.state = .joined ∧
      r.entryFee ≤ p.balance ∧ r.totalLocked + r.entryFee ≤ u64Max ∧
      Moved s.lamports (payment .pool (.roomVault r.roomId) r.entryFee) l ∧
      t = ⟨{ s with
              lamports := l
              players := s.players.upd accs.player.key
                { p with
                  balance := p.balance - r.entryFee
                  totalWagered := p.totalWagered + r.entryFee }
              rooms := s.rooms.upd r.roomId
                { r with
                  totalLocked := r.totalLocked + r.entryFee
                  lockedCount := r.lockedCount + 1 }
              roomPlayers := s.roomPlayers.upd (.room r.roomId, accs.player.key)
                { rp with lockedAmount := r.entryFee, state := .locked } },
            payment .pool (.roomVault r.roomId) r.entryFee, []⟩ := by
  simp only [lockEntryFee, bind_eq_ok, loadConfig_eq_ok, loadRoom_eq_ok, loadRoomPlayer_eq_ok,
    loadPlayer_eq_ok, seeds_eq_ok, require_eq_ok, mutable_eq_ok, signer_eq_ok, system_eq_ok,
    checkedIncr_eq_ok, add_eq_ok, sub_eq_ok] at h
  obtain ⟨c, ⟨-, hc⟩, -, -, -, hpaused, r, ⟨id, hid, hr⟩, -, -, -, hkey, h⟩ := h
  obtain ⟨rp, ⟨a, b, hab, hrp⟩, -, -, -, hrpk, -, -, -, -, h⟩ := h
  obtain ⟨p, ⟨o, ho, hp⟩, -, -, -, hpk, -, -, -, -, -, hpool, -, -, -, hv, -, hsig, h⟩ := h
  obtain ⟨-, -, -, hopen, -, hjoined, -, hbal, h⟩ := h
  obtain ⟨_, ⟨-, rfl⟩, _, ⟨-, rfl⟩, _, ⟨hov, rfl⟩, _, ⟨-, rfl⟩, h⟩ := h
  obtain ⟨hrk, hr⟩ := room_of_seeds hid hr hkey
  obtain rfl : o = accs.player.key := Pubkey.player.inj (ho.symm.trans hpk)
  -- the record is the one the seeds name, so it is this room's and this player's
  obtain ⟨rfl, rfl⟩ := Pubkey.roomPlayer.inj (hab.symm.trans hrpk)
  rw [hpool, hv] at h
  obtain ⟨⟨l, hl, rfl⟩, -⟩ := transferFromVault_eq_ok h
  rw [hrk] at hrp
  exact ⟨c, r, rp, p, l, hc, hpaused, hr, hrk, accs.player.signer_ok hsig, hrp, hp, hopen,
    hjoined, hbal, hov, hl, by simp [Tx.setPlayer, Tx.setRoom, Tx.setRoomPlayer, Tx.start, hrk]⟩

/-- A room starts with every player paid, and enough of them. -/
theorem startRoom_eq_ok {accs : StartRoom} (h : startRoom accs s = .ok t) :
    ∃ c r, s.config = some c ∧ s.rooms.get r.roomId = some r ∧
      accs.room.key = .room r.roomId ∧ accs.settlementAuthority.key = c.settlementAuthority ∧
      c.settlementAuthority.CanSign ∧ r.status = .open ∧ r.lockedCount = r.playerCount ∧
      minPlayersPerRoom ≤ r.lockedCount ∧
      t = ⟨{ s with rooms := s.rooms.upd r.roomId { r with status := .inProgress } }, [], []⟩ := by
  simp only [startRoom, bind_eq_ok, loadConfig_eq_ok, loadRoom_eq_ok, seeds_eq_ok,
    require_eq_ok, mutable_eq_ok, signer_eq_ok, Except.ok.injEq] at h
  obtain ⟨c, ⟨-, hc⟩, -, -, r, ⟨id, hid, hr⟩, -, -, -, hkey, -, hsa, -, hsig, -, hopen, -, hcnt, -,
    hmin, rfl⟩ := h
  obtain ⟨hrk, hr⟩ := room_of_seeds hid hr hkey
  exact ⟨c, r, hc, hr, hrk, hsa, hsa ▸ accs.settlementAuthority.signer_ok hsig, hopen, hcnt,
    hmin, rfl⟩

/-- A seat and its stake at once: the fee comes from the player's own wallet, not the pool. -/
theorem enterRoom_eq_ok {accs : EnterRoom} (h : enterRoom rt now accs s = .ok t) :
    ∃ c r n l, s.config = some c ∧ c.paused = false ∧ s.rooms.get r.roomId = some r ∧
      accs.room.key = .room r.roomId ∧ accs.player.key.CanSign ∧
      s.roomPlayers.get (.room r.roomId, accs.player.key) = none ∧ r.status = .open ∧
      r.playerCount < r.maxPlayers ∧ r.totalLocked + r.entryFee ≤ u64Max ∧
      Moved s.lamports [⟨accs.player.key, .roomPlayer (.room r.roomId) accs.player.key, n⟩,
        ⟨accs.player.key, .roomVault r.roomId, r.entryFee⟩] l ∧
      t = ⟨{ s with
              lamports := l
              rooms := s.rooms.upd r.roomId
                { r with
                  playerCount := r.playerCount + 1
                  lockedCount := r.lockedCount + 1
                  totalLocked := r.totalLocked + r.entryFee }
              roomPlayers := s.roomPlayers.upd (.room r.roomId, accs.player.key)
                ⟨.room r.roomId, accs.player.key, r.entryFee, 0, now, .locked⟩ },
            [⟨accs.player.key, .roomPlayer (.room r.roomId) accs.player.key, n⟩,
              ⟨accs.player.key, .roomVault r.roomId, r.entryFee⟩], []⟩ := by
  simp only [enterRoom, bind_eq_ok, loadConfig_eq_ok, loadRoom_eq_ok, seeds_eq_ok,
    require_eq_ok, mutable_eq_ok, signer_eq_ok, system_eq_ok, checkedIncr_eq_ok, add_eq_ok,
    Except.ok.injEq] at h
  obtain ⟨c, ⟨-, hc⟩, -, -, -, hpaused, r, ⟨id, hid, hr⟩, -, -, -, hkey, t₁, h₁, -, -, -, hv, -, -,
    -, hsig, -, -, -, hopen, -, hfull, t₂, h₂, _, ⟨-, rfl⟩, _, ⟨-, rfl⟩, _, ⟨hov, rfl⟩, rfl⟩ := h
  obtain ⟨hrk, hr⟩ := room_of_seeds hid hr hkey
  rw [hrk] at h₁
  -- two payments by the player: the record's rent, and the stake
  rw [hv] at h₂
  obtain ⟨-, hnone, l₁, m₁, rfl⟩ := initAccount_eq_ok h₁
  obtain ⟨l₂, m₂, rfl⟩ := transfer_eq_ok h₂
  exact ⟨c, r, _, l₂, hc, hpaused, hr, hrk, accs.player.signer_ok hsig,
    by simpa [Tx.start, State.account] using hnone, hopen, hfull, hov, m₁.append m₂,
    by simp [Tx.setRoom, Tx.setRoomPlayer, Tx.start, hrk]⟩

end Ok

end SnakeArena.Program
