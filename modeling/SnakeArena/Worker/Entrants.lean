import SnakeArena.Db.Game
import SnakeArena.Worker.Verify

/-!
# Worker — who entered a game

The first part of `settleGame` (`settlement/settle.ts`): nothing writes the participants of a
game, so its entrants are adopted from the chain, and the report is checked against them.

The entrants adopted are players the report names.  A paid entrant it leaves out is not among
them, and the check has nobody to miss.
-/

namespace SnakeArena.Worker
open SnakeArena.Library SnakeArena.Db SnakeArena.Program

/-- What the worker reads on chain: how a game names its room, and whether an account exists. -/
structure Chain where
  roomIdFromUuid : ℕ → RoomId
  accountExists : Pubkey → Bool

def Chain.roomPlayerAddress (chain : Chain) (gameId : ℕ) (wallet : Pubkey) : Pubkey :=
  .roomPlayer (.room (chain.roomIdFromUuid gameId)) wallet

/-- `orderBy: [{ isPrimary: 'desc' }, { createdAt: 'asc' }]`. -/
def Wallet.before (a b : Wallet) : Prop :=
  (a.isPrimary = true ∧ b.isPrimary = false) ∨
    (a.isPrimary = b.isPrimary ∧ a.createdAt ≤ b.createdAt)

instance : DecidableRel Wallet.before := fun a b => by unfold Wallet.before; infer_instance

/-- The first write per user wins. -/
def firstByUser : List Wallet → (ℕ → Option Pubkey) → ℕ → Option Pubkey
  | [], map => map
  | wallet :: wallets, map =>
      firstByUser wallets fun userId =>
        if userId = wallet.userId ∧ (map userId).isNone then some wallet.address else map userId

/-- The wallet each user is paid to: verified, the primary one first. -/
def resolveWallets (wallets : List Wallet) (userIds : List ℕ) : ℕ → Option Pubkey :=
  firstByUser
    ((wallets.filter fun w =>
      w.userId ∈ userIds && w.verifiedAt.isSome).insertionSort Wallet.before)
    fun _ => none

/-- The reported players whose entry exists on chain. -/
def paidEntrants (chain : Chain) (wallets : List Wallet) (gameId : ℕ) (report : MatchResultReport) :
    List ℕ :=
  let reported := report.standings.map (·.playerId)
  reported.filter fun playerId =>
    match resolveWallets wallets reported playerId with
    | none => false
    | some address => chain.accountExists (chain.roomPlayerAddress gameId address)

/-- The entrants and the node the report is checked against. -/
def adoptEntrants (chain : Chain) (wallets : List Wallet) (gameId : ℕ) (game : Game)
    (report : MatchResultReport) : VerificationContext :=
  if game.gamePlayers = [] then
    let paid := paidEntrants chain wallets gameId report
    if paid ≠ [] then ⟨gameId, paid, some report.nodeId⟩
    else ⟨gameId, game.gamePlayers, some game.nodeId⟩
  else ⟨gameId, game.gamePlayers, some game.nodeId⟩

/-- Adopts the entrants and checks the report against them. -/
def adoptAndVerify (chain : Chain) (wallets : List Wallet) (gameId : ℕ) (game : Game)
    (report : MatchResultReport) : VerifiedResult :=
  verifyResult report (adoptEntrants chain wallets gameId game report)

/-! ### The wallet of a user -/

theorem firstByUser_eq {wallets : List Wallet} : ∀ {map : ℕ → Option Pubkey} {userId : ℕ},
    firstByUser wallets map userId = (map userId).or
      ((wallets.find? (·.userId = userId)).map (·.address)) := by
  induction wallets with
  | nil => simp [firstByUser]
  | cons w ws ih =>
      intro map userId
      rw [firstByUser, ih]
      by_cases hu : w.userId = userId
      · cases map userId <;> simp [hu]
      · simp [hu, Ne.symm hu]

/-- The wallet a user is paid to is one of theirs, and verified. -/
theorem resolveWallets_some {wallets : List Wallet} {userIds : List ℕ} {userId : ℕ}
    {address : Pubkey} (h : resolveWallets wallets userIds userId = some address) :
    ∃ w ∈ wallets, w.userId = userId ∧ w.address = address ∧ w.verifiedAt.isSome = true := by
  rw [resolveWallets, firstByUser_eq, Option.none_or, Option.map_eq_some_iff] at h
  obtain ⟨w, hw, rfl⟩ := h
  have hmem := (List.perm_insertionSort _ _).mem_iff.mp (List.mem_of_find?_eq_some hw)
  simp only [List.mem_filter, Bool.and_eq_true] at hmem
  exact ⟨w, hmem.1, by simpa using List.find?_some hw, rfl, hmem.2.2⟩

/-! ### Entrants adopted from the chain -/

section Adopt
variable {chain : Chain} {wallets : List Wallet} {gameId : ℕ} {game : Game}
  {report : MatchResultReport}

/-- The wallet settlement takes for a player entered the room of the game. -/
def EntryFound (chain : Chain) (wallets : List Wallet) (gameId : ℕ) (report : MatchResultReport)
    (playerId : ℕ) : Prop :=
  ∃ address, resolveWallets wallets (report.standings.map (·.playerId)) playerId = some address ∧
    chain.accountExists (chain.roomPlayerAddress gameId address) = true

theorem mem_paidEntrants {playerId : ℕ} : playerId ∈ paidEntrants chain wallets gameId report ↔
    report.Names playerId ∧ EntryFound chain wallets gameId report playerId := by
  simp only [paidEntrants, List.mem_filter, List.mem_map, MatchResultReport.Names, EntryFound]
  refine and_congr_right fun _ => ?_
  split <;> simp_all

/-- **What passes, when the entrants are adopted**: a report of this game, well formed, that
names nobody who did not enter. -/
theorem adoptAndVerify_ok (hplayers : game.gamePlayers = []) :
    (adoptAndVerify chain wallets gameId game report).ok = true ↔
      report.gameId = gameId ∧ report.WellFormed ∧
        ∀ playerId, report.Names playerId → EntryFound chain wallets gameId report playerId := by
  rw [adoptAndVerify, verifyResult_ok]
  by_cases hpaid : paidEntrants chain wallets gameId report = []
  · -- with nobody found the first player of the report is unknown
    have hctx : adoptEntrants chain wallets gameId game report =
        ⟨gameId, [], some game.nodeId⟩ := by
      simp [adoptEntrants, hplayers, hpaid]
    rw [hctx]
    constructor
    · intro h
      obtain ⟨row, hrow⟩ := List.exists_mem_of_ne_nil _ h.wellFormed.standings
      exact nomatch h.known row.playerId ⟨row, hrow, rfl⟩
    · rintro ⟨-, hwf, hfound⟩
      obtain ⟨row, hrow⟩ := List.exists_mem_of_ne_nil _ hwf.standings
      have hmem : row.playerId ∈ paidEntrants chain wallets gameId report :=
        mem_paidEntrants.mpr ⟨⟨row, hrow, rfl⟩, hfound _ ⟨row, hrow, rfl⟩⟩
      rw [hpaid] at hmem
      exact nomatch hmem
  · have hctx : adoptEntrants chain wallets gameId game report =
        ⟨gameId, paidEntrants chain wallets gameId report, some report.nodeId⟩ := by
      simp [adoptEntrants, hplayers, hpaid]
    rw [hctx]
    constructor
    · exact fun h => ⟨h.game, h.wellFormed, fun p hp => (mem_paidEntrants.mp (h.known p hp)).2⟩
    · rintro ⟨hgame, hwf, hfound⟩
      refine ⟨hgame, ?_, hwf, fun p hp => mem_paidEntrants.mpr ⟨hp, hfound p hp⟩,
        fun p hp => (mem_paidEntrants.mp hp).1⟩
      rintro nodeId ⟨⟩ -
      rfl

end Adopt

end SnakeArena.Worker
