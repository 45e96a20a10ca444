import SnakeArena.Worker.Entrants
import SnakeArena.Realtime.Room
import SnakeArena.Program.Calls

/-!
# Worker — which reports are accepted

Two questions about the check of a game without recorded participants, which is every game the
worker creates: whether an honest report passes, and whether a report that leaves a paid player
out is refused.

Both have the same answer: the check asks the chain about the reported players and about nobody
else.
-/

namespace SnakeArena.Worker
open SnakeArena.Library SnakeArena.Db SnakeArena.Program

/-! ### Games the worker creates -/

/-- `${tierId}:${windowStart}`. -/
def cycleId (tierId : String) (windowStart : ℕ) : String := s!"{tierId}:{windowStart}"

/-- The row of `create-game`: the node id is the cycle's, until placement assigns one. -/
def createGame (tierId : String) (windowStart rakeBps : ℕ) : Game :=
  .created (cycleId tierId windowStart) rakeBps

/-- The row of `bindGame`: the node id marks where the game came from. -/
def bindGame (tierId : String) (now rakeBps : ℕ) : Game :=
  .created s!"ensure:{tierId}:{now}" rakeBps

/-- A row of the worker, whatever was written to it later: no stage writes its node or its
participants. -/
inductive Created : Game → Prop where
  | createGame (tierId : String) (windowStart rakeBps : ℕ) :
      Created (createGame tierId windowStart rakeBps)
  | bindGame (tierId : String) (now rakeBps : ℕ) : Created (bindGame tierId now rakeBps)
  | written {game : Game} (h : Created game) (status : GameStatus) (playerCount : ℕ)
      (pot rake payout : ℤ) (settlement : SettlementStatus) (attempts : ℕ)
      (signature error : Option String) :
      Created ⟨status, game.nodeId, playerCount, pot, rake, payout, settlement, attempts, signature,
        error, game.rakeBps, game.gamePlayers⟩

theorem Created.gamePlayers {game : Game} (h : Created game) : game.gamePlayers = [] := by
  induction h with
  | createGame => rfl
  | bindGame => rfl
  | written _ _ _ _ _ _ _ _ _ _ ih => exact ih

/-! ### An honest match -/

section Honest
variable {chain : Chain} {wallets : List Wallet} {gameId : ℕ} {game : Game} {room : Realtime.Room}

/-- **An honest report is accepted exactly when** settlement finds an entry on chain for every
player of the match. -/
theorem honest_match_accepted {nodeId : String} {now : ℕ} {report : MatchResultReport}
    (hgame : Created game) (hroom : room.gameId = some gameId)
    (hreport : room.report nodeId now = some report) :
    (adoptAndVerify chain wallets gameId game report).ok = true ↔
      ∀ playerId ∈ room.entrants, EntryFound chain wallets gameId report playerId := by
  obtain ⟨hne, gameId', hgameId, rfl⟩ := Realtime.Room.report_some hreport
  obtain rfl := Option.some.inj (hroom.symm.trans hgameId)
  rw [adoptAndVerify_ok hgame.gamePlayers]
  constructor
  · rintro ⟨-, -, hfound⟩ playerId hp
    exact hfound playerId (Realtime.Room.buildResult_names.mpr hp)
  · intro h
    exact ⟨rfl, Realtime.Room.buildResult_wellFormed hne nodeId now gameId,
      fun playerId hp => h playerId (Realtime.Room.buildResult_names.mp hp)⟩

end Honest

/-- Two players sat down, and the second died. -/
def duel (gameId : ℕ) : Realtime.Room :=
  (((Realtime.Room.new "duel" (some gameId)).addPlayer 1).addPlayer 2).die 2 0
  |> fun room => { room with snakes := room.snakes.del 2 }

def wallet (userId : ℕ) (address : Pubkey) : Wallet := ⟨userId, address, true, some 0, 0⟩

/-- A paid match, entered on chain by the wallets of its players. -/
theorem honest_match_accepted_paid :
    (adoptAndVerify ⟨fun _ => .ofByte 7, fun a => a = .roomPlayer (.room (.ofByte 7)) (.key 4) ∨
        a = .roomPlayer (.room (.ofByte 7)) (.key 5)⟩ [wallet 1 (.key 4), wallet 2 (.key 5)] 7
      (bindGame "bronze" 0 500) ((duel 7).buildResult "node-1" 0 7)).ok = true := by
  have hreport : (duel 7).report "node-1" 0 = some ((duel 7).buildResult "node-1" 0 7) := rfl
  refine (honest_match_accepted (.bindGame "bronze" 0 500) rfl hreport).mpr ?_
  intro playerId hp
  rcases List.mem_pair.mp (show playerId ∈ [1, 2] from hp) with rfl | rfl
  · exact ⟨.key 4, by decide, by decide⟩
  · exact ⟨.key 5, by decide, by decide⟩

/-- A free match has no room on chain, and its honest report is refused. -/
theorem honest_match_accepted_free : ¬ ∀ (chain : Chain) (wallets : List Wallet) (gameId : ℕ)
    (game : Game) (room : Realtime.Room) (nodeId : String) (now : ℕ) (report : MatchResultReport)
    (free : Bool) (session : ℕ → Pubkey),
    Created game → room.gameId = some gameId → room.report nodeId now = some report →
    (free = false → ∀ playerId ∈ room.entrants, wallet playerId (session playerId) ∈ wallets ∧
      chain.accountExists (chain.roomPlayerAddress gameId (session playerId)) = true) →
    (adoptAndVerify chain wallets gameId game report).ok = true := by
  intro hclaim
  have h := hclaim ⟨fun _ => .ofByte 7, fun _ => false⟩ [wallet 1 (.key 4), wallet 2 (.key 5)] 7
    (createGame "practice" 0 0) (duel 7) "node-1" 0 _ true .key (.createGame _ _ _) rfl rfl nofun
  exact absurd h (by decide +kernel)

/-! ### A paid player left out -/

/-- The chain as the state of the program has it: an account exists when the program wrote it
or it holds lamports. -/
def Chain.ofState (roomIdFromUuid : ℕ → RoomId) (s : State) : Chain :=
  ⟨roomIdFromUuid, fun a => (s.account a).isSome || 0 < s.lamports a⟩

/-- A wallet of the player has a locked entry in the room of the game. -/
def Paid (roomIdFromUuid : ℕ → RoomId) (s : State) (wallets : List Wallet)
    (gameId playerId : ℕ) : Prop :=
  ∃ w ∈ wallets, w.userId = playerId ∧
    ∃ rp, s.roomPlayers.get (.room (roomIdFromUuid gameId), w.address) = some rp ∧
      rp.state = .locked

section LeftOut
variable {roomIdFromUuid : ℕ → RoomId} {s : State} {wallets : List Wallet} {gameId : ℕ}
  {game : Game} {report : MatchResultReport}

/-- **Who paid is in the standings of an accepted report exactly when** every report that leaves
a paid player out has another fault: it is of another game, it is malformed, or it names a
player whose entry is not found. -/
theorem paid_players_ranked (hplayers : game.gamePlayers = []) :
    ((adoptAndVerify (.ofState roomIdFromUuid s) wallets gameId game report).ok = true →
      ∀ playerId, Paid roomIdFromUuid s wallets gameId playerId → report.Names playerId) ↔
    ∀ playerId, Paid roomIdFromUuid s wallets gameId playerId → ¬ report.Names playerId →
      report.gameId ≠ gameId ∨ ¬ report.WellFormed ∨
        ∃ other, report.Names other ∧
          ¬ EntryFound (.ofState roomIdFromUuid s) wallets gameId report other := by
  rw [adoptAndVerify_ok hplayers]
  constructor
  · intro h playerId hpaid hout
    by_contra hfault
    push Not at hfault
    obtain ⟨hgame, hwf, hfound⟩ := hfault
    exact hout (h ⟨hgame, hwf, hfound⟩ playerId hpaid)
  · rintro h ⟨hgame, hwf, hfound⟩ playerId hpaid
    by_contra hout
    rcases h playerId hpaid hout with h | h | ⟨other, hother, h⟩
    · exact h hgame
    · exact h hwf
    · exact h (hfound other hother)

end LeftOut

/-- A standing of the report. -/
def standing (playerId place : ℕ) : ReportedStanding := ⟨playerId, placeAt place, 0, 0, 0⟩

def wallets : List Wallet := [wallet 1 (.key 4), wallet 2 (.key 5)]

/-- Wallets 4 and 5 enter a room. -/
def twoEnter : List (ℤ × Instruction) :=
  [(0, Call.initializeProgram (.key 1) (.key 2) (.key 3) 500 50),
    (1, Call.createRoom (.key 2) (.ofByte 7) 1000000 4), (2, Call.enterRoom (.key 4) (.ofByte 7)),
    (3, Call.enterRoom (.key 5) (.ofByte 7))]

/-- Player 2 has a locked entry. -/
def secondLocked (s : State) : Bool :=
  (s.roomPlayers.get (.room (.ofByte 7), .key 5)).any fun rp => decide (rp.state = .locked)

theorem paid_of_secondLocked {s : State} (h : secondLocked s = true) :
    Paid (fun _ => .ofByte 7) s wallets 7 2 := by
  obtain ⟨rp, hrp, hst⟩ := (Option.any_eq_true _ _).mp h
  exact ⟨wallet 2 (.key 5), by simp [wallets], rfl, rp, hrp, of_decide_eq_true hst⟩

/-- A report of player 1 alone, and in it a player who did not enter: it is refused. -/
theorem paid_players_ranked_unknown : ∃ s, execAll .validator .funded twoEnter = .ok s ∧
    ((adoptAndVerify (.ofState (fun _ => .ofByte 7) s) wallets 7 (bindGame "bronze" 0 500)
        ⟨7, "r", "node-1", [standing 1 0, standing 3 1], 0⟩).ok = true →
      ∀ playerId, Paid (fun _ => .ofByte 7) s wallets 7 playerId →
        MatchResultReport.Names ⟨7, "r", "node-1", [standing 1 0, standing 3 1], 0⟩ playerId) := by
  have run : (execAll .validator .funded twoEnter).passes (fun _ => true) = true := by
    decide
  obtain ⟨s, hs, -⟩ := Result.passes_iff.mp run
  refine ⟨s, hs, (paid_players_ranked rfl).mpr fun _ _ _ => .inr (.inr ⟨3, ?_, ?_⟩)⟩
  · exact ⟨standing 3 1, by simp, rfl⟩
  · rintro ⟨address, h, -⟩
    obtain ⟨w, hw, hu, -⟩ := resolveWallets_some h
    rcases List.mem_pair.mp hw with rfl | rfl <;> cases hu

/-- Both paid, and the report names one of them. -/
theorem paid_players_ranked_omitted : ¬ ∀ (rt : Runtime) (s : State) (roomIdFromUuid : ℕ → RoomId)
    (wallets : List Wallet) (gameId : ℕ) (game : Game) (report : MatchResultReport), Reached rt s →
    game.gamePlayers = [] →
    (adoptAndVerify (.ofState roomIdFromUuid s) wallets gameId game report).ok = true →
    ∀ playerId, Paid roomIdFromUuid s wallets gameId playerId → report.Names playerId := by
  intro hclaim
  let report : MatchResultReport := ⟨7, "r", "node-1", [standing 1 0], 0⟩
  have run : (execAll .validator .funded twoEnter).passes (fun s =>
      (adoptAndVerify (.ofState (fun _ => .ofByte 7) s) wallets 7 (bindGame "bronze" 0 500)
        report).ok && secondLocked s) = true := by
    decide +kernel
  obtain ⟨s, hs, htest⟩ := Result.passes_iff.mp run
  rw [Bool.and_eq_true] at htest
  obtain ⟨row, hrow, hid⟩ := hclaim _ s _ _ 7 (bindGame "bronze" 0 500) report
    (reached_of_execAll hs)
    rfl htest.1 2 (paid_of_secondLocked htest.2)
  obtain rfl := List.mem_singleton.mp hrow
  cases hid

end SnakeArena.Worker
