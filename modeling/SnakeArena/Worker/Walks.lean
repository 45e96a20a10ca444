import SnakeArena.Program.Rooms
import SnakeArena.Worker.Cycle

/-!
# Worker — settlements and stages, await by await

What `settleGame` and the stages on the services await is one list: the reads, the updates of
the game's row by its id (`GameUpdate`) up to the one that finishes it, the rows written beside the
books, the escrow account, the instructions that are signed, and the ledger of a settlement.  A
property of functions that each of them keeps (`Settles`) is one of every settlement and of every
stage of the game.
-/

namespace SnakeArena.Worker
open SnakeArena.Library SnakeArena.Db SnakeArena.Program SnakeArena.Books

/-! ### The awaits -/

/-- What is written to the row of a game by its id, while it is not over. -/
inductive GameUpdate where
  /-- By `create-pool`: columns that are left out. -/
  | touched
  /-- By `create-pool`, when the room is open. -/
  | opened
  /-- By `close-lobby`. -/
  | running (playerCount : ℕ) (pot : ℤ)
  /-- The pot that settlement read from the vault. -/
  | pot (lamports : ℤ)
  /-- Settlement is about to pay. -/
  | pending
  | failed (error : String)
  /-- What settlement paid. -/
  | recorded (payoutLamports rakeLamports : ℤ)

def GameUpdate.data : GameUpdate → Game → Game
  | .touched, game => game
  | .opened, game => { game with settlementStatus := .pending, settlementError := none }
  | .running playerCount potLamports, game =>
      { game with status := .running, playerCount, potLamports }
  | .pot lamports, game => { game with potLamports := lamports }
  | .pending, game =>
      { game with settlementStatus := .pending, settlementAttempts := game.settlementAttempts + 1 }
  | .failed error, game => { game with settlementStatus := .failed, settlementError := some error }
  | .recorded payoutLamports rakeLamports, game => { game with payoutLamports, rakeLamports }

/-- The rows of a day and of all time. -/
def LeaderboardPeriod.Written : LeaderboardPeriod → Prop
  | .daily _ | .allTime => True
  | .weekly .. | .monthly .. => False

/-- A write of one of them. -/
def Saves (f : Services → Option Services) : Prop :=
  ∀ s v, f s = some v → ∃ period userId entry, LeaderboardPeriod.Written period ∧
    v = { s with leaderboard := s.leaderboard.upd (period, userId) entry }

/-- Properties of functions that the awaits for a game keep, apart from the leaderboards: `D` of
what follows its end, and `W` of the others. -/
structure Settles (rt : Runtime) (gameId : ℕ) (W D : Prog → Prop) : Prop where
  look : ∀ {op : Op} {k : Services → Reply → Prog}, (∀ s c, W (k s c)) →
    W (.await op (fun s _ => s) k)
  update : ∀ {throw k : Prog} (u : GameUpdate), W throw → W k →
    W (updateGame gameId u.data throw k)
  finish : ∀ {throw k : Prog} (paid : Bool) {signature : Option String}, D throw → D k →
    W (finishGame gameId throw (bif paid then .confirmed else .notRequired) signature k)
  standing : ∀ {throw k : Prog}, W throw → W k → W (Worker.write some throw k)
  reward : ∀ {payout : PayoutShare} {throw k : Prog}, W throw → W k →
    W (createReward gameId throw payout k)
  escrow : ∀ {throw k : Prog}, W throw → W k →
    W (Worker.write (fun s => some (s.upsertEscrow gameId)) throw k)
  send : ∀ {op : Op} {i : Instruction} {k : Except Failure String → Prog} {attempts : ℕ},
    (∀ id, ¬i.Closes id) → (∀ r, W (k r)) → W (sendSigned rt op i k attempts)
  ledger : ∀ {payouts : List (ℕ × ℤ)} {rake : ℤ} {throw k : Prog}, W throw → W k →
    W (transaction throw k (postSettlementLedger gameId payouts rake) [])

section Pieces
variable {deps : SettleDeps} {W D : Prog → Prop} {gameId : ℕ} {throw k : Prog} {β : Type}

theorem walk_forEach {xs : List β} {body : β → Prog → Prog} (hbody : ∀ x k, W k → W (body x k))
    (hk : W k) : W (forEach xs body k) := by
  induction xs with
  | nil => exact hk
  | cons x xs ih => exact hbody x _ ih

theorem walk_read {f : Services → β} {k : β → Prog}
    (hlook : ∀ {op : Op} {k : Services → Reply → Prog}, (∀ s c, W (k s c)) →
      W (.await op (fun s _ => s) k))
    (hthrow : W throw) (hk : ∀ b, W (k b)) : W (Worker.read f throw k) := by
  refine hlook fun s c => ?_
  split
  · exact hk _
  · exact hthrow

/-- The leaderboards are read and saved. -/
theorem walk_updateLeaderboard {standings : List ReportedStanding}
    (hlook : ∀ {op : Op} {k : Services → Reply → Prog}, (∀ s c, W (k s c)) →
      W (.await op (fun s _ => s) k))
    (hsave : ∀ {f : Services → Option Services} {throw k : Prog}, Saves f → W throw → W k →
      W (write f throw k))
    (hthrow : W throw) (hk : W k) : W (updateLeaderboard throw standings k) := by
  have saved : ∀ {period : LeaderboardPeriod} {userId : ℕ} {entry : Option LeaderboardEntry}
      {s v : Services}, period.Written → s.saveEntry (period, userId) entry = some v →
        ∃ period userId entry, LeaderboardPeriod.Written period ∧
          v = { s with leaderboard := s.leaderboard.upd (period, userId) entry } := by
    intro period userId entry s v hperiod hv
    obtain ⟨entry, -, rfl⟩ := Option.map_eq_some_iff.mp hv
    exact ⟨period, userId, entry, hperiod, rfl⟩
  have entry : ∀ {standing : ReportedStanding} {period : LeaderboardPeriod} {k : Prog},
      period.Written → W k → W (updateEntry throw standing period k) := by
    intro standing period k hperiod hk
    rw [updateEntry]
    refine walk_read hlook hthrow fun found => ?_
    split
    · exact hsave (fun s v hv => saved hperiod hv) hthrow hk
    · refine hsave (fun s v hv => ?_) hthrow hk
      split at hv
      · cases hv
      · exact saved hperiod hv
  refine hlook fun s c => walk_forEach (fun standing k hk => ?_) hk
  exact entry (by exact trivial) (entry (by exact trivial) hk)

namespace Settles

theorem read (h : Settles deps.runtime gameId W D) {f : Services → β} {k : β → Prog}
    (hthrow : W throw) (hk : ∀ b, W (k b)) : W (Worker.read f throw k) := walk_read h.look hthrow hk

theorem readVault (h : Settles deps.runtime gameId W D) {rt : Runtime} {failed : ℤ}
    {k : ℤ → ℤ → Prog}
    (hk : ∀ balance rentFloor, W (k balance rentFloor)) :
    W (Worker.readVault gameId rt failed k) :=
  h.look fun _ _ => h.look fun _ _ => hk _ _

theorem notify (h : Settles deps.runtime gameId W D) (hk : W k) : W (notifyPlayers k) :=
  h.look fun _ _ => hk

theorem failSettlement (h : Settles deps.runtime gameId W D) {error : String} (hthrow : W throw)
    (hk : W k) : W (Worker.failSettlement gameId throw error k) :=
  h.update (.failed error) hthrow hk

theorem recordRewards (h : Settles deps.runtime gameId W D) {payouts : List PayoutShare} {rake : ℤ}
    (hthrow : W throw) (hk : W k) : W (Worker.recordRewards gameId throw payouts rake k) :=
  walk_forEach (fun _ _ hk => h.reward hthrow hk) <|
    h.update (.recorded _ _) hthrow (h.ledger hthrow hk)

theorem adopt (h : Settles deps.runtime gameId W D) {game : Game} {report : MatchResultReport}
    {k : VerificationContext → Prog} (hthrow : W throw)
    (hk : ∀ context, context.gameId = gameId → W (k context)) :
    W (Worker.adopt gameId throw game report k) := by
  have found : ∀ (wallets : ℕ → Option Pubkey) (k : List ℕ → Prog), (∀ paid, W (k paid)) →
      ∀ reported paid, W (findPaid gameId throw wallets k paid reported) := by
    intro wallets k hk reported
    induction reported with
    | nil => exact hk
    | cons playerId reported ih =>
        intro paid
        rw [findPaid]
        split
        · exact ih paid
        · exact h.read hthrow fun found => ih _
  unfold Worker.adopt
  split
  · refine h.read hthrow fun wallets => found _ _ (fun paid => ?_) _ _
    split
    · exact hk _ rfl
    · exact hk _ rfl
  · exact hk _ rfl

variable {ret : SettleOutcome → Prog} {d : Decided}

theorem payWinner (h : Settles deps.runtime gameId W D) {authority : Pubkey} (hthrow : W throw)
    (hrejected : ∀ reasons, W (ret (.rejected reasons)))
    (hrecord : ∀ signature, W (Worker.record gameId throw ret d signature)) :
    W (Worker.payWinner deps gameId throw ret authority d) := by
  refine h.read hthrow fun wallets => ?_
  split
  · exact h.failSettlement hthrow (hrejected _)
  · refine h.send (fun _ => not_false) fun r => ?_
    split
    · exact hrecord _
    · split
      · exact hrecord _
      · exact h.failSettlement hthrow hthrow

theorem settleOnChain (h : Settles deps.runtime gameId W D) {authority : Pubkey} (hthrow : W throw)
    (hrejected : ∀ reasons, W (ret (.rejected reasons)))
    (hrecord : ∀ signature, W (Worker.record gameId throw ret d signature)) :
    W (Worker.settleOnChain deps gameId throw ret authority d) := by
  unfold Worker.settleOnChain
  extract_lets caught unlock
  have hcaught : ∀ e, W (caught e) := by
    intro e
    dsimp only [caught]
    split
    · exact h.payWinner hthrow hrejected hrecord
    · exact hthrow
  have hunlock : W unlock := by
    refine h.send (fun _ => not_false) fun r => ?_
    split
    · exact h.payWinner hthrow hrejected hrecord
    · exact hcaught _
  refine h.send (fun _ => not_false) fun r => ?_
  split
  · exact hunlock
  · split
    · exact hunlock
    · exact hcaught _

theorem payOut (h : Settles deps.runtime gameId W D) (hthrow : W throw)
    (hrejected : ∀ reasons, W (ret (.rejected reasons)))
    (hrecord : ∀ signature, W (Worker.record gameId throw ret d signature))
    (hdone : D throw)
    (hfree : D (updateLeaderboard throw d.standings <|
      notifyPlayers <| ret (.settled d.winnerId ⟨0, 0⟩ none))) :
    W (Worker.payOut deps gameId throw ret d) := by
  unfold Worker.payOut
  split_ifs
  · exact h.finish false hdone hfree
  · exact hrejected _
  · exact hrejected _
  · refine h.update .pending hthrow ?_
    split
    · exact h.settleOnChain hthrow hrejected hrecord
    · exact hrecord _

theorem readPot (h : Settles deps.runtime gameId W D) {game : Game} {k : ℤ → Prog}
    (hthrow : W throw)
    (hk : ∀ pot, W (k pot)) : W (Worker.readPot deps gameId throw game k) := by
  unfold Worker.readPot
  split
  · refine h.readVault fun balance rentFloor => ?_
    split
    · exact h.update (.pot _) hthrow (hk _)
    · exact hk 0
  · exact hk _

theorem checkVault (h : Settles deps.runtime gameId W D) {game : Game} (hdone : D throw)
    (halready : D (ret .alreadySettled)) (hk : W k) :
    W (Worker.checkVault deps gameId throw ret game k) := by
  unfold Worker.checkVault
  split
  · refine h.readVault fun balance rentFloor => ?_
    split
    · exact h.finish true hdone halready
    · exact hk
  · exact hk

/-- What is decided is a verified report of the game. -/
theorem settleReport (h : Settles deps.runtime gameId W D) {game : Game}
    {report : MatchResultReport}
    (hthrow : W throw) (hdone : D throw) (halready : D (ret .alreadySettled))
    (hrejected : ∀ reasons, W (ret (.rejected reasons)))
    (hpayOut : ∀ context : VerificationContext, context.gameId = gameId →
      (verifyResult report context).ok = true → ∀ winnerId pot rakeBps,
        W (Worker.payOut deps gameId throw ret
          ⟨(verifyResult report context).standings, winnerId, pot, rakeBps⟩)) :
    W (Worker.settleReport deps gameId throw ret game report) := by
  refine h.adopt hthrow fun context hgame => ?_
  dsimp only
  split
  · exact h.failSettlement hthrow (hrejected _)
  next hok =>
    split
    · exact hrejected _
    · refine walk_forEach (fun _ _ hk => h.standing hthrow hk) ?_
      exact h.checkVault hdone halready <| h.readPot hthrow fun pot =>
        hpayOut context hgame (Bool.not_eq_false _ ▸ hok) _ _ _

/-- **Every settlement**, where its leaderboards are kept too. -/
theorem settleGame (h : Settles deps.runtime gameId W D)
    (hboard : ∀ standings k, W k → W (updateLeaderboard throw standings k)) (hthrow : W throw)
    (hret : ∀ o, W (ret o)) (hdone : D throw) (hover : ∀ o, D (ret o))
    (hlast : ∀ o, D (notifyPlayers (ret o)))
    (hfree : ∀ standings o, D (updateLeaderboard throw standings (notifyPlayers (ret o)))) :
    W (Worker.settleGame deps gameId throw ret) := by
  refine h.read hthrow fun found => ?_
  split
  · exact hret _
  · split_ifs
    · exact hret _
    · exact hret _
    · refine h.read hthrow fun found => ?_
      split
      · exact hret _
      · exact hret _
      · refine h.settleReport hthrow hdone (hover _) (fun _ => hret _) fun context _ _ _ _ _ => ?_
        exact h.payOut hthrow (fun _ => hret _)
          (fun _ => h.recordRewards hthrow <| hboard _ _ <| h.finish true hdone (hlast _))
          hdone (hfree _ _)

theorem closeLobby (h : Settles deps.runtime gameId W D) {tier : Tier} {stage : StageResult → Prog}
    (hthrow : W throw) (hret : ∀ r, W (stage r)) :
    W (Worker.closeLobby deps tier gameId throw stage) := by
  have sealed : ∀ pot, W (sealPot deps gameId throw (stage .patch) pot) := by
    intro pot
    unfold sealPot
    split
    · exact hret _
    · split
      · refine h.send (fun _ => not_false) fun r => ?_
        split
        · exact hret _
        · split
          · exact hret _
          · exact h.failSettlement hthrow (hret _)
      · exact hret _
  unfold Worker.closeLobby
  dsimp only
  split
  · exact hret _
  · refine h.read hthrow fun queued => ?_
    split
    · exact hret _
    · split
      · exact hret _
      · refine h.read hthrow fun escrow => ?_
        split
        · exact hret _
        · exact h.readVault fun balance rentFloor => h.update (.running _ _) hthrow (sealed _)

theorem openRoom (h : Settles deps.runtime gameId W D) {authority : Pubkey} {tier : RoomTier}
    {failed : Failure → Prog} {found created : Prog} (hfailed : ∀ e, W (failed e))
    (hfound : W found) (hcreated : W created) :
    W (StageHandlers.openRoom deps authority tier gameId failed found created) := by
  refine h.look fun s c => ?_
  split
  · split
    · exact hfound
    · refine h.send (fun _ => not_false) fun r => ?_
      split
      · exact hcreated
      · exact hfailed _
  · exact hfailed _

theorem createPool (h : Settles deps.runtime gameId W D) {tier : RoomTier}
    {stage : StageResult → Prog} (hthrow : W throw) (hret : ∀ r, W (stage r)) :
    W (StageHandlers.createPool deps tier gameId throw stage) := by
  unfold StageHandlers.createPool
  split
  · exact hret _
  · refine h.read hthrow fun queued => ?_
    split
    · exact hret _
    · refine h.escrow hthrow (h.update .touched hthrow ?_)
      split
      · exact h.failSettlement hthrow (hret _)
      · have hfailed : ∀ e, W (Worker.failSettlement gameId throw e (stage .patch)) :=
          fun e => h.failSettlement hthrow (hret _)
        exact h.openRoom (fun e => hfailed _) (hret _) (h.update .opened (hfailed _) (hret _))

end Settles

end Pieces

end SnakeArena.Worker

