import SnakeArena.Worker.Cancelled
import SnakeArena.Worker.Cycle
import SnakeArena.Worker.Recorded

/-!
# Worker — the collectors

Three collectors look after a match that is decided: the settle queue, the sweep behind it, and
the stages of the match's cycle.  Each lets a game go under a condition of its own, and nothing
puts the three conditions together.
-/

namespace SnakeArena.Worker
open SnakeArena.Library SnakeArena.Db SnakeArena.Program SnakeArena.Books

/-! ### A decided pot -/

/-- The vault of the game's room holds entry fees: they are not paid out, nor to be claimed
back. -/
def Funded (chain : State) (gameId : ℕ) : Prop :=
  (chain.rooms.get (roomIdFromUuid gameId)).any fun r =>
    decide (0 < r.totalLocked) && decide (r.status ≠ .settled) && decide (r.status ≠ .cancelled)

def Confirmed (s : Services) (gameId : ℕ) : Prop :=
  (s.database.games.get gameId).any (·.settlementStatus = .confirmed)

instance (chain : State) (gameId : ℕ) : Decidable (Funded chain gameId) := by
  unfold Funded; infer_instance

instance (s : Services) (gameId : ℕ) : Decidable (Confirmed s gameId) := by
  unfold Confirmed; infer_instance

/-- The room is there, with fees, and neither settled nor cancelled. -/
theorem funded_iff {chain : State} {gameId : ℕ} :
    Funded chain gameId ↔ ∃ r, chain.rooms.get (roomIdFromUuid gameId) = some r ∧
      0 < r.totalLocked ∧ r.status ≠ .settled ∧ r.status ≠ .cancelled := by
  simp [Funded, Option.any_eq_true, and_assoc]

/-- Only an entry puts fees into a vault. -/
theorem Funded.exec {rt : Runtime} {now : ℤ} {s : State} {i : Instruction} {t : Tx} {gameId : ℕ}
    (h : Funded t.state gameId) (hexec : Program.exec rt now s i = .ok t)
    (hi : ¬Pays (roomIdFromUuid gameId) i) : Funded s gameId := by
  obtain ⟨r', hr', hlocked', hsettled', hcancelled'⟩ := funded_iff.mp h
  rw [funded_iff]
  have heffect := exec_effect hexec
  by_cases hcloses : i.Closes (roomIdFromUuid gameId)
  · cases (heffect.room_closed hcloses).symm.trans hr'
  cases hr : s.rooms.get (roomIdFromUuid gameId) with
  | none =>
      obtain ⟨-, -, -, -, -, htotal⟩ := heffect.room_created hr hr'
      omega
  | some r =>
      refine ⟨r, rfl, ?_⟩
      obtain ⟨r'', hr'', hchange⟩ := heffect.room_change hr hcloses
      obtain rfl := Option.some.inj (hr''.symm.trans hr')
      generalize t.state.roomPlayers = rps at hchange
      cases hchange with
      | other | joinRoom | closeRoomPlayer => exact ⟨hlocked', hsettled', hcancelled'⟩
      | lockEntryFee hkey | enterRoom hkey => exact absurd hkey hi
      | startRoom _ hst | unlockPrize _ hst =>
          exact ⟨hlocked', by rw [hst]; exact nofun, by rw [hst]; exact nofun⟩
      | distributeWinnings | settleToWinner => exact absurd rfl hsettled'
      | cancelRoom => exact absurd rfl hcancelled'
      | claimRefund _ hst => exact absurd hst hcancelled'

/-! ### What a settlement does to it -/

/-- No result is written, and no entry fee paid. -/
structure Aside (gameId : ℕ) (s s' : Services) : Prop where
  results : s'.results = s.results
  funded : Funded s'.chain gameId → Funded s.chain gameId

/-- Before the game is confirmed. -/
def Unconfirmed (gameId : ℕ) (s : Services) (_ : Op) (_ : Reply) (s' : Services) : Prop :=
  ¬Confirmed s gameId ∧ ¬Confirmed s' gameId

/-- An outcome that takes a game off the queue without having paid it: the settlement is
rejected, or found no pot. -/
def SettleOutcome.letsGo : SettleOutcome → Bool
  | .rejected _ => true
  | .settled _ split _ => decide (split = ⟨0, 0⟩)
  | .noResult _ | .alreadySettled => false

/-- The outcomes of a game that is not confirmed. -/
def Drops (gameId : ℕ) : Outcome → Prop
  | .settle gameId' outcome =>
      gameId' = gameId → outcome.letsGo = true ∨ ∃ reason, outcome = .noResult reason
  | .stage _ => True

section Settle
variable {g gameId : ℕ} {deps : SettleDeps}

theorem Aside.refl (s : Services) : Aside g s s := ⟨rfl, fun h => h⟩

/-- An instruction that is no entry brings no fee into a vault. -/
theorem aside_land {rt : Runtime} {now : ℤ} {i : Instruction} (hi : ¬Pays (roomIdFromUuid g) i)
    (s : Services) : Aside g s (s.land rt now i) := by
  unfold Services.land
  split
  next t ht => exact ⟨rfl, fun h => h.exec ht hi⟩
  · exact .refl s

/-- A row is neither a result nor a vault. -/
theorem aside_updateGame {data : Game → Game} {s v : Services}
    (h : s.updateGame gameId data = some v) : Aside g s v := by
  obtain ⟨game, -, rfl⟩ := Option.map_eq_some_iff.mp h
  exact ⟨rfl, fun h => h⟩

/-- Nothing before the confirmation of the game writes a result or pays an entry fee, and what
is returned drops it. -/
abbrev Idle (g : ℕ) (prog : Prog) : Prop := Does (Unconfirmed g) (Aside g) (Drops g) prog

/-- A write of a row does nothing to the pot. -/
theorem idle_updateGame {data : Game → Game} {k : Prog} (hk : Idle g k) :
    Idle g (updateGame gameId data .throws k) :=
  does_write Aside.refl trivial (fun _ _ => aside_updateGame) fun _ _ _ _ _ => hk

/-- After a confirmation the game is confirmed. -/
theorem idle_finishGame {status : SettlementStatus} {signature : Option String} {k : Prog}
    (hk : (gameId = g → status ≠ .confirmed) → Idle g k) :
    Idle g (finishGame gameId .throws status signature k) := by
  refine does_write Aside.refl trivial (fun _ _ => aside_updateGame) fun s c v hv hG => hk ?_
  rintro rfl rfl
  obtain ⟨game, -, rfl⟩ := Option.map_eq_some_iff.mp hv
  exact hG.2 (by simp [Confirmed])

/-- A settlement that fails writes its row. -/
theorem idle_failSettlement {error : String} {k : Prog} (hk : Idle g k) :
    Idle g (failSettlement gameId .throws error k) := idle_updateGame hk

/-- The leaderboard is no pot. -/
theorem idle_updateLeaderboard {standings : List ReportedStanding} {k : Prog} (hk : Idle g k) :
    Idle g (updateLeaderboard .throws standings k) := by
  refine fun s c _ => ⟨.refl s, does_forEach (fun standing k hk => ?_) hk⟩
  refine does_forEach (fun period k hk => ?_) hk
  have save : ∀ {s v : Services} {key : LeaderboardPeriod × ℕ} {entry : Option LeaderboardEntry},
      s.saveEntry key entry = some v → Aside g s v := by
    intro s v key entry hv
    obtain ⟨entry, -, rfl⟩ := Option.map_eq_some_iff.mp hv
    exact ⟨rfl, fun h => h⟩
  rw [updateEntry]
  refine does_read Aside.refl trivial fun s c _ => ?_
  split
  · exact does_write Aside.refl trivial (fun _ _ => save) fun _ _ _ _ _ => hk
  · refine does_write Aside.refl trivial (fun s v hv => ?_) fun _ _ _ _ _ => hk
    split at hv
    · cases hv
    · exact save hv

/-- The rewards are rows. -/
theorem idle_recordRewards {payouts : List PayoutShare} {rake : ℤ} {k : Prog} (hk : Idle g k) :
    Idle g (recordRewards gameId .throws payouts rake k) := by
  refine does_forEach (fun payout k hk => ?_) (idle_updateGame ?_)
  · refine does_write Aside.refl trivial (fun s v hv => ?_) fun _ _ _ _ _ => hk
    split at hv <;> obtain rfl := Option.some.inj hv <;> exact ⟨rfl, fun h => h⟩
  · refine does_transaction Aside.refl ?_ (fun s database => ⟨rfl, fun h => h⟩) hk
    trivial

/-- What settles the game confirms it first. -/
theorem idle_record {d : Decided} {signature : Option String} :
    Idle g (record gameId .throws (fun o => .returns (.settle gameId o)) d signature) :=
  idle_recordRewards <| idle_updateLeaderboard <| idle_finishGame fun hstatus =>
    does_notify Aside.refl fun hgame => absurd rfl (hstatus hgame)

/-- A rejected settlement drops the game. -/
theorem idle_rejected {reasons : List String} :
    Idle g (.returns (.settle gameId (.rejected reasons))) := fun _ => .inl rfl

/-- The winner is paid before the confirmation only in the step that confirms. -/
theorem idle_payWinner {authority : Pubkey} {d : Decided} :
    Idle g (payWinner deps gameId .throws (fun o => .returns (.settle gameId o)) authority d) := by
  refine does_read Aside.refl trivial fun s c _ => ?_
  split
  · exact idle_failSettlement idle_rejected
  · refine does_sendSigned Aside.refl (fun s now => aside_land (by exact not_false) s) fun r => ?_
    split
    · exact idle_record
    · split
      · exact idle_record
      · exact idle_failSettlement trivial

/-- Unlocking and paying, on the chain. -/
theorem idle_settleOnChain {authority : Pubkey} {d : Decided} :
    Idle g (settleOnChain deps gameId .throws (fun o => .returns (.settle gameId o)) authority
      d) := by
  unfold settleOnChain
  extract_lets caught unlock
  have hcaught : ∀ e, Idle g (caught e) := by
    intro e
    dsimp only [caught]
    split
    · exact idle_payWinner
    · trivial
  have hunlock : Idle g unlock := by
    refine does_sendSigned Aside.refl (fun s now => aside_land (by exact not_false) s) fun r => ?_
    split
    · exact idle_payWinner
    · exact hcaught _
  refine does_sendSigned Aside.refl (fun s now => aside_land (by exact not_false) s) fun r => ?_
  split
  · exact hunlock
  · split
    · exact hunlock
    · exact hcaught _

/-- Paying out, or finding no pot to pay. -/
theorem idle_payOut {d : Decided} :
    Idle g (payOut deps gameId .throws (fun o => .returns (.settle gameId o)) d) := by
  unfold payOut
  split_ifs
  · refine idle_finishGame fun _ => idle_updateLeaderboard <| does_notify Aside.refl fun _ => ?_
    exact .inl (by simp [SettleOutcome.letsGo])
  · exact idle_rejected
  · exact idle_rejected
  · refine idle_updateGame ?_
    split
    · exact idle_settleOnChain
    · exact idle_record

/-- A report is settled, rejected, or waits: whatever it returns drops the game. -/
theorem idle_settleReport {game : Game} {report : MatchResultReport} :
    Idle g (settleReport deps gameId .throws (fun o => .returns (.settle gameId o)) game
      report) := by
  have pay : ∀ pot standings winnerId,
      Idle g (payOut deps gameId .throws (fun o => .returns (.settle gameId o))
        ⟨standings, winnerId, pot, game.rakeBps⟩) := fun _ _ _ => idle_payOut
  have pot : ∀ {k : ℤ → Prog}, (∀ pot, Idle g (k pot)) →
      Idle g (readPot deps gameId .throws game k) := by
    intro k hk
    unfold readPot
    split
    · refine does_readVault Aside.refl fun balance rentFloor => ?_
      split
      · exact idle_updateGame (hk _)
      · exact hk 0
    · exact hk _
  have vault : ∀ {k : Prog}, Idle g k →
      Idle g (checkVault deps gameId .throws (fun o => .returns (.settle gameId o)) game k) := by
    intro k hk
    unfold checkVault
    split
    · refine does_readVault Aside.refl fun balance rentFloor => ?_
      split
      · exact idle_finishGame fun hstatus hgame => absurd rfl (hstatus hgame)
      · exact hk
    · exact hk
  have found : ∀ (wallets : ℕ → Option Pubkey) (k : List ℕ → Prog), (∀ paid, Idle g (k paid)) →
      ∀ reported paid, Idle g (findPaid gameId .throws wallets k paid reported) := by
    intro wallets k hk reported
    induction reported with
    | nil => exact hk
    | cons playerId reported ih =>
        intro paid
        rw [findPaid]
        split
        · exact ih paid
        · exact does_read Aside.refl trivial fun s c _ => ih _
  have adopted : ∀ {k : VerificationContext → Prog}, (∀ context, Idle g (k context)) →
      Idle g (adopt gameId .throws game report k) := by
    intro k hk
    unfold adopt
    split
    · refine does_read Aside.refl trivial fun s c _ => found _ _ (fun paid => ?_) _ _
      split
      · exact hk _
      · exact hk _
    · exact hk _
  unfold settleReport
  refine adopted fun context => ?_
  dsimp only
  split
  · exact idle_failSettlement idle_rejected
  · split
    · exact idle_rejected
    · refine does_forEach (fun _ k hk => ?_) (vault (pot fun pot => pay _ _ _))
      exact does_write Aside.refl trivial (fun s v hv => Option.some.inj hv ▸ .refl s)
        fun _ _ _ _ _ => hk

/-- **A settlement of a game that is not confirmed** writes no result, pays no entry fee, and
lets the game go only when it is rejected or found no pot. -/
theorem idle_settleGame :
    Idle g (settleGame deps gameId .throws fun o => .returns (.settle gameId o)) := by
  refine does_read Aside.refl trivial fun s c hG => ?_
  split
  · exact fun _ => .inr ⟨_, rfl⟩
  next game hgame =>
      split_ifs with hconfirmed hcancelled
      · rintro rfl
        exact absurd (by simp [Confirmed, hgame, hconfirmed]) hG.1
      · exact idle_rejected
      · refine does_read Aside.refl trivial fun s c _ => ?_
        split
        · exact fun _ => .inr ⟨_, rfl⟩
        · exact idle_rejected
        · exact idle_settleReport

/-! ### What the stages do to it -/

/-- The launch writes rows, and sends nothing. -/
theorem idle_closeLobby {tier : Tier} :
    Idle g (closeLobby deps tier gameId .throws fun r => .returns (.stage r)) := by
  have sealed : ∀ pot, Idle g (sealPot deps gameId .throws (.returns (.stage .patch)) pot) := by
    intro pot
    unfold sealPot
    split
    · trivial
    · split
      · refine does_sendSigned Aside.refl (fun s now => aside_land (by exact not_false) s)
          fun r => ?_
        split
        · trivial
        · split
          · trivial
          · exact idle_failSettlement trivial
      · trivial
  unfold closeLobby
  dsimp only
  split
  · trivial
  · refine does_read Aside.refl trivial fun s c _ => ?_
    split
    · trivial
    · split
      · trivial
      · refine does_read Aside.refl trivial fun s c _ => ?_
        split
        · trivial
        · exact does_readVault Aside.refl fun balance rentFloor => idle_updateGame (sealed _)

/-- A room is opened, and no entry fee paid by it. -/
theorem idle_openRoom {authority : Pubkey} {tier : RoomTier} {failed : Failure → Prog}
    {found created : Prog} (hfailed : ∀ e, Idle g (failed e)) (hfound : Idle g found)
    (hcreated : Idle g created) :
    Idle g (StageHandlers.openRoom deps authority tier gameId failed found created) := by
  intro s c _
  refine ⟨.refl s, ?_⟩
  dsimp only
  split
  · split
    · exact hfound
    · refine does_sendSigned Aside.refl (fun s now => aside_land (by exact not_false) s)
        fun r => ?_
      split
      · exact hcreated
      · exact hfailed _
  · exact hfailed _

/-- Nor by the creation of the pool. -/
theorem idle_createPool {tier : RoomTier} :
    Idle g (StageHandlers.createPool deps tier gameId .throws fun r => .returns (.stage r)) := by
  unfold StageHandlers.createPool
  split
  · trivial
  · refine does_read Aside.refl trivial fun s c _ => ?_
    split
    · trivial
    · refine does_write Aside.refl trivial (fun s v hv => ?_) fun _ _ _ _ _ => idle_updateGame ?_
      · obtain rfl := Option.some.inj hv
        unfold Services.upsertEscrow
        split <;> exact ⟨rfl, fun h => h⟩
      · split
        · exact idle_failSettlement trivial
        · refine idle_openRoom (fun e => idle_failSettlement trivial) trivial ?_
          exact does_write Aside.refl (idle_failSettlement trivial)
            (fun _ _ => aside_updateGame) fun _ _ _ _ _ => trivial

/-- A refund in the ledger leaves the vault. -/
theorem idle_cancel {reason : String} :
    Idle g (transaction .throws
      (.await .read (fun s _ => s) fun _ c =>
        if c.arrival = .answered then .returns (.stage .patch) else .throws)
      (cancelGameAndRefund gameId reason) []) := by
  refine does_transaction Aside.refl ?_ (fun s database => ⟨rfl, fun h => h⟩) ?_
  · trivial
  · intro s c _
    refine ⟨.refl s, ?_⟩
    dsimp only
    split <;> trivial

end Settle

/-! ### The collectors -/

namespace Cycle
variable (s : Cycle) (gameId : ℕ)

/-- A result key exists. -/
def Decided : Prop := (s.services.results.get gameId).isSome

def Queued : Prop := gameId ∈ s.settleQueue

def Selected : Prop := gameId ∈ s.running

/-- The rows that the sweep's query matches, the last started first. -/
def swept : List CatalogueRow :=
  (s.catalogue.filter fun row =>
    (s.services.database.games.get row.gameId).any sweepable).insertionSort
      fun a b => b.startedAt ≤ a.startedAt

/-- Its row is one that the query matches. -/
def Matched : Prop := gameId ∈ s.swept.map (·.gameId)

/-- Twenty games come before it in the query. -/
def Crowded : Prop := gameId ∈ (s.swept.drop 20).map (·.gameId)

/-- A stage up to `end-match` is pending. -/
def Staged : Prop := s.jobs.any fun job =>
  !job.finished && decide (job.gameId = some gameId) && decide (job.stage ≠ .archiveGame)

/-- Decided and with fees in its vault, with neither the queue nor a stage to look after it. -/
def Loose : Prop :=
  s.Decided gameId ∧ Funded s.services.chain gameId ∧ ¬s.Queued gameId ∧ ¬s.Staged gameId

instance : Decidable (s.Decided gameId) := by unfold Decided; infer_instance
instance : Decidable (s.Queued gameId) := by unfold Queued; infer_instance
instance : Decidable (s.Selected gameId) := by unfold Selected; infer_instance
instance : Decidable (s.Matched gameId) := by unfold Matched; infer_instance
instance : Decidable (s.Crowded gameId) := by unfold Crowded; infer_instance
instance : Decidable (s.Staged gameId) := by unfold Staged; infer_instance
instance : Decidable (s.Loose gameId) := by unfold Loose; infer_instance

variable {s gameId}

theorem Selected.matched (h : s.Selected gameId) : s.Matched gameId := by
  obtain ⟨row, hrow, hid⟩ := List.mem_map.mp h
  exact List.mem_map.mpr ⟨row, List.mem_of_mem_take hrow, hid⟩

/-- A row that the query matches is selected, unless twenty come before it. -/
theorem Matched.selected (h : s.Matched gameId) (hcrowd : ¬s.Crowded gameId) :
    s.Selected gameId := by
  obtain ⟨row, hrow, hid⟩ := List.mem_map.mp h
  rw [← List.take_append_drop 20 s.swept, List.mem_append] at hrow
  obtain hrow | hrow := hrow
  · exact List.mem_map.mpr ⟨row, hrow, hid⟩
  · exact absurd (List.mem_map.mpr ⟨row, hrow, hid⟩) hcrowd

end Cycle

/-- Where a step may let a game go. -/
def LetsGo (g : ℕ) (s s' : Cycle) : CycleOp → Prop
  -- the sweep would find it
  | .report gameId => gameId = g → s'.Loose g → s.Selected g
  -- a stage of it is pending
  | .srem gameId outcome => gameId = g → outcome.letsGo = true → ¬s'.Loose g
  -- another stage is, or it is queued
  | .finish _ _ => s'.Loose g → s.Loose g
  | .begins _ _ | .goesOn _ | .other => True

instance (g : ℕ) (s s' : Cycle) (op : CycleOp) : Decidable (LetsGo g s s' op) := by
  unfold LetsGo
  split <;> infer_instance

/-- Before the game is confirmed, and nothing takes a game that only the sweep looks after out
of its sight. -/
structure Watched (g : ℕ) (s s' : Cycle) : Prop where
  before : ¬Confirmed s.services g
  after : ¬Confirmed s'.services g
  /-- No write takes its row out of the query: none fails, cancels or completes it. -/
  matched : s.Loose g → s.Selected g → s'.Loose g → s'.Matched g
  /-- No twenty newer games come before it. -/
  crowded : s.Loose g → s.Selected g → s'.Loose g → ¬s'.Crowded g

theorem Watched.selected {g : ℕ} {s s' : Cycle} (h : Watched g s s') (hloose : s.Loose g)
    (hselected : s.Selected g) (hloose' : s'.Loose g) : s'.Selected g :=
  (h.matched hloose hselected hloose').selected (h.crowded hloose hselected hloose')

instance (g : ℕ) (s s' : Cycle) : Decidable (Watched g s s') :=
  decidable_of_iff (¬Confirmed s.services g ∧ ¬Confirmed s'.services g ∧
      (s.Loose g → s.Selected g → s'.Loose g → s'.Matched g) ∧
        (s.Loose g → s.Selected g → s'.Loose g → ¬s'.Crowded g))
    ⟨fun h => ⟨h.1, h.2.1, h.2.2.1, h.2.2.2⟩, fun h => ⟨h.1, h.2, h.3, h.4⟩⟩

section Cycle
variable {g : ℕ} {deps : SettleDeps} {s s' : Cycle}

/-- Where the step is aside, a game that is loose was so before. -/
theorem loose_of (s s' : Cycle) (haside : Aside g s.services s'.services)
    (hqueued : s.Queued g → s'.Queued g)
    (hstaged : s.Staged g → s'.Staged g) (h : s'.Loose g) : s.Loose g := by
  obtain ⟨hdecided, hfunded, hq, hst⟩ := h
  refine ⟨?_, haside.funded hfunded, fun h => hq (hqueued h), fun h => hst (hstaged h)⟩
  unfold Cycle.Decided at hdecided ⊢
  rwa [haside.results] at hdecided

/-- Whatever the others do, a loose game stays in the sweep's sight. -/
abbrev Tends (g : ℕ) (prog : CycleProg) : Prop :=
  Does (fun s op _ s' => Watched g s s' ∧ LetsGo g s s' op)
    (fun s s' => (s.Loose g → s.Selected g) → s'.Loose g → s'.Selected g) (fun _ => True) prog

/-- A read lets no game go. -/
theorem tends_look {β : Type} {f : Cycle → β} {throw : CycleProg} {k : β → CycleProg}
    (hthrow : Tends g throw) (hk : ∀ b, Tends g (k b)) : Tends g (look f throw k) := by
  intro s c _
  refine ⟨fun h => h, ?_⟩
  dsimp only
  split
  · exact hk _
  · exact hthrow

/-- One change, under what its label asks. -/
theorem tends_step {op : CycleOp} {f : Cycle → Cycle} {throw k : CycleProg}
    (hf : ∀ s, Watched g s (f s) → LetsGo g s (f s) op →
      (s.Loose g → s.Selected g) → (f s).Loose g → (f s).Selected g)
    (hthrow : Tends g throw) (hk : Tends g k) : Tends g (change op f throw k) := by
  intro s c
  dsimp only
  split
  · rintro -
    refine ⟨fun h => h, ?_⟩
    split
    · exact hk
    · exact hthrow
  · rintro ⟨hwatched, hgo⟩
    refine ⟨hf s hwatched hgo, ?_⟩
    split
    · exact hk
    · exact hthrow

/-- A change of the label that asks nothing, which makes no game loose. -/
theorem tends_change {f : Cycle → Cycle} {throw k : CycleProg}
    (hf : ∀ s, (f s).Loose g → s.Loose g) (hthrow : Tends g throw) (hk : Tends g k) :
    Tends g (change .other f throw k) :=
  tends_step (fun s hw _ hI h => hw.selected (hf s h) (hI (hf s h)) h) hthrow hk

/-- A call of the settlement, inside a stage. -/
theorem tends_call {prog : Prog} {throw : CycleProg} {k : Outcome → CycleProg}
    (hprog : Idle g prog) (hthrow : Tends g throw) (hk : ∀ o, Drops g o → Tends g (k o)) :
    Tends g (call prog throw k) := by
  refine Does.within hthrow hk (fun s op c u h => ⟨h.1.before, h.1.after⟩) (fun s c u h hT => ?_)
    hprog
  intro hI hloose
  have hbefore : s.Loose g :=
    loose_of s { s with services := u } hT (fun h => h) (fun h => h) hloose
  exact h.1.selected hbefore (hI hbefore) hloose

/-- The same, under the label of its game. -/
theorem tends_callFor {call : GameCall} {gameId : ℕ} {prog : Prog} {throw : CycleProg}
    {k : Outcome → CycleProg} (hprog : Idle g prog) (hthrow : Tends g throw)
    (hk : ∀ o, Drops g o → Tends g (k o)) : Tends g (callFor call gameId prog throw k) := by
  have loose : ∀ {s : Cycle} {u : Services}, Aside g s.services u →
      ({ s with services := u } : Cycle).Loose g → s.Loose g :=
    fun haside => loose_of _ _ haside (fun h => h) fun h => h
  cases prog with
  | returns o => exact hk o hprog
  | throws => exact hthrow
  | await op act next =>
      rintro s c ⟨hwatched, -⟩
      obtain ⟨hT, hnext⟩ := hprog s.services c ⟨hwatched.before, hwatched.after⟩
      refine ⟨fun hI hloose => ?_, Does.within hthrow hk (fun s op c u h => ⟨h.1.before, h.1.after⟩)
        (fun s c u h hT hI hloose => ?_) hnext⟩
      · exact hwatched.selected (loose hT hloose) (hI (loose hT hloose)) hloose
      · exact h.1.selected (loose hT hloose) (hI (loose hT hloose)) hloose

/-- A loop does what its body does. -/
theorem tends_inTurn {β : Type} {xs : List β} {body : β → CycleProg → CycleProg} {k : CycleProg}
    (hbody : ∀ x k, Tends g k → Tends g (body x k)) (hk : Tends g k) :
    Tends g (inTurn xs body k) := by
  induction xs with
  | nil => exact hk
  | cons x xs ih => exact hbody x _ ih

/-! ### Every call -/

/-- The room of a tier is no game. -/
theorem loose_upsertRoom {tier : RoomTier} (s : Cycle) (h : (s.upsertRoom tier).Loose g) :
    s.Loose g := by
  have rake : ∀ (games : List ℕ) (services : Services), Aside g services
      (games.foldl
        (fun services gameId =>
          (services.updateGame gameId fun game => { game with rakeBps := tier.rakeBps }).getD
            services) services) := by
    intro games
    induction games with
    | nil => exact .refl
    | cons gameId games ih =>
        intro services
        rw [List.foldl_cons]
        cases hu : services.updateGame gameId fun game => { game with rakeBps := tier.rakeBps } with
        | none => exact ih services
        | some v =>
            have h₁ := aside_updateGame (g := g) hu
            have h₂ := ih v
            exact ⟨h₂.results.trans h₁.results, fun h => h₁.funded (h₂.funded h)⟩
  exact loose_of s (s.upsertRoom tier) (rake _ s.services) (fun h => h) (fun h => h) h

/-- A new game is not decided yet. -/
theorem tends_newGame {tierId : String} {nodeId : ℤ → String} {startedAt : ℤ → ℤ}
    {throw : CycleProg} {k : ℕ → CycleProg} (hthrow : Tends g throw) (hk : ∀ id, Tends g (k id)) :
    Tends g (newGame tierId nodeId startedAt throw k) := by
  rintro s c ⟨hwatched, -⟩
  refine ⟨fun hI hloose => ?_, ?_⟩
  · suffices hbefore : s.Loose g from hwatched.selected hbefore (hI hbefore) hloose
    dsimp only at hloose
    split at hloose
    · exact hloose
    · cases hcreate : s.createGame ⟨c.uuid, tierId, startedAt c.now⟩ (nodeId c.now) with
      | none =>
          rw [hcreate] at hloose
          exact hloose
      | some s' =>
          rw [hcreate] at hloose
          simp only [Cycle.createGame, Option.ite_none_left_eq_some] at hcreate
          obtain rfl := Option.some.inj hcreate.2
          exact loose_of s _ ⟨rfl, fun h => h⟩ (fun h => h) (fun h => h) hloose
  · dsimp only
    split
    · exact hk _
    · exact hthrow

/-- A job that is added looks after its game. -/
theorem tends_addJob {job : Job} {throw k : CycleProg} (hthrow : Tends g throw)
    (hk : Tends g k) : Tends g (change .other (Cycle.addJob job) throw k) := by
  refine tends_change (fun s => loose_of s _ ?_ ?_ ?_) hthrow hk
  all_goals
    unfold Cycle.addJob
    split
  · exact .refl _
  · exact .refl _
  · exact fun h => h
  · exact fun h => h
  · exact fun h => h
  · unfold Cycle.Staged
    rw [List.any_append, Bool.or_eq_true]
    exact .inl

/-- A job that is finished looks after its game no more, which its label answers for. -/
theorem tends_finish {cycleId : CycleId} {stage : CycleStage} {k : CycleProg} (hk : Tends g k) :
    Tends g (change (.finish cycleId stage) (Cycle.finishJob cycleId stage) .throws k) :=
  tends_step (fun _ hw hgo hI h => hw.selected (hgo h) (hI (hgo h)) h) trivial hk

/-- The refund of an abandoned match. -/
theorem tends_refundAbandonedMatch {gameId : Option ℕ} {reason : String} {throw k : CycleProg}
    (hthrow : Tends g throw) (hk : Tends g k) :
    Tends g (refundAbandonedMatch gameId reason throw k) := by
  cases gameId with
  | none => exact hk
  | some gameId => exact tends_callFor idle_cancel hthrow fun _ _ => hk

/-- What follows the last failure of a job. -/
theorem tends_failJob {job : Job} : Tends g (failJob job) := by
  unfold failJob
  dsimp only
  split
  · refine tends_change (fun s => loose_of s _ (.refl _) (fun h => h) ?_) trivial trivial
    unfold Cycle.Staged Cycle.countAttempt Cycle.modifyJob
    rw [List.any_map]
    refine fun h => (List.any_eq_true.mpr ?_)
    obtain ⟨job', hjob', hstaged⟩ := List.any_eq_true.mp h
    refine ⟨job', hjob', ?_⟩
    rw [Function.comp_apply]
    split
    · exact hstaged
    · exact hstaged
  · refine tends_finish ?_
    split
    · exact tends_refundAbandonedMatch trivial trivial
    · trivial

/-- **Every stage keeps a loose game in the sweep's sight.**. -/
theorem tends_runStage {job : Job} {throw : CycleProg}
    {ret : StageResult → Option ℕ → CycleProg} (hthrow : Tends g throw)
    (hret : ∀ r gameId, Tends g (ret r gameId)) : Tends g (runStage deps job throw ret) := by
  unfold runStage
  split
  · exact hthrow
  next tier _ =>
      extract_lets answer answered
      have hanswered : ∀ o, Tends g (answered o) := by
        rintro (- | r)
        · exact hthrow
        · exact hret r _
      split
      · refine tends_change loose_upsertRoom hthrow (tends_look hthrow fun found => ?_)
        cases found with
        | none => exact tends_newGame hthrow fun id => hret _ _
        | some gameId => exact hret _ _
      · exact tends_callFor idle_createPool hthrow fun o _ => hanswered o
      · refine tends_look hthrow fun _ => tends_change (fun s => ?_) hthrow (hret _ _)
        exact loose_of s _ (.refl _) (fun h => h) fun h => h
      · exact tends_callFor idle_closeLobby hthrow fun o _ => hanswered o
      · exact tends_change (fun _ h => h) hthrow (hret _ _)
      · refine tends_callFor idle_settleGame hthrow fun o _ => ?_
        split
        · exact hret _ _
        · exact hret _ _
        · exact hret _ _
        · exact hthrow
        · exact hthrow
      · unfold StageHandlers.archiveGame
        extract_lets archive
        have harchive : Tends g archive := by
          refine tends_look hthrow fun _ => tends_look hthrow fun found => ?_
          cases found with
          | none => exact hret _ _
          | some game =>
              refine tends_change (fun _ h => h) hthrow
                (tends_change (fun s => ?_) hthrow (hret _ _))
              exact loose_of s _ ⟨rfl, fun h => h⟩ (fun h => h) fun h => h
        split
        · exact harchive
        · refine tends_call ?_ harchive fun _ _ => harchive
          refine does_sendSigned Aside.refl (fun s now => aside_land (by exact not_false) s)
            fun _ => ?_
          trivial
      · exact hthrow

/-- A job is its stage, and what it queues next. -/
theorem tends_runJob {cycleId : CycleId} {stage : CycleStage} :
    Tends g (runJob deps cycleId stage) := by
  refine tends_look trivial fun found => ?_
  cases found with
  | none => trivial
  | some job =>
      dsimp only
      split
      · trivial
      · refine tends_runStage tends_failJob fun result gameId => ?_
        split
        · exact tends_refundAbandonedMatch tends_failJob (tends_finish trivial)
        · exact tends_finish trivial
        · split
          · exact tends_finish trivial
          · exact tends_addJob tends_failJob (tends_finish trivial)

/-- The tick adds jobs only. -/
theorem tends_schedulerTick : Tends g schedulerTick :=
  fun _ _ _ => ⟨fun h => h, tends_inTurn (fun _ _ hk => tends_addJob hk hk) trivial⟩

/-- The queue lets a game go that is rejected or without a pot. -/
theorem tends_settleQueued {gameId : ℕ} {k : CycleProg} (hk : Tends g k) :
    Tends g (settleQueued deps gameId k) := by
  have removes : ∀ gameId' outcome, Drops g (.settle gameId' outcome) →
      (∀ reason, outcome ≠ .noResult reason) →
      Tends g (change (.srem gameId' outcome) (Cycle.srem gameId') k k) := by
    intro gameId' outcome hdrops hresult
    refine tends_step (fun s hw hgo hI hloose => ?_) hk hk
    by_cases e : gameId' = g
    · obtain hgoes | ⟨reason, rfl⟩ := hdrops e
      · exact absurd hloose (hgo e hgoes)
      · exact absurd rfl (hresult reason)
    · have hbefore : s.Loose g := by
        refine loose_of s (s.srem gameId') (.refl _) (fun h => ?_) (fun h => h) hloose
        exact List.mem_filter.mpr ⟨h, by simpa using Ne.symm e⟩
      exact hw.selected hbefore (hI hbefore) hloose
  refine tends_callFor idle_settleGame hk fun o ho => ?_
  obtain ⟨gameId', outcome⟩ | r := o
  · cases outcome with
    | noResult => exact hk
    | settled | rejected | alreadySettled => exact removes _ _ ho nofun
  · exact hk

/-- The settle loop takes a game off the queue for what its settlement returned. -/
theorem tends_settleFinished : Tends g (settleFinished deps) := by
  refine tends_look trivial fun queued => tends_inTurn (fun _ _ => tends_settleQueued) ?_
  refine tends_look trivial fun running => tends_inTurn (fun gameId k hk => ?_) trivial
  refine tends_look trivial fun found => ?_
  cases found with
  | none => exact hk
  | some report => exact tends_callFor idle_settleGame hk fun _ _ => hk

/-- The rooms of the tiers. -/
theorem tends_ensureRooms : Tends g (ensureRooms deps) := by
  unfold ensureRooms
  split
  · trivial
  next authority _ =>
      refine tends_inTurn (fun tier k hk => ?_) trivial
      have room : ∀ gameId, Tends g
          (call (StageHandlers.openRoom deps authority tier gameId
            (fun _ => .returns (.stage .patch)) (.returns (.stage .patch))
            (.returns (.stage .patch))) k fun _ => k) := fun gameId =>
        tends_call (idle_openRoom (fun _ => trivial) trivial trivial) hk fun _ _ => hk
      unfold ensureRoom
      split
      · exact hk
      · refine tends_look hk fun (players, bound) => ?_
        dsimp only
        split
        · exact hk
        · cases bound with
          | some gameId => exact room gameId
          | none =>
              refine tends_change (fun s => ?_) hk (tends_newGame hk fun gameId => ?_)
              · unfold Cycle.insertRoom
                split
                · exact fun h => h
                · exact loose_of s _ (.refl _) (fun h => h) fun h => h
              · refine tends_change (fun s => ?_) hk (room gameId)
                exact loose_of s _ (.refl _) (fun h => h) fun h => h

/-- A game is reported where the sweep would find it, and then queued. -/
theorem tends_reportFinishedMatch {gameId : ℕ} {result : MatchResultReport} :
    Tends g (reportFinishedMatch gameId result) := by
  refine tends_step (fun s hw hgo hI hloose => ?_) trivial ?_
  · by_cases e : gameId = g
    · exact hgo e hloose
    · have hbefore : s.Loose g := by
        obtain ⟨hdecided, hrest⟩ := hloose
        refine ⟨?_, hrest⟩
        unfold Cycle.Decided Cycle.saveResult at hdecided
        rwa [Table.get_upd_other (Ne.symm e)] at hdecided
      exact hw.selected hbefore (hI hbefore) hloose
  · refine tends_change (fun s => loose_of s _ ?_ ?_ ?_) trivial trivial
    all_goals
      unfold Cycle.sadd
      split
    · exact .refl _
    · exact .refl _
    · exact fun h => h
    · exact fun h => List.mem_append_left _ h
    · exact fun h => h
    · exact fun h => h

end Cycle

/-! ### Runs -/

/-- Where an act may let a game go: an entry fee too, and a job that stalls, leave it with the
queue or a stage. -/
def MayLeave (g : ℕ) (s : System Cycle (Task Cycle CycleOp Reply Unit CycleCall)) :
    Act (Task Cycle CycleOp Reply Unit CycleCall) Reply CycleEvent → Cycle → Prop
  | .resume r _, s' =>
      match s.procs.get r with
      | some (.running (.await op _ _)) => LetsGo g s.store s' op
      | _ => True
  | .other _, s' => s'.Loose g → s.store.Loose g
  | .start _ _, _ | .crash _, _ => True

instance (g : ℕ) (s : System Cycle (Task Cycle CycleOp Reply Unit CycleCall))
    (a : Act (Task Cycle CycleOp Reply Unit CycleCall) Reply CycleEvent) (s' : Cycle) :
    Decidable (MayLeave g s a s') :=
  match a with
  | .start _ _ | .crash _ => .isTrue trivial
  | .other _ => inferInstanceAs (Decidable (s'.Loose g → s.store.Loose g))
  | .resume r c =>
      match h : s.procs.get r with
      | some (.running (.await op _ _)) =>
          decidable_of_iff (LetsGo g s.store s' op) (by simp only [MayLeave, h])
      | none | some (.call _) | some (.running (.returns _)) | some (.running .throws) =>
          .isTrue (by simp only [MayLeave, h])

/-- Each collector lets the game go only where another has it. -/
def Collects (deps : SettleDeps) (g : ℕ)
    (s : System Cycle (Task Cycle CycleOp Reply Unit CycleCall))
    (a : Act (Task Cycle CycleOp Reply Unit CycleCall) Reply CycleEvent) : Prop :=
  ∀ s' ∈ (cycle deps).processes.act s a, Watched g s.store s'.store ∧ MayLeave g s a s'.store

instance (deps : SettleDeps) (g : ℕ) (s : System Cycle (Task Cycle CycleOp Reply Unit CycleCall))
    (a : Act (Task Cycle CycleOp Reply Unit CycleCall) Reply CycleEvent) :
    Decidable (Collects deps g s a) := by
  unfold Collects
  infer_instance

/-- Before the first call of the worker, with no match reported. -/
structure CycleStart (s : System Cycle (Task Cycle CycleOp Reply Unit CycleCall)) : Prop where
  procs : s.procs = Table.empty
  results : s.store.services.results = Table.empty

section Runs
variable {deps : SettleDeps} {g : ℕ}
  {s : System Cycle (Task Cycle CycleOp Reply Unit CycleCall)}

/-- The rule's invariant: what is loose is selected. -/
theorem collects_keeps : (cycle deps).processes.Keeps (Collects deps g)
    (fun s => s.Loose g → s.Selected g)
    (fun _ _ p => Task.Tame (fun s op _ s' => Watched g s s' ∧ LetsGo g s s' op)
      (fun s s' => (s.Loose g → s.Selected g) → s'.Loose g → s'.Selected g) (fun _ => True) p)
    fun _ _ => True := by
  refine Functions.does_keeps ?_ ?_ ?_
  · intro s r c op act k _ h hp
    have hact : (cycle deps).processes.act s (.resume r c) =
        some ⟨act s.store c, s.procs.upd r (.running (k s.store c))⟩ := by
      simp only [Processes.act, hp, Functions.processes, Functions.resume]
    obtain ⟨hwatched, hgo⟩ := h _ hact
    simp only [MayLeave, hp] at hgo
    exact ⟨hwatched, hgo⟩
  · intro request
    cases request with
    | settleFinished => exact tends_settleFinished
    | ensureRooms => exact tends_ensureRooms
    | schedulerTick => exact tends_schedulerTick
    | runJob cycleId stage => exact tends_runJob
    | report gameId result => exact tends_reportFinishedMatch
    | cancel gameId reason =>
        show Tends g (refundAbandonedMatch (some gameId) reason .throws (.returns ()))
        exact tends_refundAbandonedMatch trivial trivial
  · intro s e s' hI h he hloose
    have hact : (cycle deps).processes.act s (.other e) = some { s with store := s' } := by
      simp only [Processes.act, Functions.processes, he, Option.map_some]
    obtain ⟨hwatched, hleave⟩ := h _ hact
    exact hwatched.selected (hleave hloose) (hI (hleave hloose)) hloose

/-- **No decided pot falls out of every path**, up to the confirmation of its game, in every run
in which each collector lets it go only where another has it. -/
theorem decided_pot_collected
    (hs : Reachable (Guarded (cycle deps).processes.Step (Collects deps g)) CycleStart s)
    (hdecided : s.store.Decided g) (hfunded : Funded s.store.services.chain g) :
    s.store.Queued g ∨ s.store.Selected g ∨ s.store.Staged g := by
  have hstart : ∀ s, CycleStart s → (s.store.Loose g → s.store.Selected g) := by
    rintro s h ⟨hdecided, -⟩
    rw [Cycle.Decided, h.results] at hdecided
    cases hdecided
  have hI := (collects_keeps.reachable (fun s h => ⟨hstart s h, by
    rw [h.procs]; exact Table.All.empty, fun _ _ _ _ _ _ _ => trivial⟩) hs).1
  by_cases hqueued : s.store.Queued g
  · exact .inl hqueued
  · by_cases hstaged : s.store.Staged g
    · exact .inr (.inr hstaged)
    · exact .inr (.inl (hI ⟨hdecided, hfunded, hqueued, hstaged⟩))

/-- The program is initialized. -/
def openedProgram : Result State :=
  execAll .validator .funded
    [(0, Call.initializeProgram (.key 1) (.key 2) (.key 3) 1000 50)]

/-- Two players are queued for the bronze tier, which has no game. -/
def queuedLobby (chain : State) : System Cycle (Task Cycle CycleOp Reply Unit CycleCall) where
  store :=
    { services :=
        { database := emptyDatabase.store
          wallets := [⟨1, .key 4, true, some 0, 0⟩, ⟨2, .key 5, true, some 0, 0⟩]
          rewards := .empty
          leaderboard := .empty
          results := .empty
          lobbies := Table.empty.upd "bronze" 2
          chain }
      rooms := .empty
      catalogue := []
      lobbyGames := .empty
      settleQueue := []
      jobs := [] }
  procs := .empty

/-- A cycle that has not begun. -/
theorem queuedLobby_start (chain : State) : CycleStart (queuedLobby chain) := ⟨rfl, rfl⟩

/-- `ensureRooms` binds game 7 and opens its room, both players enter it, and the node reports
the match. -/
def reportedMatch : List (Act (Task Cycle CycleOp Reply Unit CycleCall) Reply CycleEvent) :=
  .start 0 (.call .ensureRooms) :: List.replicate 13 (.resume 0 { uuid := 7 }) ++
    [.other (.exec 2 (Call.enterRoom (.key 4) (roomIdFromUuid 7))),
      .other (.exec 3 (Call.enterRoom (.key 5) (roomIdFromUuid 7))),
      .start 1 (.call (.report 7 finishedReport))] ++
    List.replicate 4 (.resume 1 {})

/-- One pass of `settleFinished`, whose read of the vault's balance fails. -/
def unreadVault : List (Act (Task Cycle CycleOp Reply Unit CycleCall) Reply CycleEvent) :=
  .start 2 (.call .settleFinished) :: List.replicate 9 (.resume 2 {}) ++
    .resume 2 { arrival := .failed } :: List.replicate 15 (.resume 2 {})

theorem decided_pot_collected_reported :
    ∃ (s : System Cycle (Task Cycle CycleOp Reply Unit CycleCall)) (g : ℕ), s.store.Decided g ∧
      Funded s.store.services.chain g ∧
        (s.store.Queued g ∨ s.store.Selected g ∨ s.store.Staged g) := by
  have hrun : openedProgram.passes (fun chain =>
      ((cycle settler).processes.actsWhen (Collects settler 7) (queuedLobby chain)
        reportedMatch).any fun s =>
          decide (s.store.Decided 7 ∧ Funded s.store.services.chain 7)) = true := by
    decide
  obtain ⟨chain, -, htest⟩ := Result.passes_iff.mp hrun
  obtain ⟨s, hs, htest⟩ :=
    (cycle settler).processes.reachable_of_actsWhen (queuedLobby_start chain) htest
  obtain ⟨hdecided, hfunded⟩ := of_decide_eq_true htest
  exact ⟨s, 7, hdecided, hfunded, decided_pot_collected hs hdecided hfunded⟩

/-- Up to the confirmation of the game. -/
def BeforeConfirmed (deps : SettleDeps) (g : ℕ)
    (s : System Cycle (Task Cycle CycleOp Reply Unit CycleCall))
    (a : Act (Task Cycle CycleOp Reply Unit CycleCall) Reply CycleEvent) : Prop :=
  ∀ s' ∈ (cycle deps).processes.act s a,
    ¬Confirmed s.store.services g ∧ ¬Confirmed s'.store.services g

instance (deps : SettleDeps) (g : ℕ) (s : System Cycle (Task Cycle CycleOp Reply Unit CycleCall))
    (a : Act (Task Cycle CycleOp Reply Unit CycleCall) Reply CycleEvent) :
    Decidable (BeforeConfirmed deps g s a) := by
  unfold BeforeConfirmed
  infer_instance

/-- The ledger returned stakes of the game. -/
def Refunded (db : Database) (gameId : ℕ) : Prop :=
  db.transactions.any fun p => decide (p.row.gameId = some gameId) && decide (p.row.type = .refund)

instance (db : Database) (gameId : ℕ) : Decidable (Refunded db gameId) := by
  unfold Refunded
  infer_instance

/-- One read of the vault fails: the pot counts as nothing, the game as completed, and it leaves
the queue with both fees in its vault. -/
theorem decided_pot_collected_unread : ¬∀ s,
    Reachable (Guarded (cycle settler).processes.Step (BeforeConfirmed settler 7)) CycleStart s →
      s.store.Decided 7 → Funded s.store.services.chain 7 →
        s.store.Queued 7 ∨ s.store.Selected 7 ∨ s.store.Staged 7 ∨
          Refunded s.store.services.database 7 := by
  intro h
  have hrun : openedProgram.passes (fun chain =>
      ((cycle settler).processes.actsWhen (BeforeConfirmed settler 7) (queuedLobby chain)
        (reportedMatch ++ unreadVault)).any fun s =>
          decide (s.store.Decided 7 ∧ Funded s.store.services.chain 7 ∧
            ¬(s.store.Queued 7 ∨ s.store.Selected 7 ∨ s.store.Staged 7 ∨
              Refunded s.store.services.database 7))) = true := by
    decide +kernel
  obtain ⟨chain, -, htest⟩ := Result.passes_iff.mp hrun
  obtain ⟨s, hs, htest⟩ :=
    (cycle settler).processes.reachable_of_actsWhen (queuedLobby_start chain) htest
  obtain ⟨hdecided, hfunded, hlost⟩ := of_decide_eq_true htest
  exact hlost (h s hs hdecided hfunded)

end Runs

end SnakeArena.Worker
