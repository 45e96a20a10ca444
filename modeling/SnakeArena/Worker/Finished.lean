import SnakeArena.Worker.Collected
import SnakeArena.Worker.Walks

/-!
# Worker — finished games

The stages and the settlement write a game's row by its id, whatever its status is by then.
`settleGame` and `cancelGameAndRefund` look at the status first, in a read of its own;
`create-pool` and `close-lobby` never do.  So a game that is over stays so when no other call of it
is under way as it ends, and the stages that come later find nobody to play.

* `quits_settles`, `quits_commit`: what ends a game is the last thing that its call writes to it.
* `stands_settleGame`, `stands_closeLobby`, `stands_createPool`, `stands_cancelGameAndRefund`: what
  a call finds at first when the game is over, and then leaves it.
* `apart_program`: so does whatever runs in the worker.
* `finished_stays`: every run.
-/

namespace SnakeArena.Worker
open SnakeArena.Library SnakeArena.Db SnakeArena.Program SnakeArena.Books

/-! ### Rows -/

/-- Settled, or cancelled. -/
def Finished (game : Game) : Prop := game.status = .completed ∨ game.status = .cancelled

instance : DecidablePred Finished := fun game => by unfold Finished; infer_instance

/-- The columns that say how a game ended. -/
def columns (game : Game) : GameStatus × ℤ × SettlementStatus :=
  (game.status, game.potLamports, game.settlementStatus)

/-- A completed game is paid or had no pot, and a cancelled one has nothing to settle. -/
inductive Final : GameStatus × ℤ × SettlementStatus → Prop
  | paid (pot : ℤ) : Final (.completed, pot, .confirmed)
  | free (pot : ℤ) : Final (.completed, pot, .notRequired)
  | cancelled (pot : ℤ) : Final (.cancelled, pot, .notRequired)

def Services.game (s : Services) (gameId : ℕ) : Option Game := s.database.games.get gameId

/-- The game is over. -/
def Over (g : ℕ) (s : Services) : Prop := ∃ game ∈ s.game g, Finished game

/-- Its row shows these columns. -/
def Shows (g : ℕ) (ended : GameStatus × ℤ × SettlementStatus) (s : Services) : Prop :=
  (s.game g).map columns = some ended

instance (g : ℕ) (s : Services) : Decidable (Over g s) := by unfold Over; infer_instance

section Rows
variable {g gameId : ℕ} {s v : Services} {ended : GameStatus × ℤ × SettlementStatus}

theorem Finished.congr {game game' : Game} (h : columns game' = columns game) :
    Finished game' ↔ Finished game := by
  have hstatus : game'.status = game.status := congrArg Prod.fst h
  rw [Finished, Finished, hstatus]

/-- A row that shows a final status is over. -/
theorem Shows.over (h : Shows g ended s) (hended : Final ended) : Over g s := by
  obtain ⟨game, hgame, rfl⟩ := Option.map_eq_some_iff.mp h
  refine ⟨game, hgame, ?_⟩
  generalize hcolumns : columns game = ended at hended
  cases hended with
  | paid | free => exact .inl (congrArg Prod.fst hcolumns)
  | cancelled => exact .inr (congrArg Prod.fst hcolumns)

/-- Whether a game is over is read off its row. -/
theorem Over.congr (h : v.game g = s.game g) : Over g v ↔ Over g s := by rw [Over, Over, h]

theorem Shows.congr (h : v.game g = s.game g) : Shows g ended v ↔ Shows g ended s := by
  rw [Shows, Shows, h]

/-- A write by id changes the row it names, and no other. -/
theorem game_updateGame {data : Game → Game} (h : s.updateGame gameId data = some v) :
    v.game g = if g = gameId then (s.game g).map data else s.game g := by
  obtain ⟨game, hgame, rfl⟩ := Option.map_eq_some_iff.mp h
  simp only [Services.game, Table.get_upd]
  split
  next e => rw [e, hgame, Option.map_some]
  · rfl

/-- What is written to a row before the end does not end it. -/
theorem over_updateGame {u : GameUpdate} (h : s.updateGame gameId u.data = some v)
    (hover : ¬Over g s) : ¬Over g v := by
  have hrow := game_updateGame (g := g) h
  by_cases e : g = gameId
  · rintro ⟨game', hgame', hfinished⟩
    rw [hrow, if_pos e] at hgame'
    obtain ⟨game, hgame, rfl⟩ := Option.map_eq_some_iff.mp hgame'
    have hopen : ¬Finished game := fun h => hover ⟨game, hgame, h⟩
    cases u with
    | running => rcases hfinished with h | h <;> cases h
    | touched | opened | pot | pending | failed | recorded => exact hopen hfinished
  · rw [if_neg e] at hrow
    exact (Over.congr hrow).not.mpr hover

/-- The row that `finishGame` writes. -/
theorem shows_finishGame {paid : Bool} {signature : Option String}
    (h : s.updateGame gameId (fun game =>
      { game with
        status := .completed
        settlementStatus := bif paid then .confirmed else .notRequired
        settlementSignature := signature <|> game.settlementSignature
        settlementError := none }) = some v)
    (hover : ¬Over g s) (hover' : Over g v) : ∃ ended, Final ended ∧ Shows g ended v := by
  have hrow := game_updateGame (g := g) h
  by_cases e : g = gameId
  · obtain ⟨game', hgame', -⟩ := hover'
    rw [hrow, if_pos e] at hgame'
    obtain ⟨game, hgame, rfl⟩ := Option.map_eq_some_iff.mp hgame'
    cases paid with
    | true => exact ⟨_, .paid game.potLamports, by rw [Shows, hrow, if_pos e, hgame]; rfl⟩
    | false => exact ⟨_, .free game.potLamports, by rw [Shows, hrow, if_pos e, hgame]; rfl⟩
  · rw [if_neg e] at hrow
    exact absurd ((Over.congr hrow).mp hover') hover

end Rows

/-! ### Commits -/

section Commits
variable {gameId : ℕ} {statements : List Statement} {db view : Database}

/-- The statement that cancels leaves the pot, and says that nothing is to be settled. -/
theorem exec_cancelled {b : Statement} {game : Game} (h : Database.exec b db = .ok view)
    (hb : cancels b = some gameId) (hgame : db.games.get gameId = some game) :
    ∃ game', view.games.get gameId = some game' ∧
      columns game' = (.cancelled, game.potLamports, .notRequired) := by
  cases b with
  | cancelGame gameId' reason =>
      obtain rfl := Option.some.inj hb
      simp only [Database.exec, hgame] at h
      obtain rfl := Except.ok.inj h
      exact ⟨_, Table.get_upd_same _ _ _, rfl⟩
  | _ => cases hb

/-- A commit leaves a row, or cancels its game with the pot that it had. -/
theorem runAll_row {game : Game} (h : runAll Database.exec statements db = .ok view)
    (hgame : db.games.get gameId = some game) : ∃ game', view.games.get gameId = some game' ∧
      (columns game' = columns game ∨
        columns game' = (.cancelled, game.potLamports, .notRequired)) := by
  induction statements generalizing db game with
  | nil =>
      obtain rfl := Except.ok.inj h
      exact ⟨game, hgame, .inl rfl⟩
  | cons b statements ih =>
      obtain ⟨mid, hb, hrest⟩ := runAll_cons.mp h
      by_cases hcancels : cancels b = some gameId
      · obtain ⟨game₁, hgame₁, hcolumns⟩ := exec_cancelled hb hcancels hgame
        have hpot : game₁.potLamports = game.potLamports := congrArg (·.2.1) hcolumns
        obtain ⟨game', hgame', h'⟩ := ih hrest hgame₁
        rw [hcolumns, hpot] at h'
        exact ⟨game', hgame', .inr (h'.elim id id)⟩
      · exact ih hrest ((exec_games hb hcancels).trans hgame)

/-- No statement brings a row of the game into being. -/
theorem runAll_no_row (h : runAll Database.exec statements db = .ok view)
    (hgame : db.games.get gameId = none) : view.games.get gameId = none := by
  induction statements generalizing db with
  | nil =>
      obtain rfl := Except.ok.inj h
      exact hgame
  | cons b statements ih =>
      obtain ⟨mid, hb, hrest⟩ := runAll_cons.mp h
      refine ih hrest ?_
      by_cases hcancels : cancels b = some gameId
      · cases b with
        | cancelGame gameId' reason =>
            obtain rfl := Option.some.inj hcancels
            simp only [Database.exec, hgame] at hb
            cases hb
        | _ => cases hcancels
      · exact (exec_games hb hcancels).trans hgame

variable {g : ℕ} {s : Services} {ended : GameStatus × ℤ × SettlementStatus} {database : Database}

/-- A commit that ends a game cancels it. -/
theorem shows_commit (h : runAll Database.exec statements s.database = .ok database)
    (hover : ¬Over g s) (hover' : Over g { s with database }) :
    ∃ ended, Final ended ∧ Shows g ended { s with database } := by
  cases hgame : s.game g with
  | none =>
      obtain ⟨game', hgame', -⟩ := hover'
      cases (runAll_no_row h hgame).symm.trans hgame'
  | some game =>
      obtain ⟨game', hgame', hcolumns⟩ := runAll_row h hgame
      have hrow : ({ s with database } : Services).game g = some game' := hgame'
      obtain hsame | hcancelled := hcolumns
      · obtain ⟨game₁, hgame₁, hfinished⟩ := hover'
        obtain rfl := Option.some.inj (hgame₁.symm.trans hrow)
        exact absurd ⟨game, hgame, (Finished.congr hsame).mp hfinished⟩ hover
      · exact ⟨_, .cancelled game.potLamports, by rw [Shows, hrow, Option.map_some, hcancelled]⟩

/-- A commit leaves a cancelled game as it is. -/
theorem commit_shows {pot : ℤ} (h : runAll Database.exec statements s.database = .ok database)
    (hs : Shows g (.cancelled, pot, .notRequired) s) :
    Shows g (.cancelled, pot, .notRequired) { s with database } := by
  obtain ⟨game, hgame, hcolumns⟩ := Option.map_eq_some_iff.mp hs
  obtain ⟨game', hgame', h'⟩ := runAll_row h hgame
  have hrow : ({ s with database } : Services).game g = some game' := hgame'
  have hpot : game.potLamports = pot := congrArg (·.2.1) hcolumns
  rw [hcolumns, hpot] at h'
  rw [Shows, hrow, Option.map_some, h'.elim id id]

end Commits

/-! ### The books of a settlement and of a cancellation -/

/-- Nothing follows a commit. -/
def CommitsLast : Books.Prog → Prop
  | .done => True
  | .read f => ∀ view, CommitsLast (f view)
  | .execute _ f => CommitsLast (f none)
  | .commit _ next => next = .done
  | .ask f => ∀ c, CommitsLast (f c)

section Books
variable {gameId : ℕ}

/-- A settlement moves money: none of its statements cancels a game. -/
theorem settlePayments_money {rake : ℤ} {escrow : PoolAccount} {payouts : List (ℕ × ℤ)} :
    ∀ {payments : List Payment},
      Executes (cancels · = none) (settlePayments gameId rake escrow payments payouts) := by
  induction payouts with
  | nil =>
      intro payments
      have finish : ∀ rake : Option Rake, Executes (cancels · = none)
          (.run (updateEscrow gameId escrow
              (escrow.balanceLamports - paymentsTotal payments - rakeTotal rake)) <|
            .commit (.settle gameId payments rake escrow) .done) := fun _ => ⟨rfl, trivial⟩
      rw [settlePayments, settleRake]
      dsimp only
      split
      · refine executes_findAccount fun found => ?_
        cases found with
        | none => exact finish none
        | some account =>
            exact executes_uuid fun id => executes_run rfl (executes_run rfl (finish _))
      · exact finish none
  | cons payout payouts ih =>
      intro payments
      rw [settlePayments]
      refine executes_findAccount fun found => ?_
      cases found with
      | none => exact ih
      | some custody => exact executes_uuid fun id => executes_run rfl (executes_run rfl ih)

/-- A settlement cancels no game. -/
theorem postSettlementLedger_money {payouts : List (ℕ × ℤ)} {rake : ℤ} :
    Executes (cancels · = none) (postSettlementLedger gameId payouts rake) := by
  refine executes_findAccount fun found => ?_
  cases found with
  | none => trivial
  | some escrow =>
      intro view
      dsimp only
      split
      · trivial
      · exact settlePayments_money

/-- An id that is drawn stands for no statement. -/
theorem commitsLast_uuid {k : ℕ → Books.Prog} (h : ∀ id, CommitsLast (k id)) :
    CommitsLast (uuid k) := by
  intro c
  cases c with
  | uuid id => exact h id
  | wallet | locked | notVisible | verified | unverified => trivial

variable {reason : String} {escrow : PoolAccount}

/-- The loop over the players commits after its last payment only. -/
theorem refundPayments_last {owed : List (ℕ × ℤ)} : ∀ {payments : List Payment},
    CommitsLast (refundPayments gameId reason escrow payments owed) := by
  induction owed with
  | nil =>
      intro payments
      rw [refundPayments]
      split <;> exact rfl
  | cons payment owed ih =>
      intro payments
      rw [refundPayments]
      intro view
      dsimp only
      split
      · exact commitsLast_uuid fun _ => ih
      · exact commitsLast_uuid fun _ => ih

/-- A refund cancels its own game at most, in its last statement. -/
theorem refundPayments_cancels {owed : List (ℕ × ℤ)} : ∀ {payments : List Payment},
    Executes (fun b => cancels b = none ∨ cancels b = some gameId)
      (refundPayments gameId reason escrow payments owed) := by
  induction owed with
  | nil =>
      intro payments
      rw [refundPayments]
      split
      · exact ⟨.inr rfl, trivial⟩
      · exact ⟨.inl rfl, .inr rfl, trivial⟩
  | cons payment owed ih =>
      intro payments
      rw [refundPayments]
      refine executes_findAccount fun found => ?_
      cases found with
      | some custody =>
          exact executes_uuid fun _ => executes_run (.inl rfl) (executes_run (.inl rfl) ih)
      | none =>
          refine executes_run (.inl rfl) (executes_uuid fun _ => ?_)
          exact executes_run (.inl rfl) (executes_run (.inl rfl) ih)

/-- A cancellation commits once, and cancels no other game. -/
theorem cancelGameAndRefund_last : CommitsLast (cancelGameAndRefund gameId reason) := by
  intro db
  dsimp only
  split
  · trivial
  · split
    · trivial
    · intro db
      dsimp only
      split
      · exact rfl
      · intro db
        dsimp only
        split
        · trivial
        · intro db
          dsimp only
          split
          · trivial
          · exact refundPayments_last

/-- What the refund call executes on the rows of games is the cancel of its own. -/
theorem cancelGameAndRefund_cancels :
    Executes (fun b => cancels b = none ∨ cancels b = some gameId)
      (cancelGameAndRefund gameId reason) := by
  intro db
  dsimp only
  split
  · trivial
  · split
    · trivial
    · refine executes_findAccount fun found => ?_
      cases found with
      | none => exact executes_run (.inr rfl) trivial
      | some escrow =>
          intro db
          dsimp only
          split
          · trivial
          · intro db
            dsimp only
            split
            · trivial
            · exact refundPayments_cancels

end Books

/-! ### Functions of the services -/

/-- It never writes the row of the game. -/
abbrev Aloof (g : ℕ) (prog : Prog) : Prop :=
  Does (fun _ _ _ _ => True) (fun s s' => s'.game g = s.game g) (fun _ => True) prog

/-- It leaves the row of a game that ended so. -/
abbrev Leaves (g : ℕ) (ended : GameStatus × ℤ × SettlementStatus) (prog : Prog) : Prop :=
  Does (fun s _ _ _ => Shows g ended s) (fun s s' => Shows g ended s → Shows g ended s')
    (fun _ => True) prog

/-- When it ends the game, the game is over in good order, and what follows leaves the row. -/
def Quits (g : ℕ) : Prog → Prop
  | .returns _ => True
  | .throws => True
  | .await _ act k => ∀ s c,
      (¬Over g s → Over g (act s c) →
        (∃ ended, Final ended ∧ Shows g ended (act s c)) ∧ Aloof g (k s c)) ∧
      Quits g (k s c)

section Functions
variable {g gameId : ℕ} {throw k : Prog}

/-- An instruction that lands is the chain's, and leaves the rows. -/
theorem game_land {rt : Runtime} {now : ℤ} {i : Instruction} {s : Services} :
    (s.land rt now i).game g = s.game g := by
  unfold Services.land
  split <;> rfl

theorem game_upsertEscrow {s : Services} : (s.upsertEscrow gameId).game g = s.game g := by
  unfold Services.upsertEscrow
  split <;> rfl

/-! ### Other games -/

/-- A write that leaves the row, with branches that do. -/
theorem aloof_write {f : Services → Option Services}
    (hf : ∀ s v, f s = some v → v.game g = s.game g) (hthrow : Aloof g throw) (hk : Aloof g k) :
    Aloof g (write f throw k) :=
  does_write (fun _ => rfl) hthrow hf fun _ _ _ _ _ => hk

/-- A write of another game's row. -/
theorem aloof_updateGame (hne : g ≠ gameId) {data : Game → Game} (hthrow : Aloof g throw)
    (hk : Aloof g k) : Aloof g (updateGame gameId data throw k) :=
  aloof_write (fun _ _ hv => (game_updateGame hv).trans (if_neg hne)) hthrow hk

/-- Sending an instruction, with all its retries, writes no row. -/
theorem aloof_send {rt : Runtime} {op : Op} {i : Instruction} {k : Except Failure String → Prog}
    {attempts : ℕ} (hk : ∀ r, Aloof g (k r)) : Aloof g (sendSigned rt op i k attempts) :=
  does_sendSigned (T := fun s s' => s'.game g = s.game g) (fun _ => rfl) (fun _ _ => game_land) hk

/-- A transaction that does not cancel the game. -/
theorem aloof_transaction {t : Books.Prog} (ht : Executes (cancels · ≠ some g) t)
    (hthrow : Aloof g throw) (hk : Aloof g k) : Aloof g (transaction throw k t []) :=
  does_commits (T := fun s s' => s'.game g = s.game g) (fun _ => rfl) hthrow
    (fun _ _ _ hb hrun => runAll_games hrun hb) hk ht fun _ h => absurd h List.not_mem_nil

/-- The leaderboard has rows of its own. -/
theorem aloof_updateLeaderboard {standings : List ReportedStanding} (hthrow : Aloof g throw)
    (hk : Aloof g k) : Aloof g (updateLeaderboard throw standings k) := by
  refine walk_updateLeaderboard (fun hk s c _ => ⟨rfl, hk s c⟩) (fun hf => aloof_write ?_) hthrow hk
  intro s v hv
  obtain ⟨-, -, -, -, rfl⟩ := hf s v hv
  rfl

theorem executes_mono {P Q : Statement → Prop} (h : ∀ b, P b → Q b) {t : Books.Prog}
    (ht : Executes P t) : Executes Q t := by
  induction t with
  | done => trivial
  | read f ih => exact fun view => ih view (ht view)
  | execute b f ih => exact ⟨h b ht.1, ih none ht.2⟩
  | commit l next ih => exact ih ht
  | ask f ih => exact fun c => ih c (ht c)

/-- What a call for one game awaits leaves the row of another. -/
theorem aloof_settles {rt : Runtime} (hne : g ≠ gameId) :
    Settles rt gameId (Aloof g) (Aloof g) where
  look hk s c _ := ⟨rfl, hk s c⟩
  update _ := aloof_updateGame hne
  finish _ := aloof_updateGame hne
  standing := aloof_write fun _ _ hv => Option.some.inj hv ▸ rfl
  reward := aloof_write fun s v hv => by
    split at hv <;> obtain rfl := Option.some.inj hv <;> rfl
  escrow := aloof_write fun _ _ hv => Option.some.inj hv ▸ game_upsertEscrow
  send _ := aloof_send
  ledger := aloof_transaction (executes_mono (fun b hb => by rw [hb]; exact nofun)
    postSettlementLedger_money)

/-! ### The end of a game -/

/-- A program that leaves the row does not end the game. -/
theorem quits_of_aloof {prog : Prog} (h : Aloof g prog) : Quits g prog := by
  induction prog with
  | returns => trivial
  | throws => trivial
  | await op act k ih =>
      intro s c
      obtain ⟨hrow, hrest⟩ := h s c trivial
      exact ⟨fun hover hover' => absurd ((Over.congr hrow).mp hover') hover, ih s c hrest⟩

/-- One await that does not end the game, and goes on with a program that may. -/
theorem quits_await {op : Op} {act : Services → Reply → Services} {k : Services → Reply → Prog}
    (hact : ∀ s c, ¬Over g s → ¬Over g (act s c)) (hk : ∀ s c, Quits g (k s c)) :
    Quits g (.await op act k) :=
  fun s c => ⟨fun hover hover' => absurd hover' (hact s c hover), hk s c⟩

/-- A read ends nothing. -/
theorem quits_look {op : Op} {k : Services → Reply → Prog} (hk : ∀ s c, Quits g (k s c)) :
    Quits g (.await op (fun s _ => s) k) := quits_await (fun _ _ hover => hover) hk

/-- A write that ends nothing goes on; its throw has to quit too. -/
theorem quits_write {f : Services → Option Services}
    (hf : ∀ s v, f s = some v → ¬Over g s → ¬Over g v) (hthrow : Quits g throw)
    (hk : Quits g k) : Quits g (write f throw k) := by
  refine quits_await (fun s c hover => ?_) fun s c => ?_
  · split
    · exact hover
    · cases hv : f s with
      | none => exact hover
      | some v => exact hf s v hv hover
  · split
    · exact hk
    · exact hthrow

/-- A write that leaves the row is no end of the game. -/
theorem quits_aside {f : Services → Option Services}
    (hf : ∀ s v, f s = some v → v.game g = s.game g) (hthrow : Quits g throw) (hk : Quits g k) :
    Quits g (write f throw k) :=
  quits_write (fun s v hv => (Over.congr (hf s v hv)).not.mpr) hthrow hk

/-- The write that ends the game is the last that its call makes of the row. -/
theorem quits_finish (paid : Bool) {signature : Option String} (hthrow : Aloof g throw)
    (hk : Aloof g k) : Quits g
      (finishGame gameId throw (bif paid then .confirmed else .notRequired) signature k) := by
  have rest : ∀ (c : Reply) (v : Option Services),
      Aloof g (if c.arrival = .answered ∧ v.isSome = true then k else throw) := by
    intro c v
    split
    · exact hk
    · exact hthrow
  intro s c
  refine ⟨fun hover hover' => ⟨?_, rest c _⟩, quits_of_aloof (rest c _)⟩
  dsimp only at hover' ⊢
  split at hover'
  · exact absurd hover' hover
  next harrival =>
      rw [if_neg harrival]
      generalize hf : Services.updateGame gameId _ s = found at hover' ⊢
      cases found with
      | none => exact absurd hover' hover
      | some v => exact shows_finishGame hf hover hover'

/-- A send ends nothing, whatever it answers, so what follows it is what counts. -/
theorem quits_send {rt : Runtime} {op : Op} {i : Instruction} {k : Except Failure String → Prog}
    (hk : ∀ r, Quits g (k r)) : ∀ {attempts : ℕ}, Quits g (sendSigned rt op i k attempts)
  | 0 => hk _
  | attempts + 1 => by
      refine quits_await (fun s c hover => ?_) fun s c => ?_
      · split
        · exact hover
        · exact (Over.congr game_land).not.mpr hover
      · split_ifs
        · exact hk _
        · exact quits_send hk
        · exact hk _

theorem quits_updateLeaderboard {standings : List ReportedStanding} (hthrow : Quits g throw)
    (hk : Quits g k) : Quits g (updateLeaderboard throw standings k) := by
  refine walk_updateLeaderboard quits_look (fun hf => quits_aside ?_) hthrow hk
  intro s v hv
  obtain ⟨-, -, -, -, rfl⟩ := hf s v hv
  rfl

/-- A transaction that cancels nothing. -/
theorem quits_ledger (hthrow : Quits g throw) (hk : Quits g k) {t : Books.Prog} :
    ∀ {pending : List Statement}, Executes (cancels · = none) t →
      (∀ b ∈ pending, cancels b = none) → Quits g (transaction throw k t pending) := by
  induction t with
  | done => exact fun _ _ => hk
  | read f ih =>
      intro pending ht hpending
      rw [transaction]
      refine quits_look fun s c => ?_
      split
      · exact ih _ (ht _) hpending
      · exact hthrow
  | execute b f ih =>
      intro pending ht hpending
      rw [transaction]
      refine quits_look fun s c => ?_
      split
      · refine ih none ht.2 ?_
        exact List.forall_mem_append.mpr ⟨hpending, List.forall_mem_singleton.mpr ht.1⟩
      · exact hthrow
  | commit l next ih =>
      intro pending ht hpending
      rw [transaction]
      have kept : ∀ {s : Services} {database : Database},
          runAll Database.exec pending s.database = .ok database → ¬Over g s →
            ¬Over g { s with database } := by
        intro s database hrun
        refine (Over.congr (runAll_games hrun fun b hb => ?_)).not.mpr
        rw [hpending b hb]
        exact Option.some_ne_none _ |>.symm
      refine quits_await (fun s c hover => ?_) fun s c => ?_
      · split
        next hrun => exact kept hrun hover
        next hrun => exact kept hrun hover
        · exact hover
      · split
        · exact ih ht fun _ h => absurd h List.not_mem_nil
        · exact hthrow
  | ask f ih =>
      intro pending ht hpending
      rw [transaction]
      exact quits_look fun s c => ih _ (ht _) hpending

/-- A transaction that ends with its commit. -/
theorem quits_commit (hthrow : Aloof g throw) (hk : Aloof g k) {t : Books.Prog} :
    ∀ {pending : List Statement}, CommitsLast t → Quits g (transaction throw k t pending) := by
  induction t with
  | done => exact fun _ => quits_of_aloof hk
  | read f ih =>
      intro pending ht
      rw [transaction]
      refine quits_look fun s c => ?_
      split
      · exact ih _ (ht _)
      · exact quits_of_aloof hthrow
  | execute b f ih =>
      intro pending ht
      rw [transaction]
      refine quits_look fun s c => ?_
      split
      · exact ih none ht
      · exact quits_of_aloof hthrow
  | commit l next =>
      intro pending ht
      obtain rfl : next = .done := ht
      rw [transaction]
      intro s c
      refine ⟨fun hover hover' => ⟨?_, ?_⟩, quits_of_aloof ?_⟩
      · dsimp only at hover' ⊢
        split at hover'
        next hrun => exact shows_commit hrun hover hover'
        next hrun => exact shows_commit hrun hover hover'
        · exact absurd hover' hover
      all_goals
        dsimp only
        split
        · exact hk
        · exact hthrow
  | ask f ih =>
      intro pending ht
      rw [transaction]
      exact quits_look fun s c => ih _ (ht _)

/-- **What a call for the game awaits**: only `finishGame` ends it, and nothing is written after
that. -/
theorem quits_settles {rt : Runtime} : Settles rt g (Quits g) (Aloof g) where
  look := quits_look
  update _ := quits_write fun _ _ hv => over_updateGame hv
  finish paid := quits_finish paid
  standing := quits_aside fun s v hv => Option.some.inj hv ▸ rfl
  reward := quits_aside fun s v hv => by
    split at hv <;> obtain rfl := Option.some.inj hv <;> rfl
  escrow := quits_aside fun s v hv => Option.some.inj hv ▸ game_upsertEscrow
  send _ hk := quits_send hk
  ledger hthrow hk := quits_ledger hthrow hk postSettlementLedger_money fun _ h =>
    absurd h List.not_mem_nil

variable {deps : SettleDeps} {tier : Tier} {roomTier : RoomTier}

/-- What the players are told is not written. -/
theorem aloof_notify (hk : Aloof g k) : Aloof g (notifyPlayers k) := does_notify (fun _ => rfl) hk

/-- **A settlement writes the row last when it ends the game**, with its status. -/
theorem quits_settleGame : Quits g (settleGame deps g .throws fun o => .returns (.settle g o)) :=
  quits_settles.settleGame (fun _ _ hk => quits_updateLeaderboard trivial hk) trivial
    (fun _ => trivial) trivial (fun _ => trivial) (fun _ => aloof_notify trivial) fun _ _ =>
      aloof_updateLeaderboard trivial (aloof_notify trivial)

/-- The launch ends no game. -/
theorem quits_closeLobby :
    Quits g (closeLobby deps tier g .throws fun r => .returns (.stage r)) :=
  quits_settles.closeLobby trivial fun _ => trivial

/-- The creation of the pool ends no game. -/
theorem quits_createPool :
    Quits g (StageHandlers.createPool deps roomTier g .throws fun r => .returns (.stage r)) :=
  quits_settles.createPool trivial fun _ => trivial

/-- A settlement of another game. -/
theorem aloof_settleGame (hne : g ≠ gameId) :
    Aloof g (settleGame deps gameId .throws fun o => .returns (.settle gameId o)) :=
  (aloof_settles hne).settleGame (fun _ _ hk => aloof_updateLeaderboard trivial hk) trivial
    (fun _ => trivial) trivial (fun _ => trivial) (fun _ => aloof_notify trivial) fun _ _ =>
      aloof_updateLeaderboard trivial (aloof_notify trivial)

/-- A launch of another game. -/
theorem aloof_closeLobby (hne : g ≠ gameId) :
    Aloof g (closeLobby deps tier gameId .throws fun r => .returns (.stage r)) :=
  (aloof_settles hne).closeLobby trivial fun _ => trivial

/-- A pool of another game. -/
theorem aloof_createPool (hne : g ≠ gameId) :
    Aloof g (StageHandlers.createPool deps roomTier gameId .throws fun r =>
      .returns (.stage r)) :=
  (aloof_settles hne).createPool trivial fun _ => trivial

/-- Opening a room on the chain writes no row. -/
theorem aloof_openRoom {authority : Pubkey} {failed : Failure → Prog} {found created : Prog}
    (hfailed : ∀ e, Aloof g (failed e)) (hfound : Aloof g found) (hcreated : Aloof g created) :
    Aloof g (StageHandlers.openRoom deps authority roomTier gameId failed found created) := by
  intro s c _
  refine ⟨rfl, ?_⟩
  dsimp only
  split
  · split
    · exact hfound
    · refine aloof_send fun r => ?_
      split
      · exact hcreated
      · exact hfailed _
  · exact hfailed _

end Functions

/-! ### Calls for a game that is over -/

/-- What the call finds at first, when the game is over and the call is to leave it. -/
def GameCall.Rests (g : ℕ) (s : Services) : GameCall → Prop
  | .createPool tierId => (s.lobbies.get tierId).getD 0 = 0
  | .closeLobby tierId minPlayers => ∀ players ∈ s.lobbies.get tierId, players < minPlayers
  | .settleGame => ∀ game ∈ s.game g, game.status = .completed → game.settlementStatus = .confirmed
  | .cancelGameAndRefund => True

instance (g : ℕ) (s : Services) (call : GameCall) : Decidable (call.Rests g s) :=
  match call with
  | .createPool tierId => inferInstanceAs (Decidable ((s.lobbies.get tierId).getD 0 = 0))
  | .closeLobby tierId minPlayers =>
      inferInstanceAs (Decidable (∀ players ∈ s.lobbies.get tierId, players < minPlayers))
  | .settleGame => inferInstanceAs (Decidable
      (∀ game ∈ s.game g, game.status = .completed → game.settlementStatus = .confirmed))
  | .cancelGameAndRefund => .isTrue trivial

/-- Called when the game is over, the function leaves the row. -/
def Stands (g : ℕ) (call : GameCall) : Prog → Prop
  | .returns _ => True
  | .throws => True
  | .await _ act k => ∀ ended, Final ended → ∀ s c, Shows g ended s → call.Rests g s →
      (Shows g ended s → Shows g ended (act s c)) ∧ Leaves g ended (k s c)

section Calls
variable {g : ℕ} {ended : GameStatus × ℤ × SettlementStatus} {deps : SettleDeps} {throw k : Prog}
  {β : Type}

/-- A program that leaves the row keeps what the row shows. -/
theorem leaves_of_aloof {prog : Prog} (h : Aloof g prog) : Leaves g ended prog := by
  induction prog with
  | returns => trivial
  | throws => trivial
  | await op act k ih =>
      intro s c _
      obtain ⟨hrow, hrest⟩ := h s c trivial
      exact ⟨(Shows.congr hrow).mpr, ih s c hrest⟩

/-- A call that reads first, and finds the game as it ended. -/
theorem stands_read {call : GameCall} {f : Services → β} {k : β → Prog}
    (hk : ∀ ended, Final ended → ∀ s, Shows g ended s → call.Rests g s → Leaves g ended (k (f s)))
    (hthrow : ∀ ended, Leaves g ended throw) : Stands g call (read f throw k) := by
  intro ended hended s c hs hrests
  refine ⟨id, ?_⟩
  dsimp only
  split
  · exact hk ended hended s hs hrests
  · exact hthrow ended

/-- A confirmed game is not settled again, and a cancelled one is not settled. -/
theorem stands_settleGame :
    Stands g .settleGame (settleGame deps g .throws fun o => .returns (.settle g o)) := by
  refine stands_read (fun ended hended s hs hrests => ?_) fun _ => trivial
  obtain ⟨game, hgame, hcolumns⟩ := Option.map_eq_some_iff.mp hs
  have hfinished := hs.over hended
  rw [show s.database.games.get g = some game from hgame]
  dsimp only
  split_ifs with hconfirmed hcancelled
  · trivial
  · trivial
  · obtain ⟨game', hgame', h | h⟩ := hfinished
    · exact absurd (hrests game' hgame' h) (Option.some.inj (hgame'.symm.trans hgame) ▸ hconfirmed)
    · exact absurd h (Option.some.inj (hgame'.symm.trans hgame) ▸ hcancelled)

/-- A launch that finds the game as the condition asks has nothing to write. -/
theorem stands_closeLobby {tier : Tier} : Stands g (.closeLobby tier.id tier.minPlayers)
    (closeLobby deps tier g .throws fun r => .returns (.stage r)) := by
  unfold closeLobby
  dsimp only
  split
  · trivial
  · refine stands_read (fun ended _ s _ hrests => ?_) fun _ => trivial
    split
    · trivial
    next players hplayers =>
        rw [if_pos (hrests players hplayers)]
        trivial

/-- The same, of the pool. -/
theorem stands_createPool {tier : RoomTier} : Stands g (.createPool tier.id)
    (StageHandlers.createPool deps tier g .throws fun r => .returns (.stage r)) := by
  unfold StageHandlers.createPool
  split
  · trivial
  · refine stands_read (fun ended _ s _ hrests => ?_) fun _ => trivial
    rw [if_pos (show (s.lobbies.get tier.id).getD 0 = 0 from hrests)]
    trivial

/-- A completed game is not cancelled, and a cancelled one stays so. -/
theorem stands_cancelGameAndRefund {reason : String} (hthrow : Aloof g throw) (hk : Aloof g k) :
    Stands g .cancelGameAndRefund (transaction throw k (cancelGameAndRefund g reason) []) := by
  have hcommits : ∀ pot {t : Books.Prog},
      Leaves g (.cancelled, pot, .notRequired) (transaction throw k t []) := by
    intro pot t
    refine does_commits (fun _ => id) (leaves_of_aloof hthrow) (fun s statements database _ h => ?_)
      (leaves_of_aloof hk) executes_any fun _ _ => trivial
    exact commit_shows h
  rw [Books.cancelGameAndRefund, transaction]
  intro ended hended s c hs _
  refine ⟨id, ?_⟩
  obtain ⟨game, hgame, hcolumns⟩ := Option.map_eq_some_iff.mp hs
  dsimp only
  split
  next view _ hview =>
      obtain rfl := Except.ok.inj hview
      cases hended with
      | paid pot | free pot =>
          have hstatus : game.status = .completed := congrArg Prod.fst hcolumns
          rw [show s.database.games.get g = some game from hgame]
          dsimp only
          rw [if_pos hstatus]
          exact leaves_of_aloof hk
      | cancelled pot => exact hcommits pot
  · exact leaves_of_aloof hthrow

end Calls

/-! ### Functions of the cycle -/

/-- What an await finds when the game is over, where a call of the game begins with it. -/
def Fresh (g : ℕ) (s : Services) : CycleOp → Prop
  | .begins call gameId => gameId = g → Over g s → call.Rests g s
  | .goesOn _ | .report _ | .srem .. | .finish .. | .other => True

instance (g : ℕ) (s : Services) (op : CycleOp) : Decidable (Fresh g s op) :=
  match op with
  | .begins call gameId =>
      inferInstanceAs (Decidable (gameId = g → Over g s → call.Rests g s))
  | .goesOn _ | .report _ | .srem .. | .finish .. | .other => .isTrue trivial

/-- While the calls that begin find so, it leaves the row of a game that ended so. -/
abbrev Spares (g : ℕ) (ended : GameStatus × ℤ × SettlementStatus) (prog : CycleProg) : Prop :=
  Does (fun s op _ _ => Shows g ended s.services ∧ Fresh g s.services op)
    (fun s s' => Shows g ended s.services → Shows g ended s'.services) (fun _ => True) prog

/-- It spares the game unless it is in a call of it, and spares it when it ended the game itself. -/
def Fair (g : ℕ) : CycleProg → Prop
  | .returns _ => True
  | .throws => True
  | .await op act k =>
      (op ≠ .goesOn g → ∀ ended, Final ended → Spares g ended (.await op act k)) ∧
        ∀ s c,
          (¬Over g s.services → Over g (act s c).services →
            ∃ ended, Final ended ∧ Shows g ended (act s c).services ∧ Spares g ended (k s c)) ∧
          Fair g (k s c)

/-- A function that is in no call of the game. -/
structure Apart (g : ℕ) (prog : CycleProg) : Prop where
  spares : ∀ ended, Final ended → Spares g ended prog
  fair : Fair g prog

/-- The row keeps these columns; a new one is of a game that is not over. -/
def Kept : Option Game → Option Game → Prop
  | some game, some game' => columns game' = columns game
  | some _, none => False
  | none, some game' => ¬Finished game'
  | none, none => True

section Kept
variable {row row' row'' : Option Game} {g : ℕ} {s v : Services}
  {ended : GameStatus × ℤ × SettlementStatus}

theorem Kept.refl : ∀ row : Option Game, Kept row row
  | some _ => rfl
  | none => trivial

/-- What two steps in a row keep. -/
theorem Kept.trans (h : Kept row row') (h' : Kept row' row'') : Kept row row'' := by
  cases row' with
  | none =>
      cases row with
      | none => exact h'
      | some game => exact h.elim
  | some game' =>
      cases row'' with
      | none => exact h'.elim
      | some game'' =>
          cases row with
          | none => exact fun hfinished => h ((Finished.congr h').mp hfinished)
          | some game => exact Eq.trans h' h

/-- A row that is kept shows what it showed. -/
theorem Kept.shows (h : Kept (s.game g) (v.game g)) (hs : Shows g ended s) : Shows g ended v := by
  obtain ⟨game, hgame, rfl⟩ := Option.map_eq_some_iff.mp hs
  rw [hgame] at h
  cases hgame' : v.game g with
  | none => exact (hgame' ▸ h : Kept (some game) none).elim
  | some game' =>
      rw [Shows, hgame', Option.map_some]
      exact congrArg some (hgame' ▸ h : Kept (some game) (some game'))

/-- A row that is kept does not end its game. -/
theorem Kept.over (h : Kept (s.game g) (v.game g)) (hover : ¬Over g s) : ¬Over g v := by
  rintro ⟨game', hgame', hfinished⟩
  rw [show v.game g = some game' from hgame'] at h
  cases hgame : s.game g with
  | none => exact (hgame ▸ h : Kept none (some game')) hfinished
  | some game =>
      have hcolumns : columns game' = columns game :=
        (hgame ▸ h : Kept (some game) (some game'))
      exact hover ⟨game, hgame, (Finished.congr hcolumns).mp hfinished⟩

/-- An update of another column. -/
theorem kept_updateGame {gameId : ℕ} {data : Game → Game} (h : s.updateGame gameId data = some v)
    (hdata : ∀ game, columns (data game) = columns game) : Kept (s.game g) (v.game g) := by
  rw [game_updateGame h]
  split
  · cases s.game g with
    | none => trivial
    | some game => exact hdata game
  · exact .refl _

/-- The rooms of a tier are not the games' rows. -/
theorem kept_upsertRoom {tier : RoomTier} (s : Cycle) :
    Kept (s.services.game g) ((s.upsertRoom tier).services.game g) := by
  have rake : ∀ (games : List ℕ) (services : Services), Kept (services.game g)
      ((games.foldl
        (fun services gameId =>
          (services.updateGame gameId fun game => { game with rakeBps := tier.rakeBps }).getD
            services) services).game g) := by
    intro games
    induction games with
    | nil => exact fun services => .refl _
    | cons gameId games ih =>
        intro services
        rw [List.foldl_cons]
        refine Kept.trans ?_ (ih _)
        cases hu : services.updateGame gameId fun game => { game with rakeBps := tier.rakeBps } with
        | none => exact .refl _
        | some v => exact kept_updateGame hu fun _ => rfl
  exact rake _ s.services

/-- A new game is not over. -/
theorem kept_createGame {row : CatalogueRow} {nodeId : String} {s s' : Cycle}
    (h : s.createGame row nodeId = some s') : Kept (s.services.game g) (s'.services.game g) := by
  simp only [Cycle.createGame, Option.ite_none_left_eq_some] at h
  obtain ⟨hfree, h⟩ := h
  obtain rfl := Option.some.inj h
  by_cases e : g = row.gameId
  · subst e
    have hnone := Option.not_isSome_iff_eq_none.mp hfree
    simp only [Services.game, Table.get_upd_same, hnone]
    rintro (e | e) <;> cases e
  · simp only [Services.game, Table.get_upd_other e]
    exact .refl _

end Kept

section Apart
variable {g gameId : ℕ} {ended : GameStatus × ℤ × SettlementStatus} {deps : SettleDeps}
  {throw k : CycleProg} {β : Type}

theorem apart_returns : Apart g (.returns ()) := ⟨fun _ _ => trivial, trivial⟩

theorem apart_throws : Apart g .throws := ⟨fun _ _ => trivial, trivial⟩

/-- One await that keeps the row, and what goes on from it. -/
theorem apart_await {op : CycleOp} {act : Cycle → Reply → Cycle} {k : Cycle → Reply → CycleProg}
    (hact : ∀ s c, Kept (s.services.game g) ((act s c).services.game g))
    (hk : ∀ s c, Apart g (k s c)) : Apart g (.await op act k) := by
  have hspares : ∀ ended, Final ended → Spares g ended (.await op act k) :=
    fun ended hended s c _ => ⟨(hact s c).shows, (hk s c).spares ended hended⟩
  exact ⟨hspares, fun _ => hspares, fun s c =>
    ⟨fun hover hover' => absurd hover' ((hact s c).over hover), (hk s c).fair⟩⟩

theorem apart_look {f : Cycle → β} {k : β → CycleProg} (hthrow : Apart g throw)
    (hk : ∀ b, Apart g (k b)) : Apart g (look f throw k) := by
  refine apart_await (fun _ _ => .refl _) fun s c => ?_
  split
  · exact hk _
  · exact hthrow

/-- A change that keeps the row, with branches that do. -/
theorem apart_change {op : CycleOp} {f : Cycle → Cycle}
    (hf : ∀ s, Kept (s.services.game g) ((f s).services.game g)) (hthrow : Apart g throw)
    (hk : Apart g k) : Apart g (change op f throw k) := by
  refine apart_await (fun s c => ?_) fun s c => ?_
  · split
    · exact .refl _
    · exact hf s
  · split
    · exact hk
    · exact hthrow

/-- A function of the services that never writes the row. -/
theorem apart_within {op : CycleOp} {prog : Prog} {k : Outcome → CycleProg} (h : Aloof g prog)
    (hthrow : Apart g throw) (hk : ∀ o, Apart g (k o)) :
    Apart g (.within (·.services) (fun s services => { s with services }) op throw k prog) := by
  induction prog with
  | returns o => exact hk o
  | throws => exact hthrow
  | await _ act next ih =>
      refine apart_await (fun s c => ?_) fun s c => ih _ _ (h _ _ trivial).2
      rw [(h s.services c trivial).1]
      exact .refl _

/-- A call of the worker that leaves the row, inside a stage. -/
theorem apart_call {prog : Prog} {k : Outcome → CycleProg} (h : Aloof g prog)
    (hthrow : Apart g throw) (hk : ∀ o, Apart g (k o)) : Apart g (call prog throw k) :=
  apart_within h hthrow hk

/-- What a call keeps of a row, the stage around it keeps. -/
theorem spares_within {op : CycleOp} {prog : Prog} {k : Outcome → CycleProg}
    (h : Leaves g ended prog) (hthrow : Spares g ended throw) (hk : ∀ o, Spares g ended (k o)) :
    Spares g ended (.within (·.services) (fun s services => { s with services }) op throw k prog) :=
  Does.within hthrow (fun o _ => hk o) (fun _ _ _ _ hG => hG.1) (fun _ _ _ _ hT => hT) h

/-- In a call of the game. -/
theorem fair_within {prog : Prog} {k : Outcome → CycleProg} (h : Quits g prog)
    (hthrow : Apart g throw) (hk : ∀ o, Apart g (k o)) :
    Fair g (.within (·.services) (fun s services => { s with services }) (.goesOn g) throw k
      prog) := by
  induction prog with
  | returns o => exact (hk o).fair
  | throws => exact hthrow.fair
  | await _ act next ih =>
      refine ⟨fun hne => absurd rfl hne, fun s c => ?_⟩
      obtain ⟨hends, hrest⟩ := h s.services c
      refine ⟨fun hover hover' => ?_, ih _ _ hrest⟩
      obtain ⟨⟨ended, hended, hs⟩, haloof⟩ := hends hover hover'
      exact ⟨ended, hended, hs, spares_within (leaves_of_aloof haloof) (hthrow.spares ended hended)
        fun o => (hk o).spares ended hended⟩

/-- **A call for a game**, of this one or of another. -/
theorem apart_callFor {c : GameCall} {prog : Prog} {k : Outcome → CycleProg}
    (haloof : g ≠ gameId → Aloof g prog) (hquits : g = gameId → Quits g prog)
    (hstands : g = gameId → Stands g c prog) (hthrow : Apart g throw) (hk : ∀ o, Apart g (k o)) :
    Apart g (callFor c gameId prog throw k) := by
  cases prog with
  | returns o => exact hk o
  | throws => exact hthrow
  | await op act next =>
      by_cases e : g = gameId
      · subst e
        have hspares : ∀ ended, Final ended → Spares g ended
            (callFor c g (.await op act next) throw k) := by
          intro ended hended s rc ⟨hs, hfresh⟩
          obtain ⟨hact, hrest⟩ :=
            hstands rfl ended hended s.services rc hs (hfresh rfl (hs.over hended))
          exact ⟨hact, spares_within hrest (hthrow.spares ended hended)
            fun o => (hk o).spares ended hended⟩
        refine ⟨hspares, fun _ => hspares, fun s rc => ?_⟩
        obtain ⟨hends, hrest⟩ := hquits rfl s.services rc
        refine ⟨fun hover hover' => ?_, fair_within hrest hthrow hk⟩
        obtain ⟨⟨ended, hended, hs⟩, hafter⟩ := hends hover hover'
        exact ⟨ended, hended, hs, spares_within (leaves_of_aloof hafter)
          (hthrow.spares ended hended) fun o => (hk o).spares ended hended⟩
      · refine apart_await (fun s rc => ?_) fun s rc =>
          apart_within (haloof e s.services rc trivial).2 hthrow hk
        rw [(haloof e s.services rc trivial).1]
        exact .refl _

/-- A loop does over the row what its body does. -/
theorem apart_inTurn {xs : List β} {body : β → CycleProg → CycleProg}
    (hbody : ∀ x k, Apart g k → Apart g (body x k)) (hk : Apart g k) :
    Apart g (inTurn xs body k) := by
  induction xs with
  | nil => exact hk
  | cons x xs ih => exact hbody x _ ih

/-- The settlement of a game of the sweep is under its own label, and is judged by that. -/
theorem apart_settleGame {k : Outcome → CycleProg} (hthrow : Apart g throw)
    (hk : ∀ o, Apart g (k o)) : Apart g (callFor .settleGame gameId
      (settleGame deps gameId .throws fun o => .returns (.settle gameId o)) throw k) := by
  refine apart_callFor aloof_settleGame (fun e => ?_) (fun e => ?_) hthrow hk
  · exact e ▸ quits_settleGame
  · exact e ▸ stands_settleGame

/-- A game that is created has a new id. -/
theorem apart_newGame {tierId : String} {nodeId : ℤ → String} {startedAt : ℤ → ℤ}
    {k : ℕ → CycleProg} (hthrow : Apart g throw) (hk : ∀ id, Apart g (k id)) :
    Apart g (newGame tierId nodeId startedAt throw k) := by
  refine apart_await (fun s c => ?_) fun s c => ?_
  · dsimp only
    split
    · exact .refl _
    · cases hcreate : s.createGame ⟨c.uuid, tierId, startedAt c.now⟩ (nodeId c.now) with
      | none => exact .refl _
      | some s' => exact kept_createGame hcreate
  · split
    · exact hk _
    · exact hthrow

theorem apart_addJob {job : Job} (hthrow : Apart g throw) (hk : Apart g k) :
    Apart g (change .other (Cycle.addJob job) throw k) := by
  refine apart_change (fun s => ?_) hthrow hk
  unfold Cycle.addJob
  split <;> exact .refl _

theorem apart_finish {cycleId : CycleId} {stage : CycleStage} (hthrow : Apart g throw)
    (hk : Apart g k) :
    Apart g (change (.finish cycleId stage) (Cycle.finishJob cycleId stage) throw k) :=
  apart_change (fun _ => .refl _) hthrow hk

/-- The refund of an abandoned match is judged by its label too. -/
theorem apart_refundAbandonedMatch {gameId : Option ℕ} {reason : String} (hthrow : Apart g throw)
    (hk : Apart g k) : Apart g (refundAbandonedMatch gameId reason throw k) := by
  cases gameId with
  | none => exact hk
  | some gameId =>
      have hafter : Aloof g (.await .read (fun s _ => s) fun _ c =>
          if c.arrival = .answered then .returns (.stage .patch) else .throws) := by
        intro s c _
        refine ⟨rfl, ?_⟩
        dsimp only
        split <;> trivial
      refine apart_callFor (fun hne => ?_) (fun e => ?_) (fun e => ?_) hthrow fun _ => hk
      · refine aloof_transaction (executes_mono (fun b hb => ?_) cancelGameAndRefund_cancels)
          trivial hafter
        obtain hb | hb := hb
        · rw [hb]
          exact nofun
        · rw [hb]
          exact fun h => hne (Option.some.inj h).symm
      · exact quits_commit (by exact trivial) hafter cancelGameAndRefund_last
      · exact e ▸ stands_cancelGameAndRefund (by exact trivial) hafter

theorem apart_failJob {job : Job} : Apart g (failJob job) := by
  unfold failJob
  dsimp only
  split
  · exact apart_change (fun _ => .refl _) apart_throws apart_returns
  · refine apart_finish apart_throws ?_
    split
    · exact apart_refundAbandonedMatch apart_returns apart_returns
    · exact apart_returns

theorem apart_archiveGame {tier : RoomTier} {ret : StageResult → CycleProg}
    (hthrow : Apart g throw) (hret : ∀ r, Apart g (ret r)) :
    Apart g (StageHandlers.archiveGame deps tier gameId throw ret) := by
  unfold StageHandlers.archiveGame
  extract_lets archive
  have harchive : Apart g archive := by
    refine apart_look hthrow fun _ => apart_look hthrow fun found => ?_
    cases found with
    | none => exact hret _
    | some game =>
        exact apart_change (fun _ => .refl _) hthrow <|
          apart_change (fun _ => .refl _) hthrow (hret _)
  split
  · exact harchive
  · exact apart_call (aloof_send fun _ => trivial) harchive fun _ => harchive

/-- **Outside the calls of a game, a stage keeps its row.**. -/
theorem apart_runStage {job : Job} {ret : StageResult → Option ℕ → CycleProg}
    (hthrow : Apart g throw) (hret : ∀ r gameId, Apart g (ret r gameId)) :
    Apart g (runStage deps job throw ret) := by
  unfold runStage
  split
  · exact hthrow
  next tier _ =>
      extract_lets answer answered
      have hanswered : ∀ o, Apart g (answered o) := by
        rintro (- | r)
        · exact hthrow
        · exact hret r _
      split
      · refine apart_change kept_upsertRoom hthrow (apart_look hthrow fun found => ?_)
        cases found with
        | none => exact apart_newGame hthrow fun id => hret _ _
        | some gameId => exact hret _ _
      · refine apart_callFor aloof_createPool (fun e => ?_) (fun e => ?_) hthrow hanswered
        · exact e ▸ quits_createPool
        · exact e ▸ stands_createPool
      · exact apart_look hthrow fun _ => apart_change (fun _ => .refl _) hthrow (hret _ _)
      · refine apart_callFor aloof_closeLobby (fun e => ?_) (fun e => ?_) hthrow hanswered
        · exact e ▸ quits_closeLobby
        · exact e ▸ stands_closeLobby
      · exact apart_change (fun _ => .refl _) hthrow (hret _ _)
      · refine apart_settleGame hthrow fun o => ?_
        split
        · exact hret _ _
        · exact hret _ _
        · exact hret _ _
        · exact hthrow
        · exact hthrow
      · exact apart_archiveGame hthrow fun _ => hret _ _
      · exact hthrow

/-- A job is a stage, and what is queued after it. -/
theorem apart_runJob {cycleId : CycleId} {stage : CycleStage} :
    Apart g (runJob deps cycleId stage) := by
  refine apart_look apart_throws fun found => ?_
  cases found with
  | none => exact apart_returns
  | some job =>
      dsimp only
      split
      · exact apart_returns
      · have hdone : Apart g
            (change (.finish cycleId stage) (Cycle.finishJob cycleId stage) .throws
              (.returns ())) := apart_finish apart_throws apart_returns
        refine apart_runStage apart_failJob fun result gameId => ?_
        split
        · exact apart_refundAbandonedMatch apart_failJob hdone
        · exact hdone
        · split
          · exact hdone
          · exact apart_addJob apart_failJob hdone

theorem apart_schedulerTick : Apart g schedulerTick :=
  apart_await (fun _ _ => .refl _) fun _ _ =>
    apart_inTurn (fun _ _ hk => apart_addJob hk hk) apart_returns

/-- The sweep reads, and calls. -/
theorem apart_settleFinished : Apart g (settleFinished deps) := by
  refine apart_look apart_throws fun queued => apart_inTurn (fun gameId k hk => ?_) ?_
  · refine apart_settleGame hk fun o => ?_
    split
    · exact hk
    · exact hk
    · exact apart_change (fun _ => .refl _) hk hk
  · refine apart_look apart_throws fun running => apart_inTurn (fun gameId k hk => ?_) apart_returns
    refine apart_look apart_throws fun found => ?_
    cases found with
    | none => exact hk
    | some report => exact apart_settleGame hk fun _ => hk

theorem apart_ensureRooms : Apart g (ensureRooms deps) := by
  unfold ensureRooms
  split
  · exact apart_returns
  next authority _ =>
      refine apart_inTurn (fun tier k hk => ?_) apart_returns
      have room : ∀ gameId, Apart g
          (call (StageHandlers.openRoom deps authority tier gameId
            (fun _ => .returns (.stage .patch)) (.returns (.stage .patch))
            (.returns (.stage .patch))) k fun _ => k) := fun gameId =>
        apart_call (aloof_openRoom (fun _ => trivial) trivial trivial) hk fun _ => hk
      unfold ensureRoom
      split
      · exact hk
      · refine apart_look hk fun (players, bound) => ?_
        dsimp only
        split
        · exact hk
        · cases bound with
          | some gameId => exact room gameId
          | none =>
              refine apart_change (fun s => ?_) hk (apart_newGame hk fun gameId => ?_)
              · unfold Cycle.insertRoom
                split <;> exact .refl _
              · exact apart_change (fun _ => .refl _) hk (room gameId)

theorem apart_reportFinishedMatch {result : MatchResultReport} :
    Apart g (reportFinishedMatch gameId result) := by
  refine apart_change (fun _ => .refl _) apart_throws ?_
  refine apart_change (fun s => ?_) apart_throws apart_returns
  unfold Cycle.sadd
  split <;> exact .refl _

/-- **The writers of game rows**: whatever the worker and the admin route run, begun while the game
is over, leaves it as it ended; begun before, it may do so only while it is in no call of the game,
and ends the game in good order. -/
theorem apart_program (request : CycleCall) : Apart g ((cycle deps).program request) := by
  cases request with
  | settleFinished => exact apart_settleFinished
  | ensureRooms => exact apart_ensureRooms
  | schedulerTick => exact apart_schedulerTick
  | runJob cycleId stage => exact apart_runJob
  | report gameId result => exact apart_reportFinishedMatch
  | cancel gameId reason =>
      show Apart g (refundAbandonedMatch (some gameId) reason .throws (.returns ()))
      exact apart_refundAbandonedMatch apart_throws apart_returns

/-- An operator only puts back what failed, and nobody else writes a game. -/
theorem event_row {rt : Runtime} {s s' : Cycle} {e : CycleEvent}
    (h : cycleEvent rt s e = some s') :
    Kept (s.services.game g) (s'.services.game g) ∨
      ∃ game game', s.services.game g = some game ∧ s'.services.game g = some game' ∧
        game.settlementStatus = .failed ∧ game'.status = game.status := by
  cases e with
  | exec now i =>
      obtain rfl := Option.some.inj h
      refine .inl ?_
      rw [game_land]
      exact .refl _
  | transfer m =>
      simp only [cycleEvent, Option.ite_none_right_eq_some] at h
      obtain rfl := Option.some.inj h.2
      exact .inl (.refl _)
  | retrySettlement gameId =>
      simp only [cycleEvent, Option.ite_none_right_eq_some] at h
      obtain ⟨hfailed, h⟩ := h
      obtain ⟨v, hv, rfl⟩ := Option.map_eq_some_iff.mp h
      obtain ⟨game, hgame, hstatus⟩ := (Option.any_eq_true _ _).mp hfailed
      have hrow := game_updateGame (g := g) hv
      by_cases e : g = gameId
      · subst e
        rw [if_pos rfl, Services.game, Services.game, hgame, Option.map_some] at hrow
        exact .inr ⟨game, _, hgame, hrow, of_decide_eq_true hstatus, rfl⟩
      · rw [if_neg e] at hrow
        exact .inl (hrow ▸ .refl _)
  | lobby | wallets | books | expireResult | stalled | forget =>
      obtain rfl := Option.some.inj h
      exact .inl (.refl _)

/-- No event ends a game, or changes one that ended in good order. -/
theorem event_shows {rt : Runtime} {s s' : Cycle} {e : CycleEvent}
    (h : cycleEvent rt s e = some s') (hended : Final ended) (hs : Shows g ended s.services) :
    Shows g ended s'.services := by
  obtain hkept | ⟨game, -, hgame, -, hfailed, -⟩ := event_row (g := g) h
  · exact hkept.shows hs
  · obtain ⟨game₁, hgame₁, hcolumns⟩ := Option.map_eq_some_iff.mp hs
    obtain rfl := Option.some.inj (hgame.symm.trans hgame₁)
    have hsettlement : game.settlementStatus = ended.2.2 := congrArg (·.2.2) hcolumns
    rw [hfailed] at hsettlement
    cases hended <;> cases hsettlement

/-- What happens outside the worker ends no game. -/
theorem event_over {rt : Runtime} {s s' : Cycle} {e : CycleEvent}
    (h : cycleEvent rt s e = some s') (hover : ¬Over g s.services) : ¬Over g s'.services := by
  obtain hkept | ⟨game, game', hgame, hgame', -, hstatus⟩ := event_row (g := g) h
  · exact hkept.over hover
  · rintro ⟨game₁, hgame₁, hfinished⟩
    obtain rfl := Option.some.inj (hgame₁.symm.trans hgame')
    rw [Finished, hstatus] at hfinished
    exact hover ⟨game, hgame, hfinished⟩

end Apart

/-! ### Runs -/

abbrev CycleTask := Task Cycle CycleOp Reply Unit CycleCall

abbrev CycleSystem := System Cycle CycleTask

abbrev CycleStep := Act CycleTask Reply CycleEvent

/-- A call of the game is under way, past what it looked at first. -/
def UnderWay (g : ℕ) : CycleTask → Prop
  | .running (.await op _ _) => op = .goesOn g
  | .running (.returns _) | .running .throws | .call _ => False

instance (g : ℕ) (p : CycleTask) : Decidable (UnderWay g p) :=
  match p with
  | .running (.await op _ _) => inferInstanceAs (Decidable (op = .goesOn g))
  | .running (.returns _) | .running .throws | .call _ => .isFalse id

/-- As the game ends, no call of it is under way but the one that ends it; and a call that begins
while it is over finds nobody to play, or a settlement that is confirmed. -/
def Timely (g : ℕ) (s : CycleSystem) : CycleStep → Prop
  | .resume r c =>
      match s.procs.get r with
      | some (.running (.await op act _)) =>
          Fresh g s.store.services op ∧
            (¬Over g s.store.services → Over g (act s.store c).services →
              ∀ r' ≠ r, ∀ q, s.procs.get r' = some q → ¬UnderWay g q)
      | _ => True
  | .start _ _ | .crash _ | .other _ => True

/-- The games that are over ended one way or the other, and nothing runs yet. -/
structure TidyStart (s : CycleSystem) : Prop where
  procs : s.procs = Table.empty
  tidy : ∀ g game, s.store.services.game g = some game → Finished game → Final (columns game)

/-- If the game is over, it ended in good order. -/
def Settled (g : ℕ) (s : Cycle) : Prop :=
  Over g s.services → ∃ ended, Final ended ∧ Shows g ended s.services

/-- What a function will do to the game. -/
def Poised (g : ℕ) (s : Cycle) : CycleTask → Prop
  | .call _ => True
  | .running prog =>
      (∀ ended, Final ended → Shows g ended s.services → Spares g ended prog) ∧
        (¬Over g s.services → Fair g prog)

section Runs
variable {deps : SettleDeps} {g : ℕ} {s s' : CycleSystem} {v v' : Cycle} {q : CycleTask}
  {prog : CycleProg} {ended : GameStatus × ℤ × SettlementStatus} {game : Game}

/-- A program that keeps the row is poised wherever it stands. -/
theorem Poised.of_apart (h : Apart g prog) : Poised g v (.running prog) :=
  ⟨fun ended hended _ => h.spares ended hended, fun _ => h.fair⟩

/-- A program that spares a row that shows its end is poised while the game is over. -/
theorem Poised.of_spares (hended : Final ended) (hs : Shows g ended v.services)
    (h : Spares g ended prog) : Poised g v (.running prog) := by
  refine ⟨fun ended' _ hs' => ?_, fun hover => absurd (hs.over hended) hover⟩
  obtain rfl := Option.some.inj (hs.symm.trans hs')
  exact h

/-- A program that is fair to the game is poised until the game is over. -/
theorem Poised.of_fair (hover : ¬Over g v.services) (h : Fair g prog) :
    Poised g v (.running prog) :=
  ⟨fun _ hended hs => absurd (hs.over hended) hover, fun _ => h⟩

/-- The game stays over. -/
theorem Poised.stays (h : Poised g v q) (hended : Final ended) (hs : Shows g ended v.services)
    (hs' : Shows g ended v'.services) : Poised g v' q := by
  cases q with
  | call => trivial
  | running prog => exact .of_spares hended hs' (h.1 ended hended hs)

/-- The game goes on. -/
theorem Poised.goes (h : Poised g v q) (hover : ¬Over g v.services) (hover' : ¬Over g v'.services) :
    Poised g v' q := by
  cases q with
  | call => trivial
  | running prog => exact .of_fair hover' (h.2 hover)

/-- Another process ends the game. -/
theorem Poised.ends (h : Poised g v q) (hover : ¬Over g v.services) (hq : ¬UnderWay g q)
    (hended : Final ended) (hs' : Shows g ended v'.services) : Poised g v' q := by
  cases q with
  | call => trivial
  | running prog =>
      cases prog with
      | returns a => exact .of_spares hended hs' trivial
      | throws => exact .of_spares hended hs' trivial
      | await op act k => exact .of_spares hended hs' ((h.2 hover).1 hq ended hended)

/-- **The invariant**: what every process will do to the game is sound. -/
theorem timely_keeps : (cycle deps).processes.Keeps (Timely g) (Settled g)
    (fun s _ p => Poised g s p) fun _ _ => True where
  symm _ _ _ := trivial
  start s r p _ _ hstarts := by
    cases p with
    | call request => exact ⟨trivial, fun _ => trivial⟩
    | running => cases hstarts
  resume := by
    rintro ⟨v, procs⟩ r p c ⟨hI, hP, -⟩ hp hH
    have hsound := hP r p hp
    cases p with
    | call request =>
        refine ⟨hI, fun p' hp' => ?_, fun r' _ q hq => hP r' q hq⟩
        obtain rfl := Option.some.inj hp'
        exact ⟨.of_apart (apart_program request), fun _ _ _ _ => trivial⟩
    | running prog =>
        cases prog with
        | returns | throws => exact ⟨hI, nofun, fun r' _ q hq => hP r' q hq⟩
        | await op act k =>
            simp only [Timely, show procs.get r = _ from hp] at hH
            obtain ⟨hfresh, halone⟩ := hH
            by_cases hover : Over g v.services
            · obtain ⟨ended, hended, hs⟩ := hI hover
              obtain ⟨hact, hk⟩ := hsound.1 ended hended hs v c ⟨hs, hfresh⟩
              refine ⟨fun _ => ⟨ended, hended, hact hs⟩, fun p' hp' => ?_, fun r' _ q hq => ?_⟩
              · obtain rfl := Option.some.inj hp'
                exact ⟨.of_spares hended (hact hs) hk, fun _ _ _ _ => trivial⟩
              · exact (hP r' q hq).stays hended hs (hact hs)
            · obtain ⟨hends, hk⟩ := (hsound.2 hover).2 v c
              by_cases hover' : Over g (act v c).services
              · obtain ⟨ended, hended, hs', hspares⟩ := hends hover hover'
                refine ⟨fun _ => ⟨ended, hended, hs'⟩, fun p' hp' => ?_, fun r' hne q hq => ?_⟩
                · obtain rfl := Option.some.inj hp'
                  exact ⟨.of_spares hended hs' hspares, fun _ _ _ _ => trivial⟩
                · exact (hP r' q hq).ends hover (halone hover hover' r' hne q hq) hended hs'
              · refine ⟨fun h => absurd h hover', fun p' hp' => ?_, fun r' _ q hq => ?_⟩
                · obtain rfl := Option.some.inj hp'
                  exact ⟨.of_fair hover' hk, fun _ _ _ _ => trivial⟩
                · exact (hP r' q hq).goes hover hover'
  other s e v' hs _ he := by
    obtain ⟨hI, hP, -⟩ := hs
    by_cases hover : Over g s.store.services
    · obtain ⟨ended, hended, hshows⟩ := hI hover
      have hs' := event_shows he hended hshows
      exact ⟨fun _ => ⟨ended, hended, hs'⟩, fun r q hq => (hP r q hq).stays hended hshows hs'⟩
    · have hover' := event_over he hover
      exact ⟨fun h => absurd h hover', fun r q hq => (hP r q hq).goes hover hover'⟩

/-- **The invariant after the end**: the row stays as it is. -/
theorem spares_keeps (hended : Final ended) : (cycle deps).processes.Keeps (Timely g)
    (fun v => Shows g ended v.services)
    (fun _ _ p => p.Tame (fun v op _ _ => Shows g ended v.services ∧ Fresh g v.services op)
      (fun v v' => Shows g ended v.services → Shows g ended v'.services) fun _ => True)
    fun _ _ => True := by
  refine Functions.does_keeps (fun s r c op act k hs hH hp => ?_)
    (fun request => (apart_program request).spares ended hended)
    fun s e v' hs _ he => event_shows he hended hs
  simp only [Timely, hp] at hH
  exact ⟨hs, hH.1⟩

/-- **Finished games stay finished**, in every run in which no other call of the game is under way
as it ends, and the calls that begin later find nothing to do. -/
theorem finished_stays
    (hs : Reachable (Guarded (cycle deps).processes.Step (Timely g)) TidyStart s)
    {as : List CycleStep} (hrun : Run (Guarded (cycle deps).processes.Step (Timely g)) s as s')
    (hgame : s.store.services.database.games.get g = some game)
    (hfinished : game.status = .completed ∨ game.status = .cancelled) :
    ∃ game', s'.store.services.database.games.get g = some game' ∧ game'.status = game.status ∧
      game'.potLamports = game.potLamports ∧ game'.settlementStatus = game.settlementStatus := by
  obtain ⟨hsettled, hsound, -⟩ := timely_keeps.reachable (fun s h => by
    refine ⟨?_, ?_, fun _ _ _ _ _ _ _ => trivial⟩
    · rintro ⟨game, hgame, hfinished⟩
      exact ⟨columns game, h.tidy g game hgame hfinished, congrArg (Option.map columns) hgame⟩
    · rw [h.procs]
      exact Table.All.empty) hs
  obtain ⟨ended, hended, hshows⟩ := hsettled ⟨game, hgame, hfinished⟩
  have htame : s.procs.All fun _ p => p.Tame
      (fun v op _ _ => Shows g ended v.services ∧ Fresh g v.services op)
      (fun v v' => Shows g ended v.services → Shows g ended v'.services) fun _ => True := by
    intro r q hq
    cases q with
    | call => trivial
    | running prog => exact (hsound r _ hq).1 ended hended hshows
  obtain ⟨hshows', -⟩ := hrun.invariant
    (fun _ _ _ hs hstep => (spares_keeps hended).step hs hstep)
    ⟨hshows, htame, fun _ _ _ _ _ _ _ => trivial⟩
  obtain ⟨game', hgame', hcolumns⟩ := Option.map_eq_some_iff.mp hshows'
  obtain rfl : columns game = ended :=
    Option.some.inj ((congrArg (Option.map columns) hgame).symm.trans hshows)
  exact ⟨game', hgame', congrArg Prod.fst hcolumns, congrArg (·.2.1) hcolumns,
    congrArg (·.2.2) hcolumns⟩

/-- `Timely`, as it can be tried where there are `n` processes. -/
def timelyBelow (n g : ℕ) (s : CycleSystem) (a : CycleStep) : Bool :=
  a.proc.all (· < n) &&
    match a with
    | .resume r c =>
        match s.procs.get r with
        | some (.running (.await op act _)) =>
            decide (Fresh g s.store.services op) &&
              (decide (Over g s.store.services) || !decide (Over g (act s.store c).services) ||
                (List.range n).all fun r' =>
                  decide (r' = r) || (s.procs.get r').all fun q => !decide (UnderWay g q))
        | _ => true
    | .start _ _ | .crash _ | .other _ => true

/-- The guard of a run is decided over the calls that were begun. -/
theorem timely_of_below {n : ℕ} {a : CycleStep} (hs : s.Below n)
    (h : timelyBelow n g s a = true) : Timely g s a := by
  cases a with
  | resume r c =>
      simp only [timelyBelow, Timely] at h ⊢
      replace h := (Bool.and_eq_true_iff.mp h).2
      split at h
      next op act k hp =>
          obtain ⟨hfresh, halone⟩ := Bool.and_eq_true_iff.mp h
          refine ⟨of_decide_eq_true hfresh, fun hover hover' r' hne q hq => ?_⟩
          simp only [hover, hover', decide_true, decide_false, Bool.not_true, Bool.or_self,
            Bool.false_or] at halone
          have hr := List.all_eq_true.mp halone r' (List.mem_range.mpr (hs.lt hq))
          simp only [hne, decide_false, Bool.false_or, hq, Option.all_some] at hr
          exact of_decide_eq_false (Bool.not_eq_true' _ ▸ hr)
      · trivial
  | start | crash | other => trivial

/-- A run that was tried is timely. -/
theorem run_timely {n : ℕ} {as : List CycleStep}
    (h : Run (Guarded (cycle deps).processes.Step fun s a => timelyBelow n g s a = true) s as s')
    (hs : s.Below n) :
    s'.Below n ∧ Run (Guarded (cycle deps).processes.Step (Timely g)) s as s' :=
  (cycle deps).processes.run_below (fun _ _ h => (Bool.and_eq_true_iff.mp h).1)
    (fun _ _ => timely_of_below) h hs

/-- A stage of the bronze cycle, up to this many awaits. -/
def bronzeStage (stage : CycleStage) (awaits : ℕ) : List CycleStep :=
  .start 0 (.call (.runJob ⟨"bronze", 0⟩ stage)) :: List.replicate awaits (.resume 0 { uuid := 7 })

/-- Game 7 has its room and its lobby, both players enter, the lobby launches, and the match is
reported and settled before its lobby is closed. -/
def settledEarly : List CycleStep :=
  .start 0 (.call .schedulerTick) :: List.replicate 10 (.resume 0 {}) ++
    bronzeStage .createGame 8 ++ bronzeStage .createPool 11 ++ bronzeStage .openLobby 7 ++
    [.other (.exec 2 (Call.enterRoom (.key 4) (roomIdFromUuid 7))),
      .other (.exec 3 (Call.enterRoom (.key 5) (roomIdFromUuid 7))),
      .other (.lobby "bronze" 0 none),
      .start 0 (.call (.report 7 finishedReport))] ++
    List.replicate 4 (.resume 0 {}) ++
    .start 0 (.call .settleFinished) :: List.replicate 39 (.resume 0 {})

/-- The node reports again, the queue is settled again, the lobby closes with one player, and the
operator cancels the game. -/
def reportedAgain : List CycleStep :=
  .start 0 (.call (.report 7 finishedReport)) ::
    List.replicate 4 (.resume 0 {}) ++
    .start 0 (.call .settleFinished) :: List.replicate 6 (.resume 0 {}) ++
    .other (.lobby "bronze" 1 none) :: bronzeStage .closeLobby 5 ++
    .start 1 (.call (.cancel 7 "late")) :: List.replicate 4 (.resume 1 {})

/-- Two more players have queued when the stage that closes the lobby of game 7 comes round. -/
def closedLate : List CycleStep := .other (.lobby "bronze" 2 none) :: bronzeStage .closeLobby 10

theorem tidyStart_queuedLobby (chain : State) : TidyStart (queuedLobby chain) := by
  refine ⟨rfl, fun g game hgame => ?_⟩
  have hnone : (queuedLobby chain).store.services.game g = none := rfl
  cases hnone.symm.trans hgame

theorem finished_stays_reported : ∃ (s s' : CycleSystem) (game game' : Game),
    s.store.services.database.games.get 7 = some game ∧ game.status = .completed ∧
      s'.store.services.database.games.get 7 = some game' ∧ game'.status = game.status ∧
        game'.potLamports = game.potLamports ∧
          game'.settlementStatus = game.settlementStatus := by
  have hrun : openedProgram.passes (fun chain =>
      ((cycle settler).processes.actsWhen (fun s a => timelyBelow 2 7 s a = true)
        (queuedLobby chain) settledEarly).any fun s =>
          (s.store.services.database.games.get 7).any (·.status = .completed) &&
            ((cycle settler).processes.actsWhen (fun s a => timelyBelow 2 7 s a = true) s
              reportedAgain).isSome) =
      true := by
    decide +kernel
  obtain ⟨chain, -, htest⟩ := Result.passes_iff.mp hrun
  obtain ⟨s, hs, htest⟩ := (Option.any_eq_true _ _).mp htest
  obtain ⟨hgame, hagain⟩ := Bool.and_eq_true_iff.mp htest
  obtain ⟨game, hgame, hstatus⟩ := (Option.any_eq_true _ _).mp hgame
  obtain ⟨s', hs'⟩ := Option.isSome_iff_exists.mp hagain
  obtain ⟨hbelow, hearly⟩ :=
    run_timely ((cycle settler).processes.run_of_actsWhen hs) fun _ _ => rfl
  obtain ⟨-, hlater⟩ := run_timely ((cycle settler).processes.run_of_actsWhen hs') hbelow
  have hcompleted := of_decide_eq_true hstatus
  obtain ⟨game', hgame', hsame⟩ :=
    finished_stays ⟨_, _, tidyStart_queuedLobby chain, hearly⟩ hlater hgame (.inl hcompleted)
  exact ⟨s, s', game, game', hgame, hcompleted, hgame', hsame⟩

/-- The late stage writes the completed game RUNNING, with the pot of an empty vault. -/
theorem finished_stays_closed : ¬∀ (s s' : CycleSystem) (as : List CycleStep),
    Reachable (cycle settler).processes.Step TidyStart s →
      Run (cycle settler).processes.Step s as s' →
        ∀ g game, s.store.services.database.games.get g = some game →
          game.status = .completed ∨ game.status = .cancelled →
            ∃ game', s'.store.services.database.games.get g = some game' ∧
              game'.status = game.status ∧ game'.potLamports = game.potLamports ∧
                game'.settlementStatus = game.settlementStatus := by
  intro h
  have hrun : openedProgram.passes (fun chain =>
      ((cycle settler).processes.acts (queuedLobby chain) settledEarly).any fun s =>
        (s.store.services.database.games.get 7).any (·.status = .completed) &&
          ((cycle settler).processes.acts s closedLate).any fun s' =>
            (s'.store.services.database.games.get 7).any fun game =>
              decide (game.status = .running)) =
      true := by
    decide +kernel
  obtain ⟨chain, -, htest⟩ := Result.passes_iff.mp hrun
  obtain ⟨s, hs, htest⟩ :=
    (cycle settler).processes.reachable_of_acts (tidyStart_queuedLobby chain) htest
  obtain ⟨hgame, hlater⟩ := Bool.and_eq_true_iff.mp htest
  obtain ⟨game, hgame, hstatus⟩ := (Option.any_eq_true _ _).mp hgame
  obtain ⟨s', hs', hlater⟩ := (Option.any_eq_true _ _).mp hlater
  obtain ⟨game₁, hgame₁, hrunning⟩ := (Option.any_eq_true _ _).mp hlater
  have hcompleted := of_decide_eq_true hstatus
  obtain ⟨game', hgame', hsame, -⟩ := h s s' _ hs ((cycle settler).processes.run_of_acts hs') 7 game
    hgame (.inl hcompleted)
  obtain rfl := Option.some.inj (hgame'.symm.trans hgame₁)
  cases (of_decide_eq_true hrunning).symm.trans (hsame.trans hcompleted)

end Runs

end SnakeArena.Worker
