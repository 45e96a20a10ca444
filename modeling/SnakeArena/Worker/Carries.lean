import SnakeArena.Db.Prizes
import SnakeArena.Worker.Finished
import SnakeArena.Worker.Leaderboard

/-!
# Worker — where a call of the worker goes

A call with nothing between its awaits, await by await: `Carries wild J R prog s` says that from
`s` on the store meets `J` at every await, wherever the call throws, and meets `R` where it returns.
With `wild` any answer may come, and the call may throw at each; without it every answer says what
happened, and the call does not throw.  So one walk through a function is both where a first call
can stop, and where a later one, that is answered, ends.

* `carries_read` and the like: one rule for each kind of await.
* `carries_send`: an instruction is sent until an answer comes.
* `carries_postSettlementLedger`: the ledger of a settlement is posted once.
* `carries_updateLeaderboard`: its standings are counted once (`countMatch`).
-/

namespace SnakeArena.Worker
open SnakeArena.Library SnakeArena.Db SnakeArena.Program SnakeArena.Books Database

/-! ### Calls with nothing between their awaits -/

/-- The answers of a call: any at all, or none but those that say what happened. -/
def Answers (wild : Prop) (_ : Services) (_ : Op) (c : Reply) : Prop :=
  wild ∨ c.arrival = .answered

/-- A call that throws only when an answer did not come. -/
abbrev Carries (wild : Prop) (J R : Services → Prop) : Prog → Services → Prop :=
  Throughout (Answers wild) J (fun s => wild ∧ J s) R

section Carries
variable {wild : Prop} {J R : Services → Prop} {s v : Services} {k : Prog} {β : Type}

/-- A read that the call needs. -/
theorem carries_read {f : Services → β} {k : β → Prog} (hs : J s)
    (hk : Carries wild J R (k (f s)) s) : Carries wild J R (read f .throws k) s := by
  refine ⟨hs, fun c hc => ?_⟩
  dsimp only
  split
  · exact hk
  next hlost => exact ⟨hc.resolve_right hlost, hs⟩

/-- A read with a default. -/
theorem carries_readOr {f : Services → β} {default : β} {k : β → Prog} (hs : J s)
    (hk : Carries wild J R (k (f s)) s) (hdefault : wild → Carries wild J R (k default) s) :
    Carries wild J R (readOr f default k) s := by
  refine ⟨hs, fun c hc => ?_⟩
  dsimp only
  split
  · exact hk
  next hlost => exact hdefault (hc.resolve_right hlost)

/-- A vault is read, or the reads of it fail. -/
theorem carries_readVault {gameId : ℕ} {rt : Runtime} {failed : ℤ} {k : ℤ → ℤ → Prog} (hs : J s)
    (hk : ∀ balance rentFloor : ℤ,
      balance = s.chain.lamports (.roomVault (roomIdFromUuid gameId)) ∨ wild ∧ balance = failed →
      rentFloor = rt.minimumBalance 0 ∨ wild ∧ rentFloor = 0 →
        Carries wild J R (k balance rentFloor) s) :
    Carries wild J R (readVault gameId rt failed k) s := by
  have hread : ∀ balance : ℤ,
      balance = s.chain.lamports (.roomVault (roomIdFromUuid gameId)) ∨ wild ∧ balance = failed →
        Carries wild J R (readOr (fun _ => (rt.minimumBalance 0 : ℤ)) 0
          fun rentFloor => k balance rentFloor) s := fun balance hbalance =>
    carries_readOr hs (hk _ _ hbalance (.inl rfl)) fun hwild => hk _ _ hbalance (.inr ⟨hwild, rfl⟩)
  exact carries_readOr hs (hread _ (.inl rfl)) fun hwild => hread _ (.inr ⟨hwild, rfl⟩)

/-- A write that can be made. -/
theorem carries_write {f : Services → Option Services} (hs : J s) (hf : f s = some v) (hv : J v)
    (hk : Carries wild J R k v) : Carries wild J R (write f .throws k) s := by
  refine ⟨hs, fun c hc => ?_⟩
  have hact : (if c.arrival = .failed then s else (f s).getD s) = s ∨
      (if c.arrival = .failed then s else (f s).getD s) = v := by
    split
    · exact .inl rfl
    · exact .inr (by rw [hf]; rfl)
  dsimp only
  split
  next hanswered =>
      rw [hanswered.1, if_neg (fun e => by cases e), hf]
      exact hk
  next hlost =>
      rw [hf] at hlost
      have hwild := hc.resolve_right fun h => hlost ⟨h, rfl⟩
      obtain h | h := hact <;> rw [h]
      · exact ⟨hwild, hs⟩
      · exact ⟨hwild, hv⟩

theorem carries_notify (hs : J s) (hk : Carries wild J R k s) :
    Carries wild J R (notifyPlayers k) s :=
  ⟨hs, fun _ _ => hk⟩

/-- The row of a game, written. -/
def Services.setGame (gameId : ℕ) (game : Game) (s : Services) : Services :=
  { s with database.games := s.database.games.upd gameId game }

theorem game_setGame {gameId : ℕ} {game : Game} : (s.setGame gameId game).game gameId = some game :=
  Table.get_upd_same _ _ _

/-- A row that is there is written. -/
theorem carries_updateGame {gameId : ℕ} {data : Game → Game} {game : Game} (hs : J s)
    (hgame : s.game gameId = some game) (hv : J (s.setGame gameId (data game)))
    (hk : Carries wild J R k (s.setGame gameId (data game))) :
    Carries wild J R (updateGame gameId data .throws k) s := by
  refine carries_write hs ?_ hv hk
  rw [Services.updateGame, show s.database.games.get gameId = some game from hgame]
  rfl

/-- The first reward of a player. -/
theorem carries_createReward {gameId : ℕ} {payout : PayoutShare} (hs : J s)
    (hnone : s.rewards.get (gameId, payout.playerId) = none)
    (hv : J { s with rewards := s.rewards.upd (gameId, payout.playerId) payout.lamports })
    (hk : Carries wild J R k
      { s with rewards := s.rewards.upd (gameId, payout.playerId) payout.lamports }) :
    Carries wild J R (createReward gameId .throws payout k) s :=
  carries_write hs (by rw [hnone]) hv hk

/-! ### Transactions -/

section Transactions
variable {pending : List Statement} {view : Database}

theorem carries_view {f : Database → Books.Prog} (hs : J s)
    (hview : runAll Database.exec pending s.database = .ok view)
    (hk : Carries wild J R (transaction .throws k (f view) pending) s) :
    Carries wild J R (transaction .throws k (.read f) pending) s := by
  rw [transaction]
  refine ⟨hs, fun c hc => ?_⟩
  dsimp only
  rw [hview]
  cases harrival : c.arrival with
  | answered => exact hk
  | lost | failed => exact ⟨hc.resolve_right fun e => (by cases harrival.symm.trans e), hs⟩

theorem carries_run {b : Statement} {k' : Books.Prog} (hs : J s)
    (hview : runAll Database.exec (pending ++ [b]) s.database = .ok view)
    (hk : Carries wild J R (transaction .throws k k' (pending ++ [b])) s) :
    Carries wild J R (transaction .throws k (.run b k') pending) s := by
  rw [Prog.run, transaction]
  refine ⟨hs, fun c hc => ?_⟩
  dsimp only
  rw [hview]
  cases harrival : c.arrival with
  | answered => exact hk
  | lost | failed => exact ⟨hc.resolve_right fun e => (by cases harrival.symm.trans e), hs⟩

theorem carries_uuid {f : ℕ → Books.Prog} (hs : J s)
    (hk : ∀ id, Carries wild J R (transaction .throws k (f id) pending) s) :
    Carries wild J R (transaction .throws k (uuid f) pending) s := by
  rw [uuid, transaction]
  exact ⟨hs, fun c _ => hk _⟩

theorem carries_commit {t : Commit} (hs : J s)
    (hview : runAll Database.exec pending s.database = .ok view)
    (hv : J { s with database := view }) (hk : Carries wild J R k { s with database := view }) :
    Carries wild J R (transaction .throws k (.commit t .done) pending) s := by
  rw [transaction]
  refine ⟨hs, fun c hc => ?_⟩
  dsimp only
  rw [hview]
  cases harrival : c.arrival with
  | answered => exact hk
  | lost => exact ⟨hc.resolve_right fun e => (by cases harrival.symm.trans e), hv⟩
  | failed => exact ⟨hc.resolve_right fun e => (by cases harrival.symm.trans e), hs⟩

end Transactions

/-! ### Sends -/

/-- An instruction is sent while `Q`; another attempt follows only when an answer did not come. -/
theorem carries_send {Q : Services → Prop} {rt : Runtime} {op : Op} {i : Instruction}
    {k : Except Failure String → Prog} (hQ : ∀ s, Q s → J s)
    (hland : ∀ s now, Q s → Q (s.land rt now i)) (hrpc : wild → ∀ s, Q s →
      Carries wild J R (k (.error .rpc)) s) : ∀ {attempts : ℕ} {s : Services}, Q s →
      (attempts = 0 → wild) →
      (∀ s' now signature, Q s' → (s' = s ∨ wild) →
        Carries wild J R (k ((s'.answer rt now i).map fun _ => signature)) (s'.land rt now i)) →
      Carries wild J R (sendSigned rt op i k attempts) s
  | 0, s, hs, hnone, _ => hrpc (hnone rfl) s hs
  | attempts + 1, s, hs, _, hk => by
      refine ⟨hQ s hs, fun c hc => ?_⟩
      dsimp only
      split
      next hanswered =>
          rw [hanswered, if_neg (fun e => by cases e)]
          exact hk s c.now c.signature hs (.inl rfl)
      next hlost =>
          have hwild := hc.resolve_right hlost
          have hafter : Q (if c.arrival = .failed then s else s.land rt c.now i) := by
            split
            · exact hs
            · exact hland s c.now hs
          split
          · exact carries_send hQ hland hrpc hafter (fun _ => hwild) fun s' now signature hs' _ =>
              hk s' now signature hs' (.inr hwild)
          · exact hrpc hwild _ hafter

end Carries

section Ledger
variable {wild : Prop} {J R : Services → Prop} {s : Services} {k : Prog} {g p : ℕ} {n rake : ℤ}

/-- The legs of a settlement that posts one prize. -/
theorem postedOnce_append {x : Payment} {y : Option Rake} {rows : List Posting}
    (hrows : settlementLegs g rows = []) (hy : ∀ z, y = some z → z.lamports = rake ∧ 0 < rake)
    (hnone : y = none → ¬0 < rake) (b b' : ℤ) {db : Database}
    (hdb : db.transactions = rows ++ x.prizeLegs g b ++ (y.elim [] fun z => z.legs g b')) :
    PostedOnce g x.userId x.lamports rake db := by
  rw [PostedOnce, hdb, settlementLegs, List.map_append, List.map_append, List.filter_append,
    List.filter_append, show (rows.map (·.row)).filter _ = [] from hrows]
  cases y with
  | none => simp [Payment.prizeLegs, Payment.legs, transfer, Side.posting, hnone rfl]
  | some z =>
      obtain ⟨rfl, hpos⟩ := hy z rfl
      simp [Payment.prizeLegs, Payment.legs, Rake.legs, transfer, Side.posting, hpos]

/-- **The ledger of a settlement is posted once**, when its accounts are there. -/
theorem carries_postSettlementLedger (hdb : Postable g p rake s.database) (hs : J s)
    (hk : ∀ db, PostedOnce g p n rake db → db.games = s.database.games →
      J { s with database := db } ∧ Carries wild J R k { s with database := db }) :
    Carries wild J R (transaction .throws k (Books.postSettlementLedger g [(p, n)] rake) []) s := by
  obtain ⟨escrow, hescrow⟩ := Option.isSome_iff_exists.mp hdb.escrow
  obtain ⟨custody, hcustody⟩ := Option.isSome_iff_exists.mp hdb.custody
  have hrakeKeys : ∀ p ∈ s.database.transactions, ∀ side,
      p.idempotencyKey ≠ .settleRake g side := by
    intro q hq side e
    have := hdb.keys q hq
    simp [e, IdempotencyKey.settles] at this
  refine carries_view hs rfl ?_
  rw [hescrow]
  refine carries_view hs rfl ?_
  rw [if_neg]
  swap
  · simp only [List.any_eq_true, Bool.and_eq_true, decide_eq_true_eq, not_exists, not_and]
    intro q hq hgame htype
    have hmem : q.row ∈ settlementLegs g s.database.transactions :=
      List.mem_filter.mpr ⟨List.mem_map_of_mem hq, by simp [hgame, htype]⟩
    rw [hdb.unposted] at hmem
    cases hmem
  refine carries_view hs rfl ?_
  rw [hcustody]
  refine carries_uuid hs fun id => ?_
  let x : Payment := ⟨p, n, custody, false, id⟩
  -- whatever is pending then, the escrow is as it was read
  have finish : ∀ (pending : List Statement) (view : Database) (y : Option Rake) (b b' : ℤ),
      runAll Database.exec pending s.database = .ok view →
      view.poolAccounts.get (.escrow g) = some escrow → view.games = s.database.games →
      view.transactions = s.database.transactions ++ x.prizeLegs g b ++
        (y.elim [] fun z => z.legs g b') →
      (∀ z, y = some z → z.lamports = rake ∧ 0 < rake) → (y = none → ¬0 < rake) →
      ∀ e t, Carries wild J R (transaction .throws k
        (.run (updateEscrow g escrow e) (.commit t .done)) pending) s := by
    intro pending view y b b' hpending hview hgames htransactions hy hnone e t
    have hlast := runAll_append.mpr ⟨view, hpending, runAll_one.mpr
      (exec_updateAccount ⟨some e, none⟩ hview)⟩
    obtain ⟨hJ, hW⟩ := hk { view with poolAccounts := view.poolAccounts.upd (.escrow g) _ }
      (postedOnce_append hdb.unposted hy hnone b b' htransactions) hgames
    exact carries_run hs hlast (carries_commit hs hlast hJ hW)
  obtain ⟨paid, hpaid, hlegs, hgames, hothers⟩ := runAll_prize (g := g) (x := x)
    (b := escrow.balanceLamports - paymentsTotal [] - n) hcustody hdb.keys
  refine carries_run hs (runAll_one.mpr (exec_updateAccount _ hcustody)) (carries_run hs hpaid ?_)
  have hescrow' : paid.poolAccounts.get (.escrow g) = some escrow :=
    (hothers _ (fun e => by cases e)).trans hescrow
  simp only [settlePayments, settleRake]
  split
  next hpos =>
      obtain ⟨account, haccount⟩ := Option.isSome_iff_exists.mp (hdb.rake hpos)
      have haccount' : paid.poolAccounts.get .rake = some account :=
        (hothers _ (fun e => by cases e)).trans haccount
      refine carries_view hs hpaid ?_
      rw [haccount']
      refine carries_uuid hs fun id' => ?_
      let y : Rake := ⟨rake, account, id'⟩
      obtain ⟨raked, hraked, hlegs', hgames', hothers'⟩ := runAll_rake (g := g) (y := y)
        (b := escrow.balanceLamports - paymentsTotal ([] ++ [x]) - rake) haccount' (by
          intro q hq side e
          rw [hlegs, List.mem_append] at hq
          obtain hq | hq := hq
          · exact hrakeKeys q hq side e
          · simp only [Payment.prizeLegs, Payment.legs, transfer, List.mem_cons, List.not_mem_nil,
              or_false] at hq
            obtain rfl | rfl := hq <;> cases e)
      have hupdated := runAll_append.mpr ⟨paid, hpaid, runAll_one.mpr
        (exec_updateAccount ⟨some y.after, none⟩ haccount')⟩
      have hall := runAll_append.mpr ⟨paid, hpaid, hraked⟩
      refine carries_run hs hupdated (carries_run hs hall ?_)
      exact finish _ raked (some y) _ _ hall ((hothers' _ (fun e => by cases e)).trans hescrow')
        (hgames'.trans hgames) (by rw [hlegs', hlegs]; rfl)
        (fun z hz => Option.some.inj hz ▸ ⟨rfl, hpos⟩) (fun e => by cases e) _ _
  next hpos =>
      exact finish _ paid none _ 0 hpaid hescrow' hgames (hlegs.trans (List.append_nil _).symm)
        (fun z hz => by cases hz) (fun _ => hpos) _ _

end Ledger

/-! ### The leaderboards -/

/-- Its figures are whole. -/
def ReportedStanding.Whole (standing : ReportedStanding) : Prop :=
  (Number.toInt? standing.score).isSome ∧ (Number.toInt? standing.kills).isSome

instance : DecidablePred ReportedStanding.Whole := fun standing => by
  unfold ReportedStanding.Whole
  infer_instance

abbrev Board := Table (LeaderboardPeriod × ℕ) LeaderboardEntry

/-- One standing counted in a window. -/
def countEntry (board : Board) (period : LeaderboardPeriod) (standing : ReportedStanding) : Board :=
  match LeaderboardEntry.counting (board.get (period, standing.playerId)) standing with
  | some entry => board.upd (period, standing.playerId) entry
  | none => board

/-- The standings of a match counted, in the rows of its day and in the all-time rows. -/
def countMatch (day : ℤ) (standings : List ReportedStanding) (board : Board) : Board :=
  standings.foldl
    (fun board standing => countEntry (countEntry board (.daily day) standing) .allTime standing)
    board

/-- The games of a row. -/
def played (board : Board) (key : LeaderboardPeriod × ℕ) : ℕ :=
  (board.get key).elim 0 (·.gamesPlayed)

section Board
variable {board : Board} {period : LeaderboardPeriod} {standing : ReportedStanding}
  {standings : List ReportedStanding} {day : ℤ}

theorem Number.toInt?_intCast (n : ℤ) : Number.toInt? ((n : ℚ) : Number) = some n := by
  simp [Number.toInt?]

/-- A standing that is whole is counted over any row. -/
theorem ReportedStanding.Whole.counting (h : standing.Whole) (row : Option LeaderboardEntry) :
    ∃ entry, LeaderboardEntry.counting row standing = some entry ∧
      entry.gamesPlayed = row.elim 0 (·.gamesPlayed) + 1 := by
  obtain ⟨score, hscore⟩ := Option.isSome_iff_exists.mp h.1
  obtain ⟨kills, hkills⟩ := Option.isSome_iff_exists.mp h.2
  cases row with
  | none =>
      refine ⟨⟨score, 1, if standing.placement = 1 then 1 else 0, kills⟩, ?_, rfl⟩
      simp only [LeaderboardEntry.counting, LeaderboardEntry.first, hscore, hkills,
        Option.bind_eq_bind, Option.bind_some]
  | some existing =>
      have hmax : Number.toInt? (max ((existing.score : ℚ) : Number) standing.score)
          = some (max existing.score score) := by
        rw [Number.toInt?_eq hscore, ← Number.toInt?_intCast, Int.cast_max, WithTop.coe_max]
      have hsum : Number.toInt? (((existing.kills : ℚ) : Number) + standing.kills)
          = some (existing.kills + kills) := by
        rw [Number.toInt?_eq hkills, ← Number.toInt?_intCast, Int.cast_add, WithTop.coe_add]
      refine ⟨⟨max existing.score score, existing.gamesPlayed + 1,
        existing.wins + if standing.placement = 1 then 1 else 0, existing.kills + kills⟩, ?_, rfl⟩
      simp only [LeaderboardEntry.counting, LeaderboardEntry.next, hmax, hsum, Option.bind_eq_bind,
        Option.bind_some]

/-- Counting takes no game from a row. -/
theorem played_countEntry_le (key : LeaderboardPeriod × ℕ) (h : standing.Whole) :
    played board key ≤ played (countEntry board period standing) key := by
  obtain ⟨entry, hentry, hgames⟩ := h.counting (board.get (period, standing.playerId))
  rw [countEntry, hentry]
  by_cases e : key = (period, standing.playerId)
  · subst e
    rw [played, played, Table.get_upd_same, Option.elim_some, hgames]
    exact Nat.le_succ _
  · rw [played, played, Table.get_upd_other e]

/-- The row of the player gets one. -/
theorem played_countEntry (h : standing.Whole) :
    played (countEntry board period standing) (period, standing.playerId)
      = played board (period, standing.playerId) + 1 := by
  obtain ⟨entry, hentry, hgames⟩ := h.counting (board.get (period, standing.playerId))
  rw [countEntry, hentry, played, Table.get_upd_same, Option.elim_some, hgames, played]

/-- Nor does counting a match. -/
theorem played_countMatch_le (day : ℤ) (key : LeaderboardPeriod × ℕ) :
    ∀ (standings : List ReportedStanding) (board : Board),
      (∀ standing ∈ standings, standing.Whole) →
        played board key ≤ played (countMatch day standings board) key
  | [], _, _ => le_rfl
  | standing :: standings, board, h => by
      have hwhole := h standing List.mem_cons_self
      exact ((played_countEntry_le key hwhole).trans (played_countEntry_le key hwhole)).trans
        (played_countMatch_le day key standings _ fun row hrow =>
          h row (List.mem_cons_of_mem _ hrow))

/-- A match that is counted changes the rows. -/
theorem countMatch_ne (h : ∀ standing ∈ standings, standing.Whole) (hne : standings ≠ []) :
    countMatch day standings board ≠ board := by
  intro e
  cases standings with
  | nil => exact hne rfl
  | cons standing standings =>
      -- one game more in the all-time row of the first of them
      have hwhole := h standing List.mem_cons_self
      let daily := countEntry board (.daily day) standing
      have hfirst : played board (.allTime, standing.playerId)
          ≤ played daily (.allTime, standing.playerId) := played_countEntry_le _ hwhole
      have hlater := played_countMatch_le day (.allTime, standing.playerId) standings
        (countEntry daily .allTime standing) fun row hrow => h row (List.mem_cons_of_mem _ hrow)
      rw [played_countEntry hwhole, show countMatch day standings
        (countEntry daily .allTime standing) = board from e] at hlater
      omega

end Board

section Leaderboard
variable {wild : Prop} {J R : Services → Prop} {k : Prog} {day : ℤ}

/-- A row is read and written over. -/
theorem carries_updateEntry {standing : ReportedStanding} {period : LeaderboardPeriod}
    {s : Services} (h : standing.Whole) (hJ : ∀ board, J { s with leaderboard := board })
    (hk : Carries wild J R k { s with leaderboard := countEntry s.leaderboard period standing }) :
    Carries wild J R (updateEntry .throws standing period k) s := by
  obtain ⟨entry, hentry, -⟩ := h.counting (s.leaderboard.get (period, standing.playerId))
  rw [countEntry, hentry] at hk
  have hs : J s := hJ s.leaderboard
  rw [updateEntry]
  refine carries_read hs ?_
  cases hrow : s.leaderboard.get (period, standing.playerId) with
  | some existing =>
      rw [hrow] at hentry
      refine carries_write hs ?_ (hJ _) hk
      rw [Services.saveEntry, show existing.next standing = some entry from hentry]
      rfl
  | none =>
      rw [hrow] at hentry
      refine carries_write hs ?_ (hJ _) hk
      rw [hrow, if_neg (by simp), Services.saveEntry,
        show LeaderboardEntry.first standing = some entry from hentry]
      rfl

/-- Each standing of a match is counted in two windows. -/
theorem carries_standings : ∀ {standings : List ReportedStanding} {s : Services},
    (∀ standing ∈ standings, standing.Whole) → (∀ board, J { s with leaderboard := board }) →
    Carries wild J R k { s with leaderboard := countMatch day standings s.leaderboard } →
    Carries wild J R (forEach standings (fun standing k =>
      forEach [.daily day, .allTime] (updateEntry .throws standing) k) k) s
  | [], _, _, _, hk => hk
  | standing :: standings, s, h, hJ, hk => by
      have hwhole := h standing List.mem_cons_self
      refine carries_updateEntry hwhole hJ (carries_updateEntry hwhole (fun board => hJ board) ?_)
      exact carries_standings (fun row hrow => h row (List.mem_cons_of_mem _ hrow))
        (fun board => hJ board) hk

/-- **A match is counted once.** -/
theorem carries_updateLeaderboard {standings : List ReportedStanding} {s : Services}
    (h : ∀ standing ∈ standings, standing.Whole) (hJ : ∀ board, J { s with leaderboard := board })
    (hk : ∀ day,
      Carries wild J R k { s with leaderboard := countMatch day standings s.leaderboard }) :
    Carries wild J R (updateLeaderboard .throws standings k) s :=
  ⟨hJ s.leaderboard, fun c _ => carries_standings h hJ (hk (c.now / 86400000))⟩

end Leaderboard

end SnakeArena.Worker
