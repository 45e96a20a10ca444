import SnakeArena.Library.Rows
import SnakeArena.Worker.Rules
import SnakeArena.Worker.Walks

/-!
# Worker — the leaderboards of a settlement

`updateLeaderboard`, with nothing between its awaits.  A row read is the row written over, so
each standing is counted once in the row of its day and once in the all-time row
(`updateLeaderboard_counts`), and nothing else of a settlement writes a leaderboard
(`settleGame_counts`).

* `InTurn.history`: of settlements that run one after the other, the daily and the all-time rows
  are the sums over those that returned.
* `settleGame_writes`: no other rows are written, whatever runs between the awaits.

The games are not told apart: a settlement that runs twice counts twice.
-/

namespace SnakeArena.Worker
open SnakeArena.Library SnakeArena.Db SnakeArena.Program SnakeArena.Books

/-! ### What a row says -/

/-- A number that reads as an integer is that integer. -/
theorem Number.toInt?_eq {x : Number} {n : ℤ} (h : Number.toInt? x = some n) :
    x = ((n : ℚ) : Number) := by
  unfold Number.toInt? at h
  split at h
  next q =>
    rw [Option.ite_none_right_eq_some] at h
    obtain ⟨hden, hnum⟩ := h
    rw [← Option.some.inj hnum, Rat.coe_int_num_of_den_eq_one hden]
    rfl
  · cases h

/-- The row counts these standings. -/
structure Tallies (entry : LeaderboardEntry) (rows : List ReportedStanding) : Prop where
  gamesPlayed : entry.gamesPlayed = rows.length
  wins : entry.wins = rows.countP (·.placement = 1)
  kills : ((entry.kills : ℚ) : Number) = (rows.map (·.kills)).sum
  score : IsGreatest {x | ∃ row ∈ rows, row.score = x} ((entry.score : ℚ) : Number)

/-- No row counts none. -/
def RowTallies (rows : List ReportedStanding) : Option LeaderboardEntry → Prop
  | none => rows = []
  | some entry => Tallies entry rows

/-- What is written over what was read. -/
def LeaderboardEntry.counting (row : Option LeaderboardEntry) (standing : ReportedStanding) :
    Option LeaderboardEntry :=
  match row with
  | none => LeaderboardEntry.first standing
  | some existing => existing.next standing

/-- The first row of a player says what the standing says. -/
theorem Tallies.first {standing : ReportedStanding} {entry : LeaderboardEntry}
    (h : LeaderboardEntry.first standing = some entry) : Tallies entry [standing] := by
  simp only [LeaderboardEntry.first, Option.bind_eq_bind, Option.bind_eq_some_iff,
    Option.some.injEq] at h
  obtain ⟨score, hscore, kills, hkills, rfl⟩ := h
  refine ⟨rfl, by simp [List.countP_cons], ?_, ?_⟩
  · simp [Number.toInt?_eq hkills]
  · rw [← Number.toInt?_eq hscore]
    refine ⟨⟨standing, List.mem_singleton_self _, rfl⟩, ?_⟩
    rintro _ ⟨row, hrow, rfl⟩
    rw [List.mem_singleton.mp hrow]

/-- A row that counts one standing more. -/
theorem Tallies.next {existing entry : LeaderboardEntry} {rows : List ReportedStanding}
    {standing : ReportedStanding} (ht : Tallies existing rows)
    (h : existing.next standing = some entry) : Tallies entry (rows ++ [standing]) := by
  simp only [LeaderboardEntry.next, Option.bind_eq_bind, Option.bind_eq_some_iff,
    Option.some.injEq] at h
  obtain ⟨score, hscore, kills, hkills, rfl⟩ := h
  refine ⟨?_, ?_, ?_, ?_⟩
  · simp [ht.gamesPlayed]
  · simp [ht.wins, List.countP_append, List.countP_cons]
  · rw [← Number.toInt?_eq hkills, ht.kills]
    simp
  · rw [← Number.toInt?_eq hscore]
    obtain ⟨⟨best, hbest, hmax⟩, hle⟩ := ht.score
    constructor
    · rcases le_total standing.score ((existing.score : ℚ) : Number) with hs | hs
      · exact ⟨best, List.mem_append_left _ hbest, by rw [hmax, max_eq_left hs]⟩
      · exact ⟨standing, by simp, (max_eq_right hs).symm⟩
    · rintro _ ⟨row, hrow, rfl⟩
      rcases List.mem_append.mp hrow with hrow | hrow
      · exact le_max_of_le_left (hle ⟨row, hrow, rfl⟩)
      · rw [List.mem_singleton.mp hrow]
        exact le_max_right _ _

/-- The same, whether there is a row or not. -/
theorem RowTallies.counting {row : Option LeaderboardEntry} {rows : List ReportedStanding}
    {standing : ReportedStanding} {entry : LeaderboardEntry} (ht : RowTallies rows row)
    (h : LeaderboardEntry.counting row standing = some entry) :
    Tallies entry (rows ++ [standing]) := by
  cases row with
  | none =>
      obtain rfl : rows = [] := ht
      exact .first h
  | some existing => exact ht.next h

/-! ### The update -/

/-- The leaderboards, and the reports that they are made of. -/
def Services.board (s : Services) :
    Table (LeaderboardPeriod × ℕ) LeaderboardEntry × Table ℕ (Option MatchResultReport) :=
  (s.leaderboard, s.results)

section Update
variable {s s' : Services} {c : Reply} {cs : List Reply} {o : Outcome} {k : Prog}

/-- A read, with nothing between it and what follows. -/
theorem alone_read {β : Type} {f : Services → β} {k : β → Prog}
    (h : Alone (read f .throws k) s cs s' o) :
    ∃ c cs', cs = c :: cs' ∧ Alone (k (f s)) s cs' s' o := by
  cases h with
  | await h =>
      dsimp only at h
      split at h
      · exact ⟨_, _, rfl, h⟩
      · cases h

/-- A write that went through, with nothing between it and what follows. -/
theorem alone_write {f : Services → Option Services} (h : Alone (write f .throws k) s cs s' o) :
    ∃ v cs', f s = some v ∧ Alone k v cs' s' o := by
  cases h with
  | await h =>
      dsimp only at h
      split at h
      next hf =>
        obtain ⟨harrival, hsome⟩ := hf
        obtain ⟨v, hv⟩ := Option.isSome_iff_exists.mp hsome
        rw [harrival, if_neg nofun, hv] at h
        exact ⟨v, _, hv, h⟩
      · cases h

/-- A row is written over what was read. -/
theorem alone_updateEntry {standing : ReportedStanding} {period : LeaderboardPeriod}
    (h : Alone (updateEntry .throws standing period k) s cs s' o) :
    ∃ entry v cs', LeaderboardEntry.counting
      (s.leaderboard.get (period, standing.playerId)) standing
        = some entry ∧
      v.board = (s.leaderboard.upd (period, standing.playerId) entry, s.results) ∧
        Alone k v cs' s' o := by
  rw [updateEntry] at h
  obtain ⟨-, cs₁, -, h⟩ := alone_read h
  have saved : ∀ {entry : Option LeaderboardEntry} {v : Services},
      s.saveEntry (period, standing.playerId) entry = some v → ∃ e, entry = some e ∧
        v.board = (s.leaderboard.upd (period, standing.playerId) e, s.results) := by
    intro entry v hv
    obtain ⟨e, he, rfl⟩ := Option.map_eq_some_iff.mp hv
    exact ⟨e, he, rfl⟩
  cases hrow : s.leaderboard.get (period, standing.playerId) with
  | some existing =>
      rw [hrow] at h
      obtain ⟨v, cs', hv, h⟩ := alone_write h
      obtain ⟨e, he, hboard⟩ := saved hv
      exact ⟨e, v, cs', he, hboard, h⟩
  | none =>
      rw [hrow] at h
      obtain ⟨v, cs', hv, h⟩ := alone_write h
      rw [hrow, if_neg (by rintro ⟨⟩)] at hv
      obtain ⟨e, he, hboard⟩ := saved hv
      exact ⟨e, v, cs', he, hboard, h⟩

/-- The rows count these standings. -/
def Counts (board : Table (LeaderboardPeriod × ℕ) LeaderboardEntry)
    (rows : LeaderboardPeriod → ℕ → List ReportedStanding) : Prop :=
  ∀ period userId, RowTallies (rows period userId) (board.get (period, userId))

/-- One standing more. -/
def counting (rows : LeaderboardPeriod → ℕ → List ReportedStanding) (period : LeaderboardPeriod)
    (standing : ReportedStanding) : LeaderboardPeriod → ℕ → List ReportedStanding :=
  fun period' userId =>
    rows period' userId ++ if period' = period ∧ userId = standing.playerId then [standing] else []

/-- One row of the board is written, for one standing of its player. -/
theorem Counts.upd {board : Table (LeaderboardPeriod × ℕ) LeaderboardEntry}
    {rows : LeaderboardPeriod → ℕ → List ReportedStanding} (h : Counts board rows)
    {period : LeaderboardPeriod} {standing : ReportedStanding} {entry : LeaderboardEntry}
    (hentry : LeaderboardEntry.counting (board.get (period, standing.playerId)) standing =
      some entry) :
    Counts (board.upd (period, standing.playerId) entry) (counting rows period standing) := by
  intro period' userId
  by_cases hkey : period' = period ∧ userId = standing.playerId
  · obtain ⟨rfl, rfl⟩ := hkey
    rw [counting, if_pos ⟨rfl, rfl⟩, Table.get_upd_same]
    exact (h period' standing.playerId).counting hentry
  · rw [counting, if_neg hkey, List.append_nil, Table.get_upd_other (by simpa using hkey)]
    exact h period' userId

/-- The standings of a match, in the rows of its day and in the all-time rows. -/
def standingsOf (day : ℤ) (standings : List ReportedStanding) (period : LeaderboardPeriod)
    (userId : ℕ) : List ReportedStanding :=
  if period = .daily day ∨ period = .allTime then standings.filter (·.playerId = userId) else []

/-- From the rows that count some standings to those that count the ones of a match too. -/
def CountsMatch (day : ℤ) (standings : List ReportedStanding)
    (board board' : Table (LeaderboardPeriod × ℕ) LeaderboardEntry) : Prop :=
  ∀ rows, Counts board rows → Counts board' fun period userId =>
    rows period userId ++ standingsOf day standings period userId

/-- Each of the two rows of a standing is written once. -/
theorem alone_standings {day : ℤ} {standings : List ReportedStanding} :
    ∀ {s : Services} {cs : List Reply}, Alone (forEach standings
        (fun standing k => forEach [.daily day, .allTime] (updateEntry .throws standing) k) k)
          s cs s' o →
      ∃ v cs', CountsMatch day standings s.leaderboard v.leaderboard ∧ v.results = s.results ∧
        Alone k v cs' s' o := by
  induction standings with
  | nil =>
      intro s cs h
      refine ⟨s, cs, fun rows hrows => ?_, rfl, h⟩
      simpa only [standingsOf, List.filter_nil, ite_self, List.append_nil] using hrows
  | cons standing standings ih =>
      intro s cs h
      obtain ⟨e, v, cs₁, he, hv, h⟩ := alone_updateEntry h
      obtain ⟨e', v', cs₂, he', hv', h⟩ := alone_updateEntry h
      obtain ⟨hboard, hresults⟩ := Prod.mk.inj hv
      obtain ⟨hboard', hresults'⟩ := Prod.mk.inj hv'
      rw [hboard] at he' hboard'
      obtain ⟨w, cs', hw, hresults'', h⟩ := ih h
      refine ⟨w, cs', fun rows hrows => ?_, hresults''.trans (hresults'.trans hresults), h⟩
      convert hw _ (hboard' ▸ (hrows.upd he).upd he') using 3 with period userId
      unfold counting standingsOf
      rw [List.filter_cons]
      -- The two periods differ, so one row of the player is written, or none.
      by_cases huser : userId = standing.playerId
      · by_cases hday : period = .daily day
        · simp [hday, huser]
        · by_cases hall : period = .allTime <;> simp [hday, hall, huser]
      · simp [huser, Ne.symm huser]

/-- **The update counts a match once** in each of the two rows of each player. -/
theorem updateLeaderboard_counts {standings : List ReportedStanding}
    (h : Alone (updateLeaderboard .throws standings k) s cs s' o) :
    ∃ c v cs', c ∈ cs ∧ CountsMatch (c.now / 86400000) standings s.leaderboard v.leaderboard ∧
      v.results = s.results ∧ Alone k v cs' s' o := by
  cases h with
  | await h =>
      obtain ⟨v, cs', hv, hresults, h⟩ := alone_standings h
      exact ⟨_, v, cs', List.mem_cons_self, hv, hresults, h⟩

end Update

/-! ### The rest of a settlement -/

/-- Whatever it returns, on its own, is as `Q` says. -/
def ReturnsAs (Q : Services → List Reply → Services → Outcome → Prop) (prog : Prog) : Prop :=
  ∀ s cs s' o, Alone prog s cs s' o → Q s cs s' o

/-- It does not matter what was awaited before that left the leaderboards. -/
def Framed (Q : Services → List Reply → Services → Outcome → Prop) : Prop :=
  ∀ s v c cs s' o, v.board = s.board → Q v cs s' o → Q s (c :: cs) s' o

section Walk
variable {Q : Services → List Reply → Services → Outcome → Prop} {rt : Runtime} {throw k : Prog}

theorem returns_throws : ReturnsAs Q .throws := nofun

/-- An await that leaves the board returns as what follows it. -/
theorem returns_await (hQ : Framed Q) {op : Op} {act : Services → Reply → Services}
    {k : Services → Reply → Prog} (hact : ∀ s c, (act s c).board = s.board)
    (hk : ∀ s c, ReturnsAs Q (k s c)) : ReturnsAs Q (.await op act k) := by
  intro s cs s' o h
  cases h with
  | await h => exact hQ s _ _ _ s' o (hact s _) (hk s _ _ _ s' o h)

/-- A write that leaves the board, and its throw. -/
theorem returns_write (hQ : Framed Q) {f : Services → Option Services}
    (hf : ∀ s v, f s = some v → v.board = s.board) (hthrow : ReturnsAs Q throw)
    (hk : ReturnsAs Q k) : ReturnsAs Q (write f throw k) := by
  refine returns_await hQ (fun s c => ?_) fun s c => ?_
  · split
    · rfl
    · cases hv : f s with
      | none => rfl
      | some v => exact hf s v hv
  · split
    · exact hk
    · exact hthrow

/-- The books are not the board. -/
theorem returns_transaction (hQ : Framed Q) (hthrow : ReturnsAs Q throw) (hk : ReturnsAs Q k)
    {t : Books.Prog} :
    ∀ {pending : List Statement}, ReturnsAs Q (transaction throw k t pending) := by
  induction t with
  | done => exact hk
  | read f ih =>
      intro pending
      rw [transaction]
      refine returns_await hQ (fun _ _ => rfl) fun s c => ?_
      split
      · exact ih _
      · exact hthrow
  | execute b f ih =>
      intro pending
      rw [transaction]
      refine returns_await hQ (fun _ _ => rfl) fun s c => ?_
      split
      · exact ih none
      · exact hthrow
  | commit l next ih =>
      intro pending
      rw [transaction]
      refine returns_await hQ (fun s c => ?_) fun s c => ?_
      · split <;> rfl
      · split
        · exact ih
        · exact hthrow
  | ask f ih =>
      intro pending
      rw [transaction]
      exact returns_await hQ (fun _ _ => rfl) fun _ _ => ih _

theorem board_updateGame {gameId : ℕ} {data : Game → Game} {s v : Services}
    (h : s.updateGame gameId data = some v) : v.board = s.board := by
  obtain ⟨game, -, rfl⟩ := Option.map_eq_some_iff.mp h
  rfl

theorem board_upsertEscrow {gameId : ℕ} (s : Services) :
    (s.upsertEscrow gameId).board = s.board := by
  unfold Services.upsertEscrow
  split <;> rfl

/-- The chain is not the board. -/
theorem board_land {now : ℤ} {i : Instruction} (s : Services) :
    (s.land rt now i).board = s.board := by
  unfold Services.land
  split <;> rfl

/-- Sending an instruction, with its retries, leaves the board. -/
theorem returns_sendSigned (hQ : Framed Q) {op : Op} {i : Instruction}
    {k : Except Failure String → Prog} (hk : ∀ r, ReturnsAs Q (k r)) :
    ∀ {attempts : ℕ}, ReturnsAs Q (sendSigned rt op i k attempts)
  | 0 => hk _
  | attempts + 1 => by
      refine returns_await hQ (fun s c => ?_) fun s c => ?_
      · split
        · rfl
        · exact board_land s
      · split_ifs
        · exact hk _
        · exact returns_sendSigned hQ hk
        · exact hk _

/-- A row of a game is none of the board. -/
theorem returns_updateGame (hQ : Framed Q) {gameId : ℕ} {data : Game → Game}
    (hthrow : ReturnsAs Q throw) (hk : ReturnsAs Q k) :
    ReturnsAs Q (updateGame gameId data throw k) :=
  returns_write hQ (fun _ _ => board_updateGame) hthrow hk

/-- What a settlement awaits, but for the board itself. -/
theorem returns_settles (hQ : Framed Q) {gameId : ℕ} :
    Settles rt gameId (ReturnsAs Q) (ReturnsAs Q) where
  look hk := returns_await hQ (fun _ _ => rfl) hk
  update _ := returns_updateGame hQ
  finish _ := returns_updateGame hQ
  standing := returns_write hQ fun s v hv => Option.some.inj hv ▸ rfl
  reward := returns_write hQ fun s v hv => by
    split at hv <;> obtain rfl := Option.some.inj hv <;> rfl
  escrow := returns_write hQ fun s v hv => Option.some.inj hv ▸ board_upsertEscrow s
  send _ hk := returns_sendSigned hQ hk
  ledger hthrow hk := returns_transaction hQ hthrow hk

end Walk

/-! ### A settlement -/

/-- It leaves the leaderboards. -/
def LeavesBoard (P : Outcome → Prop) (s : Services) (_ : List Reply) (s' : Services) (o : Outcome) :
    Prop := s'.board = s.board ∧ P o

/-- Leaving the board goes through what leaves it. -/
theorem LeavesBoard.framed {P : Outcome → Prop} : Framed (LeavesBoard P) :=
  fun _ _ _ _ _ _ hv h => ⟨h.1.trans hv, h.2⟩

/-- A settlement that paid, or had nothing to pay. -/
def Outcome.settled : Outcome → Bool
  | .settle _ (.settled ..) => true
  | _ => false

/-- It counts a report that verified, at a time that it was told, if it settled. -/
def CountsOnce (gameId : ℕ) (report : MatchResultReport) (s : Services) (cs : List Reply)
    (s' : Services) (o : Outcome) : Prop :=
  s'.results = s.results ∧
    bif o.settled then
      ∃ c ∈ cs, ∃ context : VerificationContext, context.gameId = gameId ∧
        (verifyResult report context).ok = true ∧
          CountsMatch (c.now / 86400000) (verifyResult report context).standings s.leaderboard
            s'.leaderboard
    else s'.leaderboard = s.leaderboard

section Settlement
variable {deps : SettleDeps} {gameId : ℕ} {report : MatchResultReport}

/-- So does counting a game once. -/
theorem CountsOnce.framed : Framed (CountsOnce gameId report) := by
  rintro s v c cs s' o hv ⟨hresults, h⟩
  obtain ⟨hboard, hresults'⟩ := Prod.mk.inj hv
  refine ⟨hresults.trans hresults', ?_⟩
  rw [← hboard]
  cases ho : o.settled with
  | true =>
      rw [ho] at h
      obtain ⟨c', hc', h⟩ := h
      exact ⟨c', List.mem_cons_of_mem _ hc', h⟩
  | false =>
      rw [ho] at h
      exact h

/-- An outcome that is not of a settlement counts nothing. -/
theorem returns_ret {o : Outcome} (ho : o.settled = false) :
    ReturnsAs (CountsOnce gameId report) (.returns o) := by
  intro s cs s' o' h
  cases h
  exact ⟨rfl, by rw [ho]; rfl⟩

/-- **The board counts the standings once, and nothing after it does.**. -/
theorem returns_updateLeaderboard {context : VerificationContext} {k : Prog}
    (hgame : context.gameId = gameId) (hok : (verifyResult report context).ok = true)
    (hk : ReturnsAs (LeavesBoard (·.settled = true)) k) :
    ReturnsAs (CountsOnce gameId report)
      (updateLeaderboard .throws (verifyResult report context).standings k) := by
  intro s cs s' o h
  obtain ⟨c, v, cs', hc, hv, hresults, h⟩ := updateLeaderboard_counts h
  obtain ⟨hboard, ho⟩ := hk v cs' s' o h
  obtain ⟨hboard, hresults'⟩ := Prod.mk.inj hboard
  refine ⟨hresults'.trans hresults, ?_⟩
  rw [ho, hboard]
  exact ⟨c, hc, context, hgame, hok, hv⟩

/-- The function of a call, which throws what it does not catch. -/
def settleCall (deps : SettleDeps) (gameId : ℕ) : Prog :=
  settleGame deps gameId .throws fun o => .returns (.settle gameId o)

/-- A report is counted if it is settled. -/
theorem returns_settleReport {game : Game} : ReturnsAs (CountsOnce gameId report)
    (settleReport deps gameId .throws (fun o => .returns (.settle gameId o)) game report) := by
  have walk : Settles deps.runtime gameId (ReturnsAs (CountsOnce gameId report))
      (ReturnsAs (CountsOnce gameId report)) := returns_settles CountsOnce.framed
  have rest : Settles deps.runtime gameId (ReturnsAs (LeavesBoard (·.settled = true)))
      (ReturnsAs (LeavesBoard (·.settled = true))) := returns_settles LeavesBoard.framed
  have returned : ∀ winnerId split signature, ReturnsAs (LeavesBoard (·.settled = true))
      (.returns (.settle gameId (.settled winnerId split signature))) := by
    intro winnerId split signature s cs s' o h
    cases h
    exact ⟨rfl, rfl⟩
  refine walk.settleReport returns_throws returns_throws (returns_ret rfl)
    (fun _ => returns_ret rfl) ?_
  intro context hgame hok winnerId pot rakeBps
  refine walk.payOut returns_throws (fun _ => returns_ret rfl) (fun signature => ?_)
    returns_throws ?_
  · exact walk.recordRewards returns_throws <| returns_updateLeaderboard hgame hok <|
      rest.finish true returns_throws <| rest.notify (returned _ _ _)
  · exact returns_updateLeaderboard hgame hok <| rest.notify (returned _ _ _)

/-- **A settlement counts once** the report that it found, if it settled. -/
theorem settleCall_counts {s s' : Services} {cs : List Reply} {o : Outcome}
    (h : Alone (settleCall deps gameId) s cs s' o) :
    o.settled = false ∧ s'.leaderboard = s.leaderboard ∨
      ∃ report, s.results.get gameId = some (some report) ∧ CountsOnce gameId report s cs s' o := by
  have leaves : ∀ {o' : Outcome} {cs' : List Reply}, o'.settled = false →
      Alone (.returns o' : Prog) s cs' s' o →
        o.settled = false ∧ s'.leaderboard = s.leaderboard := by
    intro o' cs' ho' h
    cases h
    exact ⟨ho', rfl⟩
  rw [settleCall, settleGame] at h
  obtain ⟨c₁, cs₁, hcs₁, h⟩ := alone_read h
  split at h
  · exact .inl (leaves rfl h)
  · split_ifs at h
    · exact .inl (leaves rfl h)
    · exact .inl (leaves rfl h)
    · obtain ⟨c₂, cs₂, hcs₂, h⟩ := alone_read h
      split at h
      · exact .inl (leaves rfl h)
      · exact .inl (leaves rfl h)
      next report hreport =>
        refine .inr ⟨report, hreport, ?_⟩
        rw [hcs₁, hcs₂]
        exact .framed s s c₁ _ s' o rfl (.framed s s c₂ _ s' o rfl
          (returns_settleReport s cs₂ s' o h))

end Settlement

/-! ### Which rows are written -/

/-- There are no others. -/
def OnlyWritten (s : Services) : Prop :=
  ∀ period userId, ¬period.Written → s.leaderboard.get (period, userId) = none

/-- Whatever the others do, it writes no others. -/
abbrev Writes (prog : Prog) : Prop :=
  Does (fun _ _ _ _ => True) (fun s s' => OnlyWritten s → OnlyWritten s') (fun _ => True) prog

section Writes
variable {deps : SettleDeps} {gameId : ℕ}

/-- A board that is left has no other rows. -/
theorem OnlyWritten.of_board {s v : Services} (h : v.board = s.board) (hs : OnlyWritten s) :
    OnlyWritten v := by
  intro period userId hperiod
  rw [(Prod.mk.inj h).1]
  exact hs period userId hperiod

/-- A write of anything but the board. -/
theorem writes_aside {f : Services → Option Services} {throw k : Prog}
    (hf : ∀ s v, f s = some v → v.board = s.board) (hthrow : Writes throw) (hk : Writes k) :
    Writes (write f throw k) :=
  does_write (fun _ h => h) hthrow (fun s v hv hs => hs.of_board (hf s v hv)) fun _ _ _ _ _ => hk

/-- Of what a settlement awaits, the update of the board alone writes rows. -/
theorem writes_settles {rt : Runtime} : Settles rt gameId Writes Writes where
  look hk s c _ := ⟨fun h => h, hk s c⟩
  update _ := writes_aside fun _ _ => board_updateGame
  finish _ := writes_aside fun _ _ => board_updateGame
  standing := writes_aside fun s v hv => Option.some.inj hv ▸ rfl
  reward := writes_aside fun s v hv => by
    split at hv <;> obtain rfl := Option.some.inj hv <;> rfl
  escrow := writes_aside fun s v hv => Option.some.inj hv ▸ board_upsertEscrow s
  send _ hk := does_sendSigned (fun _ h => h) (fun s _ hs => hs.of_board (board_land s)) hk
  ledger hthrow hk := does_transaction (fun _ h => h) hthrow (fun _ _ hs => hs) hk

/-- The rows that it saves are of its day or of all time. -/
theorem writes_updateLeaderboard {standings : List ReportedStanding} {k : Prog} (hk : Writes k) :
    Writes (updateLeaderboard .throws standings k) := by
  refine walk_updateLeaderboard (fun hk s c _ => ⟨fun h => h, hk s c⟩) (fun hf hthrow hk => ?_)
    trivial hk
  refine does_write (fun _ h => h) hthrow (fun s v hv hs period userId hother => ?_)
    fun _ _ _ _ _ => hk
  obtain ⟨written, userId', entry, hwritten, rfl⟩ := hf s v hv
  have hkey : (period, userId) ≠ (written, userId') := by
    intro heq
    exact hother ((Prod.mk.inj heq).1 ▸ hwritten)
  exact (Table.get_upd_other hkey).trans (hs period userId hother)

/-- **A settlement writes only the rows of its day and of all time**, whatever runs beside it. -/
theorem settleGame_writes : Writes (settleCall deps gameId) :=
  have notified : ∀ o, Writes (notifyPlayers (.returns (.settle gameId o))) :=
    fun _ => does_notify (fun _ h => h) trivial
  writes_settles.settleGame (fun _ _ => writes_updateLeaderboard) trivial (fun _ => trivial) trivial
    (fun _ => trivial) notified fun _ o => writes_updateLeaderboard (notified o)

end Writes

/-! ### One after the other -/

/-- A match that settled: its standings are verified. -/
structure SettledMatch where
  gameId : ℕ
  /-- When its leaderboards were updated. -/
  settledAt : ℤ
  standings : List ReportedStanding
  entered : standings ≠ []
  players : UniqueKeys (·.playerId) standings

/-- A settlement that settled a game, with the report that it found and what its clock said. -/
structure SettledRun where
  gameId : ℕ
  report : MatchResultReport
  clock : List ℤ

/-- The match that a run settled. -/
structure SettledRun.Of (run : SettledRun) (m : SettledMatch) : Prop where
  gameId : m.gameId = run.gameId
  settledAt : m.settledAt ∈ run.clock
  standings : m.standings.Perm run.report.standings

/-- The runs are of the games of the history. -/
theorem SettledRun.gameIds {runs : List SettledRun} {history : List SettledMatch}
    (h : List.Forall₂ SettledRun.Of runs history) :
    runs.map (·.gameId) = history.map (·.gameId) := by
  induction h with
  | nil => rfl
  | cons hrun _ ih => rw [List.map_cons, List.map_cons, hrun.gameId, ih]

/-- The settlements so far, from empty leaderboards, each from its first await to its return. -/
inductive InTurn (deps : SettleDeps) : List SettledRun → Services → Prop
  | start {s : Services} (h : s.leaderboard = .empty) : InTurn deps [] s
  /-- Whatever else happens leaves the leaderboards. -/
  | elsewhere {runs : List SettledRun} {s s' : Services} (h : InTurn deps runs s)
      (hboard : s'.leaderboard = s.leaderboard) : InTurn deps runs s'
  | settles {runs : List SettledRun} {s s' : Services} {gameId : ℕ} {cs : List Reply} {o : Outcome}
      (h : InTurn deps runs s) (hrun : Alone (settleCall deps gameId) s cs s' o) :
      InTurn deps
        (match o.settled, s.results.get gameId with
          | true, some (some report) => runs ++ [⟨gameId, report, cs.map (·.now)⟩]
          | _, _ => runs) s'

/-- What a match counts in a row. -/
def SettledMatch.counted (m : SettledMatch) (period : LeaderboardPeriod) (userId : ℕ) :
    List ReportedStanding := standingsOf (m.settledAt / 86400000) m.standings period userId

/-- **The rows are the sums** over the settlements that settled a game. -/
theorem InTurn.history {deps : SettleDeps} {runs : List SettledRun} {s : Services}
    (h : InTurn deps runs s) :
    ∃ history : List SettledMatch, List.Forall₂ SettledRun.Of runs history ∧
      Counts s.leaderboard fun period userId =>
        history.flatMap fun m => m.counted period userId := by
  induction h with
  | start h =>
      refine ⟨[], .nil, fun period userId => ?_⟩
      rw [h]
      rfl
  | elsewhere h hboard ih =>
      obtain ⟨history, hruns, hcounts⟩ := ih
      exact ⟨history, hruns, hboard ▸ hcounts⟩
  | @settles runs s s' gameId cs o h hrun ih =>
      obtain ⟨history, hruns, hcounts⟩ := ih
      rcases settleCall_counts hrun with ⟨ho, hboard⟩ | ⟨report, hreport, hresults, hcounted⟩
      · rw [ho]
        exact ⟨history, hruns, hboard ▸ hcounts⟩
      · rw [hreport]
        cases ho : o.settled with
        | false =>
            rw [ho] at hcounted
            exact ⟨history, hruns, hcounted ▸ hcounts⟩
        | true =>
            rw [ho] at hcounted
            obtain ⟨c, hc, context, hgame, hok, hcounted⟩ := hcounted
            have hwf := (verifyResult_ok.mp hok).wellFormed
            have hperm : (verifyResult report context).standings.Perm report.standings := by
              rw [verifyResult_standings hok]
              exact List.perm_insertionSort _ _
            refine ⟨history ++ [⟨gameId, c.now, (verifyResult report context).standings,
              fun hnil => hwf.standings (List.perm_nil.mp (hnil ▸ hperm.symm)),
              (hperm.map _).nodup_iff.mpr hwf.players⟩], ?_, ?_⟩
            · exact List.rel_append hruns (.cons ⟨rfl, List.mem_map_of_mem hc, hperm⟩ .nil)
            · simpa only [List.flatMap_append, List.flatMap_singleton, SettledMatch.counted] using
                hcounted _ hcounts

end SnakeArena.Worker
