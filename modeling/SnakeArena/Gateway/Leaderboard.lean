import SnakeArena.Library.Calendar
import SnakeArena.Worker.Leaderboard
import SnakeArena.Worker.Recorded

/-!
# Gateway — the leaderboards and the match history

`routes/leaderboard.routes.ts` serves four windows, each by the key of the period that an instant
is in.  The worker writes two of them.

* `leaderboards_match_history`: whatever the worker ran, the rows of all four windows are the match
  history only while it is empty.  The daily and the all-time rows are, where the settlements run
  one after the other and settle each game once.
* `leaderboards_miscount`: no row of the week of a settlement, and a game that is settled first
  without its pot and then with it is two games in the all-time row.
-/

namespace SnakeArena.Gateway
open SnakeArena.Library SnakeArena.Worker SnakeArena.Program SnakeArena.Db

/-! ### The windows -/

inductive WindowName where
  | daily | weekly | monthly | allTime
deriving DecidableEq

/-- `2026-07-30`, `2026-W31`, `2026-07` or `all`. -/
inductive PeriodKey where
  | day (date : Civil)
  | week (year week : ℤ)
  | month (year month : ℤ)
  | all
deriving DecidableEq

/-- The ISO-8601 week: the Thursday of the week decides the year. -/
def weekKey (today : ℤ) : PeriodKey :=
  let day := if weekday today = 0 then 7 else weekday today
  let date := today + 4 - day
  let year := (Civil.ofDays date).year
  let yearStart := Civil.days ⟨year, 1, 1⟩
  -- `Math.ceil` of a seventh.
  .week year ((date - yearStart + 1 + 6) / 7)

/-- The period key for a window at a given instant, in milliseconds. -/
def periodKeyFor (window : WindowName) (now : ℤ) : PeriodKey :=
  let today := now / 86400000
  match window with
  | .daily => .day (Civil.ofDays today)
  | .monthly => .month (Civil.ofDays today).year (Civil.ofDays today).month
  | .allTime => .all
  | .weekly => weekKey today

/-- The first days of 2027 are in the last week of 2026. -/
example : periodKeyFor .weekly (20455 * 86400000) = .week 2026 1 ∧
    periodKeyFor .weekly (20820 * 86400000) = .week 2026 53 := by decide

/-- The window and the key of a row, as they are stored. -/
def columns : LeaderboardPeriod → WindowName × PeriodKey
  | .daily day => (.daily, .day (Civil.ofDays day))
  | .weekly year week => (.weekly, .week year week)
  | .monthly year month => (.monthly, .month year month)
  | .allTime => (.allTime, .all)

/-- The row that the gateway finds by its window, its key and its user. -/
def Stored (s : Services) (window : WindowName) (key : PeriodKey) (userId : ℕ)
    (entry : LeaderboardEntry) : Prop :=
  ∃ period, columns period = (window, key) ∧ s.leaderboard.get (period, userId) = some entry

/-! ### The match history -/

/-- What a player did in the matches of a period. -/
def playedIn (history : List SettledMatch) (window : WindowName) (key : PeriodKey) (userId : ℕ) :
    List ReportedStanding :=
  (history.filter fun m => periodKeyFor window m.settledAt = key).filterMap fun m =>
    m.standings.find? (·.playerId = userId)

theorem playedIn_length_le (history : List SettledMatch) (window : WindowName) (key : PeriodKey)
    (userId : ℕ) : (playedIn history window key userId).length ≤ history.length :=
  (List.length_filterMap_le _ _).trans (List.length_filter_le _ _)

/-- The rows of a window, at the key of each settlement, say what the players did. -/
def Agrees (s : Services) (history : List SettledMatch) (window : WindowName) : Prop :=
  ∀ m ∈ history, ∀ standing ∈ m.standings, ∃ entry,
    Stored s window (periodKeyFor window m.settledAt) standing.playerId entry ∧
      Tallies entry (playedIn history window (periodKeyFor window m.settledAt) standing.playerId)

/-- Where only the rows of days and of all time are written, there is none of a week. -/
theorem weekly_not_stored {s : Services} (h : OnlyWritten s) {key : PeriodKey} {userId : ℕ}
    {entry : LeaderboardEntry} : ¬Stored s .weekly key userId entry := by
  rintro ⟨period, hcolumns, hget⟩
  cases period with
  | daily | monthly | allTime => cases hcolumns
  | weekly year week =>
      rw [h (.weekly year week) userId (by exact not_false)] at hget
      cases hget

theorem standing_of_player {standings : List ReportedStanding} (userId : ℕ)
    (h : UniqueKeys (·.playerId) standings) :
    standings.filter (·.playerId = userId) = (standings.find? (·.playerId = userId)).toList := by
  induction standings with
  | nil => rfl
  | cons standing standings ih =>
      by_cases huser : standing.playerId = userId
      · rw [List.filter_cons_of_pos (by simpa using huser),
          List.find?_cons_of_pos (by simpa using huser), Option.toList_some, List.cons.injEq]
        refine ⟨rfl, List.filter_eq_nil_iff.mpr fun other hother => ?_⟩
        simpa [huser] using h.tail other hother
      · rw [List.filter_cons_of_neg (by simpa using huser),
          List.find?_cons_of_neg (by simpa using huser)]
        exact ih (List.nodup_cons.mp h).2

/-- A row of the worker's is of one period of the gateway's. -/
theorem counted_eq {history : List SettledMatch} {period : LeaderboardPeriod}
    {window : WindowName} {key : PeriodKey} {userId : ℕ}
    (h : ∀ m : SettledMatch, (period = .daily (m.settledAt / 86400000) ∨ period = .allTime) ↔
      periodKeyFor window m.settledAt = key) :
    (history.flatMap fun m => m.counted period userId) = playedIn history window key userId := by
  induction history with
  | nil => rfl
  | cons m history ih =>
      rw [List.flatMap_cons, ih, SettledMatch.counted, standingsOf]
      unfold playedIn
      rw [List.filter_cons]
      by_cases hkey : periodKeyFor window m.settledAt = key
      · rw [if_pos ((h m).mpr hkey), if_pos (by simpa using hkey),
          standing_of_player userId m.players]
        cases hfind : m.standings.find? (·.playerId = userId) with
        | none => simp [hfind]
        | some standing => simp [hfind]
      · rw [if_neg (mt (h m).mp hkey), if_neg (by simpa using hkey)]
        rfl

/-- Where the rows of a period are the sums, the window agrees at its key. -/
theorem agrees_of_counts {s : Services} {history : List SettledMatch} {window : WindowName}
    (hcounts : Counts s.leaderboard fun period userId =>
      history.flatMap fun m => m.counted period userId)
    (h : ∀ m ∈ history, ∃ period, columns period = (window, periodKeyFor window m.settledAt) ∧
      ∀ m' : SettledMatch, (period = .daily (m'.settledAt / 86400000) ∨ period = .allTime) ↔
        periodKeyFor window m'.settledAt = periodKeyFor window m.settledAt) :
    Agrees s history window := by
  intro m hm standing hstanding
  obtain ⟨period, hcolumns, hperiod⟩ := h m hm
  have hrow := hcounts period standing.playerId
  simp only [counted_eq hperiod] at hrow
  cases hget : s.leaderboard.get (period, standing.playerId) with
  | some entry =>
      rw [hget] at hrow
      exact ⟨entry, ⟨period, hcolumns, hget⟩, hrow⟩
  | none =>
      rw [hget] at hrow
      -- The match itself is counted, so there is a row.
      have hmem : m ∈ history.filter fun m' =>
          periodKeyFor window m'.settledAt = periodKeyFor window m.settledAt :=
        List.mem_filter.mpr ⟨hm, by simp⟩
      have hnone := List.filterMap_eq_nil_iff.mp hrow m hmem
      rw [List.find?_eq_none] at hnone
      exact absurd (decide_eq_true rfl) (hnone standing hstanding)

theorem elsewhere_board {rt : Runtime} {s v : Services} {e : Elsewhere}
    (h : elsewhere rt s e = some v) : v.board = s.board := by
  cases e with
  | exec now i =>
      simp only [elsewhere] at h
      split at h
      · cases h
      · exact Option.some.inj h ▸ board_land s
  | transfer m =>
      simp only [elsewhere, Option.ite_none_right_eq_some] at h
      exact Option.some.inj h.2 ▸ rfl

/-- Before the first call, with empty leaderboards. -/
structure FreshBoards (s : System Services (Task Services Op Worker.Reply Outcome WorkerCall)) :
    Prop where
  procs : s.procs = Table.empty
  leaderboard : s.store.leaderboard = Table.empty

/-- In every run of settlements and closing lobbies, only rows of days and of all time are there. -/
theorem written_of_reachable {deps : SettleDeps}
    {s : System Services (Task Services Op Worker.Reply Outcome WorkerCall)}
    (hs : Reachable (worker deps).processes.Step FreshBoards s) : OnlyWritten s.store := by
  have hkeeps : (worker deps).processes.Keeps (fun _ _ => True) OnlyWritten
      (fun _ _ p => Task.Tame (fun _ _ _ _ => True) (fun s s' => OnlyWritten s → OnlyWritten s')
        (fun _ => True) p) fun _ _ => True := by
    refine Functions.does_keeps (fun _ _ _ _ _ _ _ _ _ => trivial) (fun request => ?_) ?_
    · cases request with
      | settleGame gameId => exact settleGame_writes
      | closeLobby tier gameId =>
          exact writes_settles.closeLobby (show Writes .throws from trivial)
            fun r => show Writes (.returns (.stage r)) from trivial
    · rintro s e s' hs - he
      exact hs.of_board (elsewhere_board he)
  obtain ⟨s₀, ls, hfresh, hrun⟩ := hs
  refine (hkeeps.reachable (fun s (h : FreshBoards s) => ⟨?_, ?_, ?_⟩)
    ⟨s₀, ls, hfresh, hrun.mono fun _ _ _ h => ⟨h, trivial⟩⟩).1
  · intro period userId _
    rw [h.leaderboard]
    rfl
  · rw [h.procs]
    exact Table.All.empty
  · exact fun _ _ _ _ _ _ _ => trivial

/-- **The leaderboards are the match history** in no window but two: whatever the worker ran, a game
that settled has no row of its week.  The rows of its day and of all time are the sums over the
games, of settlements that run one after the other and settle each game once. -/
theorem leaderboards_match_history (deps : SettleDeps) :
    (∀ s, Reachable (worker deps).processes.Step FreshBoards s →
      ∀ history : List SettledMatch, (∀ window, Agrees s.store history window) ↔ history = []) ∧
    ∀ (runs : List SettledRun) (s : Services), InTurn deps runs s → (runs.map (·.gameId)).Nodup →
      ∃ history, List.Forall₂ SettledRun.Of runs history ∧ (history.map (·.gameId)).Nodup ∧
        Agrees s history .daily ∧ Agrees s history .allTime := by
  constructor
  · intro s hs history
    constructor
    · intro h
      cases history with
      | nil => rfl
      | cons m history =>
          obtain ⟨standing, hstanding⟩ := List.exists_mem_of_ne_nil _ m.entered
          obtain ⟨entry, hstored, -⟩ := h .weekly m List.mem_cons_self standing hstanding
          exact absurd hstored (weekly_not_stored (written_of_reachable hs))
    · rintro rfl window m hm
      cases hm
  · intro runs s h hdistinct
    obtain ⟨history, hruns, hcounts⟩ := h.history
    refine ⟨history, hruns, ?_, agrees_of_counts hcounts fun m hm => ?_,
      agrees_of_counts hcounts fun m hm => ?_⟩
    · rwa [SettledRun.gameIds hruns] at hdistinct
    · refine ⟨.daily (m.settledAt / 86400000), rfl, fun m' => ?_⟩
      simp [periodKeyFor, Civil.ofDays_injective.eq_iff, eq_comm]
    · exact ⟨.allTime, rfl, fun m' => by simp [periodKeyFor]⟩

/-! ### Matches with a pot -/

/-- Players 1 and 2 have entered the rooms of games 7 and 8. -/
def enteredRooms : Result State :=
  execAll .validator .funded
    [(0, Call.initializeProgram (.key 1) (.key 2) (.key 3) 500 50),
      (1, Call.createRoom (.key 2) (roomIdFromUuid 7) 1000000 4),
      (2, Call.enterRoom (.key 4) (roomIdFromUuid 7)),
      (3, Call.enterRoom (.key 5) (roomIdFromUuid 7)),
      (4, Call.createRoom (.key 2) (roomIdFromUuid 8) 1000000 4),
      (5, Call.enterRoom (.key 5) (roomIdFromUuid 8)),
      (6, Call.enterRoom (.key 4) (roomIdFromUuid 8))]

/-- Player 1 has won game 7, and player 2 game 8. -/
def twoMatches (chain : State) : Services :=
  let store := (finishedGame chain).store
  { store with
    database :=
      { store.database with games := store.database.games.upd 8 (.created "node" 500) }
    results :=
      store.results.upd 8 (some ⟨8, "", "node", [placed 2 1 7 1 80, placed 1 2 4 0 60], 0⟩) }

theorem freshBoards_finishedGame (chain : State) : FreshBoards (finishedGame chain) := ⟨rfl, rfl⟩

/-- As the report of game 7 has it. -/
def firstMatch : SettledMatch where
  gameId := 7
  settledAt := 0
  standings := finishedReport.standings
  entered := List.cons_ne_nil _ _
  players := by unfold UniqueKeys; decide

theorem leaderboards_match_history_paid :
    (∃ s, Reachable (worker settler).processes.Step FreshBoards s ∧
      (∃ game, s.store.database.games.get 7 = some game ∧ game.settlementStatus = .confirmed) ∧
        ¬∀ window, Agrees s.store [firstMatch] window) ∧
    ∃ runs s, InTurn settler runs s ∧ runs.map (·.gameId) = [7, 8] ∧
      ∃ history, List.Forall₂ SettledRun.Of runs history ∧ (history.map (·.gameId)).Nodup ∧
        Agrees s history .daily ∧ Agrees s history .allTime := by
  obtain ⟨hnever, honce⟩ := leaderboards_match_history settler
  constructor
  · have hrun : enteredRoom.passes (fun chain =>
        ((worker settler).processes.acts (finishedGame chain) settleOnce).any fun s =>
          (s.store.database.games.get 7).any fun game =>
            decide (game.settlementStatus = .confirmed)) = true := by
      decide +kernel
    obtain ⟨chain, -, htest⟩ := Result.passes_iff.mp hrun
    obtain ⟨s, hs, hgame⟩ :=
      (worker settler).processes.reachable_of_acts (freshBoards_finishedGame chain) htest
    obtain ⟨game, hgame, hconfirmed⟩ := (Option.any_eq_true _ _).mp hgame
    refine ⟨s, hs, ⟨game, hgame, of_decide_eq_true hconfirmed⟩, fun h => ?_⟩
    exact List.cons_ne_nil _ _ ((hnever s hs _).mp h)
  · have hrun : enteredRooms.passes (fun chain =>
        ((settleCall settler 7).alone (twoMatches chain) (List.replicate 40 {})).any
          fun (v, o) => o.settled && ((settleCall settler 8).alone v (List.replicate 40 {})).any
            fun (_, o) => o.settled) = true := by
      decide +kernel
    obtain ⟨chain, -, htest⟩ := Result.passes_iff.mp hrun
    obtain ⟨⟨v, o⟩, hfirst, htest⟩ := (Option.any_eq_true _ _).mp htest
    obtain ⟨ho, htest⟩ := Bool.and_eq_true_iff.mp htest
    obtain ⟨⟨w, o'⟩, hsecond, ho'⟩ := (Option.any_eq_true _ _).mp htest
    obtain ⟨cs, hfirst⟩ := Alone.of_alone hfirst
    obtain ⟨cs', hsecond⟩ := Alone.of_alone hsecond
    have hstart : InTurn settler [] (twoMatches chain) := .start rfl
    have hturn := hstart.settles hfirst
    change o.settled = true at ho
    change o'.settled = true at ho'
    obtain ⟨report, hresult⟩ : ∃ report, v.results.get 8 = some (some report) := by
      rcases settleCall_counts hsecond with ⟨hnot, -⟩ | ⟨report, hreport, -⟩
      · cases ho'.symm.trans hnot
      · exact ⟨report, hreport⟩
    rw [ho] at hturn
    have hboth := hturn.settles hsecond
    rw [ho', hresult] at hboth
    exact ⟨_, w, hboth, rfl, honce _ w hboth (show List.Nodup [7, 8] by decide)⟩

/-- The balance of the vault is not read the first time, so that the pot is empty and the match is
settled without a payment; then it is settled with it. -/
def settledTwice :
    List (Act (Task Services Op Worker.Reply Outcome WorkerCall) Worker.Reply Elsewhere) :=
  .start 0 (.call (.settleGame 7)) :: List.replicate 8 (.resume 0 {}) ++
    .resume 0 { arrival := .failed } :: List.replicate 13 (.resume 0 {}) ++ settleOnce

/-- A match whose vault was not read is settled again, and paid: it is two games in the all-time
row, and none in its week. -/
theorem leaderboards_miscount : ∃ s, Reachable (worker settler).processes.Step FreshBoards s ∧
    (∃ game, s.store.database.games.get 7 = some game ∧ game.settlementStatus = .confirmed) ∧
      ¬Agrees s.store [firstMatch] .weekly ∧ ¬Agrees s.store [firstMatch] .allTime := by
  have hrun : enteredRoom.passes (fun chain =>
      ((worker settler).processes.acts (finishedGame chain) settledTwice).any fun s =>
        (s.store.database.games.get 7).any (fun game =>
          decide (game.settlementStatus = .confirmed)) &&
            (s.store.leaderboard.get (.allTime, 1)).any fun entry =>
              decide (entry.gamesPlayed = 2)) = true := by
    decide +kernel
  obtain ⟨chain, -, htest⟩ := Result.passes_iff.mp hrun
  obtain ⟨s, hs, htest⟩ :=
    (worker settler).processes.reachable_of_acts (freshBoards_finishedGame chain) htest
  obtain ⟨hgame, hentry⟩ := Bool.and_eq_true_iff.mp htest
  obtain ⟨game, hgame, hconfirmed⟩ := (Option.any_eq_true _ _).mp hgame
  obtain ⟨entry, hentry, hplayed⟩ := (Option.any_eq_true _ _).mp hentry
  refine ⟨s, hs, ⟨game, hgame, of_decide_eq_true hconfirmed⟩, ?_, ?_⟩
  · intro h
    obtain ⟨_, hstored, -⟩ := h firstMatch (List.mem_singleton_self _) _ List.mem_cons_self
    exact weekly_not_stored (written_of_reachable hs) hstored
  · intro h
    obtain ⟨entry', ⟨period, hcolumns, hget⟩, htallies⟩ :=
      h firstMatch (List.mem_singleton_self _) _ List.mem_cons_self
    cases period with
    | daily | weekly | monthly => cases hcolumns
    | allTime =>
        obtain rfl := Option.some.inj (hentry.symm.trans hget)
        have htwo : 2 ≤ [firstMatch].length := by
          rw [← of_decide_eq_true hplayed, htallies.gamesPlayed]
          exact playedIn_length_le ..
        simp at htwo

end SnakeArena.Gateway
