import SnakeArena.Gateway.Leaderboard
import SnakeArena.Library.Pages

/-!
# Gateway — the ranks of the leaderboards

The two handlers of `routes/leaderboard.routes.ts`.  `/leaderboard` numbers the rows of a window by
score, equal scores by user; `/leaderboard/me` counts the higher scores.

* `same_ranks_iff`: they agree on the boards without equal scores that the pages reach the end of.
-/

namespace SnakeArena.Gateway
open SnakeArena.Library SnakeArena.Worker

/-! ### The handlers -/

/-- A row, with the name of its user. -/
structure BoardRow where
  window : WindowName
  periodKey : PeriodKey
  userId : ℕ
  username : Option String
  entry : LeaderboardEntry
deriving DecidableEq

/-- `window_periodKey_userId`. -/
def BoardRow.key (row : BoardRow) : WindowName × PeriodKey × ℕ :=
  (row.window, row.periodKey, row.userId)

/-- Table `leaderboard`: one row per user per period. -/
structure Board where
  rows : List BoardRow
  unique : UniqueKeys BoardRow.key rows

/-- `leaderboardRowSchema`. -/
structure RankedRow where
  rank : ℕ
  userId : ℕ
  nickname : Option String
  score : ℤ
  gamesPlayed : ℕ
  wins : ℕ
  kills : ℤ
deriving DecidableEq

def BoardRow.ranked (row : BoardRow) (rank : ℕ) : RankedRow :=
  ⟨rank, row.userId, row.username, row.entry.score, row.entry.gamesPlayed, row.entry.wins,
    row.entry.kills⟩

structure LeaderboardResponse where
  window : WindowName
  periodKey : PeriodKey
  entries : List RankedRow
  total : ℕ

/-- `orderBy`: the higher score, then the lesser id. -/
def BoardRow.before (a b : BoardRow) : Prop :=
  b.entry.score < a.entry.score ∨ a.entry.score = b.entry.score ∧ a.userId ≤ b.userId

instance : DecidableRel BoardRow.before := fun a b => by unfold BoardRow.before; infer_instance

namespace Board

/-- The rows of one window and one key. -/
def period (board : Board) (window : WindowName) (periodKey : PeriodKey) : List BoardRow :=
  board.rows.filter fun row => row.window = window ∧ row.periodKey = periodKey

/-- `/leaderboard`; none is a query that the schema refuses. -/
def leaderboard (board : Board) (now : ℤ) (window : WindowName) (limit offset : ℕ) :
    Option LeaderboardResponse :=
  if 1 ≤ limit ∧ limit ≤ 100 ∧ offset ≤ 10000 then
    let rows := board.period window (periodKeyFor window now)
    some {
      window
      periodKey := periodKeyFor window now
      entries := (((rows.insertionSort BoardRow.before).drop offset).take limit).zipIdx.map
        fun (row, index) => row.ranked (offset + index + 1)
      total := rows.length }
  else none

/-- `/leaderboard/me`; none is a caller without a row. -/
def leaderboardMe (board : Board) (now : ℤ) (window : WindowName) (userId : ℕ) :
    Option RankedRow :=
  (board.rows.find? (·.key = (window, periodKeyFor window now, userId))).map fun row =>
    let ahead := (board.period window (periodKeyFor window now)).countP
      (row.entry.score < ·.entry.score)
    row.ranked (ahead + 1)

/-- How many rows the board of an instant has. -/
def total (board : Board) (now : ℤ) (window : WindowName) : ℕ :=
  (board.period window (periodKeyFor window now)).length

/-- The pages of a size, one after the other, as far as they are served. -/
def pages (board : Board) (now : ℤ) (window : WindowName) (limit : ℕ) : List RankedRow :=
  (List.range (board.total now window + 1)).flatMap fun k =>
    ((board.leaderboard now window limit (k * limit)).map (·.entries)).getD []

/-- The rank that the pages give a player. -/
def rankOnPages (board : Board) (now : ℤ) (window : WindowName) (limit userId : ℕ) : Option ℕ :=
  ((board.pages now window limit).find? (·.userId = userId)).map (·.rank)

end Board

/-! ### The order of the rows -/

instance : Std.Total BoardRow.before where
  total a b := by
    unfold BoardRow.before
    omega

instance : IsTrans BoardRow BoardRow.before where
  trans a b c hab hbc := by
    unfold BoardRow.before at *
    omega

/-- The higher score, then the strictly lesser id. -/
def BoardRow.Ahead (a b : BoardRow) : Prop :=
  b.entry.score < a.entry.score ∨ a.entry.score = b.entry.score ∧ a.userId < b.userId

instance : DecidableRel BoardRow.Ahead := fun a b => by unfold BoardRow.Ahead; infer_instance

instance : Std.Asymm BoardRow.Ahead where
  asymm a b hab hba := by
    unfold BoardRow.Ahead at *
    omega

/-- The rows ahead of one have a higher score, or the same one and a lesser id. -/
theorem countP_ahead (rows : List BoardRow) (row : BoardRow) :
    rows.countP (BoardRow.Ahead · row) = rows.countP (row.entry.score < ·.entry.score) +
      rows.countP fun other => other.entry.score = row.entry.score ∧ other.userId < row.userId := by
  induction rows with
  | nil => rfl
  | cons other rows ih =>
      rw [List.countP_cons, List.countP_cons, List.countP_cons, ih]
      simp only [decide_eq_true_eq]
      by_cases hhigher : row.entry.score < other.entry.score
      · rw [if_pos (show other.Ahead row from .inl hhigher), if_pos hhigher, if_neg (by omega)]
        omega
      by_cases htie : other.entry.score = row.entry.score ∧ other.userId < row.userId
      · rw [if_pos (show other.Ahead row from .inr htie), if_neg hhigher, if_pos htie]
        omega
      · rw [if_neg (show ¬other.Ahead row from not_or.mpr ⟨hhigher, htie⟩), if_neg hhigher,
          if_neg htie]
        rfl

namespace Board
variable (board : Board) (now : ℤ) (window : WindowName)

/-- The rows of an instant, as they are served. -/
def ordered : List BoardRow :=
  (board.period window (periodKeyFor window now)).insertionSort BoardRow.before

/-- The rows of an instant with their ranks. -/
def numbered : List RankedRow :=
  (board.ordered now window).zipIdx.map fun (row, index) => row.ranked (index + 1)

theorem ordered_perm :
    (board.ordered now window).Perm (board.period window (periodKeyFor window now)) :=
  List.perm_insertionSort _ _

theorem period_users : UniqueKeys BoardRow.userId
    (board.period window (periodKeyFor window now)) := by
  have hkeys : UniqueKeys BoardRow.key (board.period window (periodKeyFor window now)) :=
    board.unique.filter _
  refine List.Nodup.of_map (fun userId => (window, periodKeyFor window now, userId)) ?_
  rw [List.map_map]
  refine (List.map_congr_left fun row hrow => ?_) ▸ hkeys
  have hperiod : row.window = window ∧ row.periodKey = periodKeyFor window now := by
    simpa using (List.mem_filter.mp hrow).2
  simp [BoardRow.key, hperiod]

theorem ordered_users : UniqueKeys BoardRow.userId (board.ordered now window) :=
  (((board.ordered_perm now window).map _).nodup_iff).mpr (board.period_users now window)

theorem ordered_ahead : (board.ordered now window).Pairwise BoardRow.Ahead := by
  have hsorted : (board.ordered now window).Pairwise BoardRow.before :=
    List.pairwise_insertionSort BoardRow.before _
  have husers : (board.ordered now window).Pairwise fun a b => a.userId ≠ b.userId :=
    List.pairwise_map.mp (board.ordered_users now window)
  refine hsorted.imp₂ (fun a b hbefore hne => ?_) husers
  unfold BoardRow.before at hbefore
  unfold BoardRow.Ahead
  omega

theorem numbered_getElem? (i : ℕ) : (board.numbered now window)[i]? =
    (board.ordered now window)[i]?.map (·.ranked (i + 1)) := by
  rw [numbered, List.getElem?_map, List.getElem?_zipIdx, Option.map_map]
  simp only [Function.comp_def, Nat.zero_add]

theorem numbered_users : UniqueKeys RankedRow.userId (board.numbered now window) := by
  have husers : (board.numbered now window).map (·.userId) =
      (board.ordered now window).map (·.userId) := by
    refine List.ext_getElem? fun i => ?_
    rw [List.getElem?_map, numbered_getElem?, Option.map_map, List.getElem?_map]
    rfl
  rw [UniqueKeys, husers]
  exact board.ordered_users now window

theorem numbered_ranks : (board.numbered now window).map (·.rank) =
    List.range' 1 (board.total now window) := by
  refine List.ext_getElem? fun i => ?_
  rw [List.getElem?_map, numbered_getElem?, Option.map_map]
  rcases lt_or_ge i (board.total now window) with hi | hi
  · have hi' : i < (board.ordered now window).length :=
      (board.ordered_perm now window).length_eq ▸ hi
    rw [List.getElem?_eq_getElem hi', List.getElem?_range' hi]
    exact congrArg some (by simp [BoardRow.ranked, Nat.add_comm])
  · have hi' : (board.ordered now window).length ≤ i :=
      (board.ordered_perm now window).length_eq ▸ hi
    rw [List.getElem?_eq_none hi', List.getElem?_eq_none (by simpa using hi)]
    rfl

/-- How many rows the pages of a size reach. -/
def reach (limit : ℕ) : ℕ := (10000 / limit + 1) * limit

/-- A page is a stretch of the numbered rows. -/
theorem page_eq {limit : ℕ} (h : 1 ≤ limit ∧ limit ≤ 100) (k : ℕ) :
    ((board.leaderboard now window limit (k * limit)).map (·.entries)).getD [] =
      if k ≤ 10000 / limit then ((board.numbered now window).drop (k * limit)).take limit
      else [] := by
  have hserved : k * limit ≤ 10000 ↔ k ≤ 10000 / limit := by
    rw [Nat.le_div_iff_mul_le (by omega)]
  unfold leaderboard
  split_ifs with hquery hk hk
  · refine List.ext_getElem? fun i => ?_
    simp only [Option.map_some, Option.getD_some, numbered, ordered, List.getElem?_map,
      List.getElem?_zipIdx, List.getElem?_take, List.getElem?_drop]
    split_ifs with hi
    · cases ((board.period window (periodKeyFor window now)).insertionSort
        BoardRow.before)[k * limit + i]? with
      | none => rfl
      | some row => simp
    · rfl
  · exact absurd (hserved.mp hquery.2.2) hk
  · exact absurd ⟨h.1, h.2, hserved.mpr hk⟩ hquery
  · rfl

theorem pages_eq {limit : ℕ} (h : 1 ≤ limit ∧ limit ≤ 100) :
    board.pages now window limit = (board.numbered now window).take (reach limit) := by
  have hlength : (board.numbered now window).length = board.total now window := by
    rw [numbered, List.length_map, List.length_zipIdx, (board.ordered_perm now window).length_eq]
    rfl
  unfold pages
  simp only [board.page_eq now window h, flatMap_pages]
  rcases le_total (board.total now window + 1) (10000 / limit + 1) with hle | hle
  · have hall : board.total now window ≤ (board.total now window + 1) * limit :=
      (Nat.le_succ _).trans (Nat.le_mul_of_pos_right _ h.1)
    rw [min_eq_left hle, List.take_of_length_le (by omega), List.take_of_length_le]
    exact hlength.le.trans (hall.trans (Nat.mul_le_mul_right limit hle))
  · rw [min_eq_right hle]
    rfl

/-! ### The two ranks of a player -/

theorem leaderboardMe_eq {row : BoardRow}
    (hrow : row ∈ board.period window (periodKeyFor window now)) :
    board.leaderboardMe now window row.userId = some (row.ranked
      ((board.period window (periodKeyFor window now)).countP
        (row.entry.score < ·.entry.score) + 1)) := by
  obtain ⟨hmem, hperiod⟩ := List.mem_filter.mp hrow
  have hkey : (window, periodKeyFor window now, row.userId) = row.key := by
    simp only [decide_eq_true_eq] at hperiod
    rw [BoardRow.key, hperiod.1, hperiod.2]
  rw [leaderboardMe, hkey, board.unique.find hmem]
  rfl

/-- The rank on the pages is the place in the order. -/
theorem rankOnPages_eq {limit : ℕ} (h : 1 ≤ limit ∧ limit ≤ 100) {row : BoardRow}
    (hrow : row ∈ board.period window (periodKeyFor window now)) :
    board.rankOnPages now window limit row.userId =
      let ahead := (board.period window (periodKeyFor window now)).countP (BoardRow.Ahead · row)
      if ahead < reach limit then some (ahead + 1) else none := by
  obtain ⟨i, hi⟩ := List.mem_iff_getElem?.mp ((board.ordered_perm now window).mem_iff.mpr hrow)
  have hplace : (board.period window (periodKeyFor window now)).countP
      (BoardRow.Ahead · row) = i := by
    rw [← (board.ordered_perm now window).countP_eq]
    exact countP_before (board.ordered_ahead now window) hi
  have hentry : (board.numbered now window)[i]? = some (row.ranked (i + 1)) := by
    rw [numbered_getElem?, hi]
    rfl
  dsimp only
  rw [hplace, rankOnPages, board.pages_eq now window h]
  split_ifs with hreach
  · have hmem : row.ranked (i + 1) ∈ (board.numbered now window).take (reach limit) := by
      refine List.mem_iff_getElem?.mpr ⟨i, ?_⟩
      rw [List.getElem?_take_of_lt hreach, hentry]
    have husers : UniqueKeys RankedRow.userId ((board.numbered now window).take (reach limit)) :=
      (board.numbered_users now window).sublist ((List.take_sublist _ _).map _)
    have hfind := husers.find hmem
    rw [show row.userId = (row.ranked (i + 1)).userId from rfl, hfind]
    rfl
  · -- The player is on a page that is not served.
    have hmem : row.ranked (i + 1) ∈ (board.numbered now window).drop (reach limit) := by
      refine List.mem_iff_getElem?.mpr ⟨i - reach limit, ?_⟩
      rw [List.getElem?_drop, Nat.add_sub_cancel' (not_lt.mp hreach), hentry]
    rw [Option.map_eq_none_iff, List.find?_eq_none]
    intro entry hserved huser
    have hdisjoint := List.disjoint_take_drop (board.numbered_users now window)
      (le_refl (reach limit))
    rw [← List.map_take, ← List.map_drop] at hdisjoint
    exact hdisjoint (List.mem_map_of_mem hserved)
      (of_decide_eq_true huser ▸ List.mem_map_of_mem (f := RankedRow.userId) hmem)

/-- The handlers agree on everyone, and the ranks are the numbers of the rows. -/
structure SameRanks (limit : ℕ) : Prop where
  agree : ∀ row ∈ board.period window (periodKeyFor window now),
    board.rankOnPages now window limit row.userId =
      (board.leaderboardMe now window row.userId).map (·.rank)
  once : ∀ rank, 1 ≤ rank → rank ≤ board.total now window →
    ((board.pages now window limit).map (·.rank)).count rank = 1

theorem agree_iff {limit : ℕ} (h : 1 ≤ limit ∧ limit ≤ 100) {row : BoardRow}
    (hrow : row ∈ board.period window (periodKeyFor window now)) :
    board.rankOnPages now window limit row.userId =
        (board.leaderboardMe now window row.userId).map (·.rank) ↔
      (∀ other ∈ board.period window (periodKeyFor window now),
        other.entry.score = row.entry.score → row.userId ≤ other.userId) ∧
      (board.period window (periodKeyFor window now)).countP (BoardRow.Ahead · row) <
        reach limit := by
  rw [board.rankOnPages_eq now window h hrow, board.leaderboardMe_eq now window hrow]
  have htied : (board.period window (periodKeyFor window now)).countP (fun other =>
      other.entry.score = row.entry.score ∧ other.userId < row.userId) = 0 ↔
        ∀ other ∈ board.period window (periodKeyFor window now),
          other.entry.score = row.entry.score → row.userId ≤ other.userId := by
    simp [List.countP_eq_zero]
  rw [← htied]
  have hcount := countP_ahead (board.period window (periodKeyFor window now)) row
  dsimp only
  split_ifs with hreach
  · simp only [Option.map_some, BoardRow.ranked, Option.some.injEq, hreach, and_true]
    omega
  · simp [hreach]

/-- No two rows of equal scores: no one is behind by the id alone. -/
theorem unique_scores_iff :
    UniqueKeys (·.entry.score) (board.period window (periodKeyFor window now)) ↔
      ∀ row ∈ board.period window (periodKeyFor window now),
        ∀ other ∈ board.period window (periodKeyFor window now),
          other.entry.score = row.entry.score → row.userId ≤ other.userId := by
  have husers := board.period_users now window
  constructor
  · intro h row hrow other hother hscore
    rw [List.inj_on_of_nodup_map h hother hrow hscore]
  · intro h
    refine List.Nodup.map_on (fun row hrow other hother hscore => ?_) (List.Nodup.of_map _ husers)
    exact List.inj_on_of_nodup_map husers hrow hother
      (le_antisymm (h row hrow other hother hscore.symm) (h other hother row hrow hscore))

theorem once_iff {limit : ℕ} (h : 1 ≤ limit ∧ limit ≤ 100) :
    (∀ rank, 1 ≤ rank → rank ≤ board.total now window →
      ((board.pages now window limit).map (·.rank)).count rank = 1) ↔
    board.total now window ≤ reach limit := by
  have hranks : (board.pages now window limit).map (·.rank) =
      List.range' 1 (min (reach limit) (board.total now window)) := by
    rw [board.pages_eq now window h, List.map_take, numbered_ranks]
    rcases le_total (reach limit) (board.total now window) with hle | hle
    · rw [min_eq_left hle, List.take_range'_of_length_ge hle]
    · rw [min_eq_right hle, List.take_range'_of_length_le hle]
  rw [hranks]
  constructor
  · intro honce
    by_contra hover
    have hlast := honce (board.total now window) (by omega) (le_refl _)
    rw [List.count_eq_zero_of_not_mem (fun hmem => by
      have := (List.mem_range'_1.mp hmem).2
      omega)] at hlast
    cases hlast
  · intro hle rank hfirst hlast
    refine List.count_eq_one_of_mem List.nodup_range' (List.mem_range'_1.mpr ?_)
    omega

/-- **Both handlers give a player the same rank**, and the pages give each rank once, on exactly
the boards where no two rows have the same score and the pages of the size reach the last row. -/
theorem same_ranks_iff (limit : ℕ) (h : 1 ≤ limit ∧ limit ≤ 100) :
    board.SameRanks now window limit ↔
      UniqueKeys (·.entry.score) (board.period window (periodKeyFor window now)) ∧
        board.total now window ≤ reach limit := by
  rw [unique_scores_iff, ← board.once_iff now window h]
  constructor
  · rintro ⟨hagree, honce⟩
    exact ⟨fun row hrow => ((board.agree_iff now window h hrow).mp (hagree row hrow)).1, honce⟩
  · rintro ⟨hscores, honce⟩
    refine ⟨fun row hrow => (board.agree_iff now window h hrow).mpr ⟨hscores row hrow, ?_⟩, honce⟩
    have hreach := (board.once_iff now window h).mp honce
    -- The row itself is not ahead of itself.
    have hless : (board.period window (periodKeyFor window now)).countP (BoardRow.Ahead · row) <
        (board.period window (periodKeyFor window now)).length := by
      refine lt_of_le_of_ne List.countP_le_length fun hall => ?_
      have hself := List.countP_eq_length.mp hall row hrow
      exact Std.Irrefl.irrefl (r := BoardRow.Ahead) row (of_decide_eq_true hself)
    exact hless.trans_le hreach

/-! ### A tie -/

/-- Player 2 has as many points as player 1. -/
def tiedRows : List BoardRow :=
  [⟨.allTime, .all, 1, none, ⟨10, 1, 1, 0⟩⟩, ⟨.allTime, .all, 2, none, ⟨10, 1, 0, 0⟩⟩]

theorem tiedRows_unique : UniqueKeys BoardRow.key tiedRows := by
  unfold UniqueKeys
  decide

def tied : Board := ⟨tiedRows, tiedRows_unique⟩

/-- Player 2 is second on the pages and first by the other handler. -/
theorem tied_ranks : tied.rankOnPages 0 .allTime 25 2 = some 2 ∧
    (tied.leaderboardMe 0 .allTime 2).map (·.rank) = some 1 ∧ ¬tied.SameRanks 0 .allTime 25 := by
  refine ⟨by decide, by decide, fun h => ?_⟩
  have hagree := h.agree ⟨.allTime, .all, 2, none, ⟨10, 1, 0, 0⟩⟩ (by decide)
  revert hagree
  decide

theorem same_ranks_iff_tied : tied.SameRanks 0 .allTime 25 ↔
    UniqueKeys (·.entry.score) (tied.period .allTime (periodKeyFor .allTime 0)) ∧
      tied.total 0 .allTime ≤ reach 25 :=
  same_ranks_iff tied 0 .allTime 25 ⟨by omega, by omega⟩

end Board

end SnakeArena.Gateway
