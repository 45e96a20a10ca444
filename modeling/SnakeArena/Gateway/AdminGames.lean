import SnakeArena.Db.Game
import SnakeArena.Library.Pages

/-!
# Gateway — the admin list of games

`GET /games` of `routes/admin/games.routes.ts`, and a client that follows its cursor.  The filter
for stranded money is applied in memory, to a longer stretch of rows than a page holds, and the
cursor is the last row of the stretch.

* `browse_iff`: the pages show every game that matches, once and in order, unless a stretch has
  more matches than a page, or the stretch is the longest there is and more rows follow.
-/

namespace SnakeArena.Gateway
open SnakeArena.Library SnakeArena.Db

/-! ### The handler -/

/-- A game with its room and its escrow. -/
structure GameRow where
  id : ℕ
  roomId : ℕ
  roomCode : String
  mode : String
  region : String
  status : GameStatus
  settlementStatus : SettlementStatus
  settlementSignature : Option String
  playerCount : ℕ
  potLamports : ℤ
  payoutLamports : ℤ
  rakeLamports : ℤ
  /-- `balanceLamports` of the escrow, if there is one. -/
  escrow : Option ℤ
  startedAt : ℤ
  endedAt : Option ℤ
deriving DecidableEq

structure AdminGame where
  id : ℕ
  roomId : ℕ
  roomCode : String
  mode : String
  region : String
  status : GameStatus
  settlementStatus : SettlementStatus
  settlementSignature : Option String
  playerCount : ℕ
  potLamports : ℤ
  payoutLamports : ℤ
  rakeLamports : ℤ
  unaccountedLamports : ℤ
  startedAt : ℤ
  endedAt : Option ℤ
deriving DecidableEq

/-- What the escrow still holds. -/
def unaccountedLamports (game : GameRow) : ℤ := game.escrow.getD 0

def toAdminGame (game : GameRow) : AdminGame :=
  ⟨game.id, game.roomId, game.roomCode, game.mode, game.region, game.status,
    game.settlementStatus, game.settlementSignature, game.playerCount, game.potLamports,
    game.payoutLamports, game.rakeLamports, unaccountedLamports game, game.startedAt, game.endedAt⟩

/-- `adminGamesQuerySchema`, without the cursor. -/
structure AdminGamesQuery where
  limit : ℕ
  limit_min : 1 ≤ limit
  limit_max : limit ≤ 200
  /-- Inclusive. -/
  from? : Option ℤ
  /-- Exclusive. -/
  to? : Option ℤ
  status : Option GameStatus
  settlementStatus : Option SettlementStatus
  roomId : Option ℕ
  /-- Only games whose money does not add up. -/
  unaccountedOnly : Bool

structure AdminGamesResponse where
  games : List AdminGame
  nextCursor : Option ℕ
deriving DecidableEq

/-- Table `games`. -/
structure GamesTable where
  rows : List GameRow
  unique : UniqueKeys GameRow.id rows

/-- `orderBy`: the latest first. -/
def GameRow.before (a b : GameRow) : Prop :=
  b.startedAt < a.startedAt ∨ a.startedAt = b.startedAt ∧ b.id ≤ a.id

instance : DecidableRel GameRow.before := fun a b => by unfold GameRow.before; infer_instance

namespace AdminGamesQuery
variable (query : AdminGamesQuery)

/-- The `where` of the query. -/
def whereInput (game : GameRow) : Bool :=
  query.status.all (game.status = ·) && query.settlementStatus.all (game.settlementStatus = ·) &&
    query.roomId.all (game.roomId = ·) && query.from?.all (· ≤ game.startedAt) &&
    query.to?.all (game.startedAt < ·)

/-- An in-flight game holds its pot by definition. -/
def effectiveWhere (game : GameRow) : Bool :=
  query.whereInput game &&
    (!query.unaccountedOnly || game.status = query.status.getD .completed)

/-- Over-fetches when filtering in memory. -/
def take : ℕ := if query.unaccountedOnly then min (query.limit * 10 + 1) 1000 else query.limit + 1

/-- What is kept of the fetched rows. -/
def keeps (game : GameRow) : Bool := !query.unaccountedOnly || unaccountedLamports game ≠ 0

/-- The rows of the effective filter, in order. -/
def candidates (games : GamesTable) : List GameRow :=
  (games.rows.filter query.effectiveWhere).insertionSort GameRow.before

/-- The rows after a cursor. -/
def rowsAfter (rows : List GameRow) : Option ℕ → List GameRow
  | none => rows
  | some cursor => (rows.dropWhile (·.id ≠ cursor)).tail

/-- The response to the rows that were fetched. -/
def respond (rows : List GameRow) : AdminGamesResponse :=
  let matching := if query.unaccountedOnly then rows.filter (unaccountedLamports · ≠ 0) else rows
  let page := matching.take query.limit
  -- The cursor is one of the scanned rows.
  let scanned := rows.take (if query.unaccountedOnly then rows.length else query.limit)
  let more : Bool :=
    if query.unaccountedOnly then query.limit * 10 < rows.length else query.limit < rows.length
  ⟨page.map toAdminGame, if more then scanned.getLast?.map (·.id) else none⟩

def adminGames (games : GamesTable) (cursor : Option ℕ) : AdminGamesResponse :=
  query.respond ((rowsAfter (query.candidates games) cursor).take query.take)

/-- Follows `nextCursor` until it is null; none is out of requests. -/
def browse (games : GamesTable) : ℕ → Option ℕ → Option (List AdminGame)
  | 0, _ => none
  | requests + 1, cursor =>
      let response := query.adminGames games cursor
      match response.nextCursor with
      | none => some response.games
      | some next => (browse games requests next).map (response.games ++ ·)

/-- The games that match the filter, in order. -/
def matching (games : GamesTable) : List AdminGame :=
  ((query.candidates games).filter query.keeps).map toAdminGame

/-! ### Cursors -/

theorem candidates_unique (games : GamesTable) : UniqueKeys GameRow.id (query.candidates games) :=
  (((List.perm_insertionSort _ _).map _).nodup_iff).mpr (games.unique.filter _)

theorem rowsAfter_last {rows first rest : List GameRow} {last : GameRow}
    (h : UniqueKeys GameRow.id rows) (hrows : rows = first ++ last :: rest) :
    rowsAfter rows (some last.id) = rest := by
  have hfirst : ∀ row ∈ first, decide (row.id ≠ last.id) = true := by
    intro row hrow
    rw [hrows, UniqueKeys, List.map_append, List.nodup_append] at h
    exact decide_eq_true
      (h.2.2 _ (List.mem_map_of_mem hrow) _ (List.mem_map_of_mem List.mem_cons_self))
  rw [rowsAfter, hrows, List.dropWhile_append_of_pos hfirst, List.dropWhile_cons_of_neg (by simp)]
  rfl

/-- The rows after the last of some scanned ones are the rest. -/
theorem rowsAfter_scanned {rows rest : List GameRow} (h : UniqueKeys GameRow.id rows)
    (hrest : rest <:+ rows) {scanned : ℕ} {cursor : ℕ}
    (hcursor : (rest.take scanned).getLast?.map (·.id) = some cursor) :
    rowsAfter rows (some cursor) = rest.drop scanned := by
  obtain ⟨last, hlast, rfl⟩ := Option.map_eq_some_iff.mp hcursor
  obtain ⟨before, hbefore⟩ := hrest
  obtain ⟨init, hinit⟩ := List.getLast?_eq_some_iff.mp hlast
  refine @rowsAfter_last rows (before ++ init) _ last h ?_
  rw [← hbefore]
  conv_lhs => rw [← List.take_append_drop scanned rest, hinit]
  simp

/-- Some rows were scanned, so there is a last one. -/
theorem exists_last {rest : List GameRow} {scanned : ℕ} (hscanned : 0 < scanned)
    (hrest : rest ≠ []) : ∃ cursor, (rest.take scanned).getLast?.map (·.id) = some cursor := by
  have hne : rest.take scanned ≠ [] := by
    rw [ne_eq, List.take_eq_nil_iff]
    rintro (h | h)
    · omega
    · exact hrest h
  exact ⟨_, by rw [List.getLast?_eq_some_getLast hne]; rfl⟩

theorem browse_mono {games : GamesTable} {l : List AdminGame} :
    ∀ {requests : ℕ} {cursor : Option ℕ}, query.browse games requests cursor = some l →
      ∀ {more : ℕ}, requests ≤ more → query.browse games more cursor = some l := by
  intro requests
  induction requests generalizing l with
  | zero => exact fun h => by cases h
  | succ requests ih =>
      intro cursor h more hle
      obtain ⟨more, rfl⟩ := Nat.exists_eq_add_one.mpr (Nat.zero_lt_of_lt hle)
      unfold browse at h ⊢
      dsimp only at h ⊢
      cases hnext : (query.adminGames games cursor).nextCursor with
      | none =>
          rw [hnext] at h
          exact h
      | some next =>
          rw [hnext] at h
          obtain ⟨l', hl', rfl⟩ := Option.map_eq_some_iff.mp h
          dsimp only
          rw [ih hl' (Nat.le_of_succ_le_succ hle)]
          rfl

/-! ### Without the filter -/

theorem browse_plain (hplain : query.unaccountedOnly = false) (games : GamesTable) :
    ∀ (requests : ℕ) (cursor : Option ℕ) (rest : List GameRow), rest <:+ query.candidates games →
      rowsAfter (query.candidates games) cursor = rest → rest.length < requests →
        query.browse games requests cursor = some (rest.map toAdminGame)
  | 0, _, _, _, _, h => absurd h (Nat.not_lt_zero _)
  | requests + 1, cursor, rest, hsuffix, hafter, hlt => by
      have hmin := query.limit_min
      have hresponse : query.adminGames games cursor =
          query.respond (rest.take (query.limit + 1)) := by
        rw [adminGames, hafter, take, hplain]
        rfl
      unfold browse
      dsimp only
      rw [hresponse, respond, hplain]
      simp only [Bool.false_eq_true, if_false, List.take_take, List.length_take,
        min_eq_left (Nat.le_succ query.limit), decide_eq_true_eq]
      by_cases hmore : query.limit < rest.length
      · obtain ⟨next, hnext⟩ := exists_last hmin
          (List.ne_nil_of_length_pos (by omega : 0 < rest.length))
        rw [if_pos (by omega), hnext]
        dsimp only
        rw [browse_plain hplain games requests (some next) (rest.drop query.limit)
          ((List.drop_suffix _ _).trans hsuffix)
          (rowsAfter_scanned (query.candidates_unique games) hsuffix hnext)
          (by rw [List.length_drop]; omega)]
        rw [Option.map_some, ← List.map_append, List.take_append_drop]
      · rw [if_neg (by omega)]
        dsimp only
        rw [List.take_of_length_le (by omega)]

/-! ### With the filter -/

/-- The escrow of the game still holds something. -/
def stranded (game : GameRow) : Bool := unaccountedLamports game ≠ 0

/-- A page of a stretch of rows and what is after it are all that match, exactly if the page has
room for the matches and the rest is all that matches there. -/
theorem append_eq_iff {l l' m m' : List AdminGame} {n : ℕ} (hl' : l'.length ≤ m'.length)
    (hl : l = m.take n) : l ++ l' = m ++ m' ↔ m.length ≤ n ∧ l' = m' := by
  constructor
  · intro h
    have hlength := congrArg List.length h
    rw [List.length_append, List.length_append, hl, List.length_take] at hlength
    have hroom : m.length ≤ n := by omega
    rw [hl, List.take_of_length_le hroom] at h
    exact ⟨hroom, List.append_cancel_left h⟩
  · rintro ⟨hroom, rfl⟩
    rw [hl, List.take_of_length_le hroom]

theorem take_eq_append_iff {m m' : List AdminGame} {n : ℕ} :
    m.take n = m ++ m' ↔ m.length ≤ n ∧ m' = [] := by
  have h := @append_eq_iff (m.take n) [] m m' n (Nat.zero_le _) rfl
  rwa [List.append_nil, eq_comm (a := [])] at h

theorem respond_filtered (hfilter : query.unaccountedOnly = true) (rows : List GameRow) :
    query.respond rows = ⟨((rows.filter stranded).map toAdminGame).take query.limit,
      if query.limit * 10 < rows.length then rows.getLast?.map (·.id) else none⟩ := by
  rw [respond, hfilter]
  simp only [if_true, List.take_length, decide_eq_true_eq, ← List.map_take]
  rfl

/-- Stretches of ten pages and one row: each shows one page of its matches. -/
theorem browse_short (hfilter : query.unaccountedOnly = true) (hlimit : query.limit < 100)
    (games : GamesTable) : ∀ (requests : ℕ) (cursor : Option ℕ) (rest : List GameRow),
      rest <:+ query.candidates games → rowsAfter (query.candidates games) cursor = rest →
      rest.length < requests → ∃ l, query.browse games requests cursor = some l ∧
        l.length ≤ ((rest.filter stranded).map toAdminGame).length ∧
        (l = (rest.filter stranded).map toAdminGame ↔
          ∀ k, ((rest.drop (k * query.take)).take query.take).countP stranded ≤ query.limit)
  | 0, _, _, _, _, h => absurd h (Nat.not_lt_zero _)
  | requests + 1, cursor, rest, hsuffix, hafter, hlt => by
      have htake : query.take = query.limit * 10 + 1 := by
        rw [take, hfilter, if_pos rfl, min_eq_left (by omega)]
      have hsplit := List.take_append_drop query.take rest
      have hall : (rest.filter stranded).map toAdminGame =
          ((rest.take query.take).filter stranded).map toAdminGame ++
            ((rest.drop query.take).filter stranded).map toAdminGame := by
        rw [← List.map_append, ← List.filter_append, hsplit]
      have hcount : (((rest.take query.take).filter stranded).map toAdminGame).length =
          (rest.take query.take).countP stranded := by
        rw [List.length_map, List.countP_eq_length_filter]
      unfold browse
      dsimp only
      rw [adminGames, hafter, respond_filtered query hfilter]
      dsimp only
      -- The first stretch, and those after it.
      have hstretches : (∀ k, ((rest.drop (k * query.take)).take query.take).countP stranded ≤
            query.limit) ↔ (rest.take query.take).countP stranded ≤ query.limit ∧
          ∀ k, (((rest.drop query.take).drop (k * query.take)).take query.take).countP stranded ≤
            query.limit := by
        constructor
        · intro h
          refine ⟨by simpa using h 0, fun k => ?_⟩
          have hk := h (k + 1)
          rwa [Nat.succ_mul, Nat.add_comm, ← List.drop_drop] at hk
        · rintro ⟨hfirst, hlater⟩ k
          cases k with
          | zero => simpa using hfirst
          | succ k =>
              have hk := hlater k
              rwa [List.drop_drop, Nat.add_comm, ← Nat.succ_mul] at hk
      by_cases hmore : query.limit * 10 < (rest.take query.take).length
      · obtain ⟨next, hnext⟩ := @exists_last rest query.take (by omega)
          (by rintro rfl; simp at hmore)
        rw [if_pos hmore, hnext]
        dsimp only
        obtain ⟨l', hl', hlength, hiff⟩ := browse_short hfilter hlimit games requests (some next)
          (rest.drop query.take) ((List.drop_suffix _ _).trans hsuffix)
          (rowsAfter_scanned (query.candidates_unique games) hsuffix hnext)
          (by rw [List.length_drop]; rw [List.length_take] at hmore; omega)
        rw [hl', Option.map_some]
        refine ⟨_, rfl, ?_, ?_⟩
        · rw [hall, List.length_append, List.length_append, List.length_take]
          omega
        · rw [hall, append_eq_iff hlength rfl, hcount, hiff, hstretches]
      · rw [if_neg hmore]
        dsimp only
        have hlast : rest.drop query.take = [] := by
          rw [List.drop_eq_nil_iff]
          rw [List.length_take] at hmore
          omega
        refine ⟨_, rfl, ?_, ?_⟩
        · rw [hall, List.length_append, List.length_take]
          omega
        · rw [hstretches, hall, take_eq_append_iff, hcount, hlast]
          simp

/-- The longest stretch is not longer than ten pages: there is no page after it. -/
theorem browse_long (hfilter : query.unaccountedOnly = true) (hlimit : 100 ≤ query.limit)
    (games : GamesTable) (requests : ℕ) : query.browse games (requests + 1) none =
      some (((((query.candidates games).take 1000).filter stranded).map toAdminGame).take
        query.limit) := by
  have htake : query.take = 1000 := by
    rw [take, hfilter, if_pos rfl, min_eq_right (by omega)]
  unfold browse
  dsimp only
  rw [adminGames, respond_filtered query hfilter, htake, if_neg]
  · rfl
  · rw [List.length_take]
    omega

/-- The stranded games of each stretch fit on its page, and no rows follow the one stretch of a
query for a hundred or more that hold a stranded game. -/
def Fits (games : GamesTable) : Prop :=
  query.unaccountedOnly = true →
    if query.limit < 100 then
      ∀ k, (((query.candidates games).drop (k * (query.limit * 10 + 1))).take
        (query.limit * 10 + 1)).countP stranded ≤ query.limit
    else
      ((query.candidates games).take 1000).countP stranded ≤ query.limit ∧
        ∀ game ∈ (query.candidates games).drop 1000, ¬stranded game

/-- Following the cursor until it is null shows the games that match, in order. -/
def ShowsAll (games : GamesTable) : Prop :=
  ∃ requests, query.browse games requests none = some (query.matching games)

/-- Enough requests decide. -/
theorem showsAll_iff {games : GamesTable} {requests : ℕ} {l : List AdminGame}
    (h : query.browse games requests none = some l) :
    query.ShowsAll games ↔ l = query.matching games := by
  constructor
  · rintro ⟨others, hothers⟩
    have hmax := query.browse_mono h (le_max_left requests others)
    rw [query.browse_mono hothers (le_max_right requests others)] at hmax
    exact (Option.some.inj hmax).symm
  · rintro rfl
    exact ⟨requests, h⟩

theorem matching_eq (hfilter : query.unaccountedOnly = true) (games : GamesTable) :
    query.matching games = ((query.candidates games).filter stranded).map toAdminGame := by
  have hkeeps : query.keeps = stranded := by
    funext game
    rw [keeps, hfilter]
    rfl
  rw [matching, hkeeps]

/-- **Paging shows every game that matches once and in order** without the filter for stranded
money, and with it exactly if these fit. -/
theorem browse_iff (games : GamesTable) :
    (∃ requests l, query.browse games requests none = some l) ∧
      (query.ShowsAll games ↔ query.Fits games) := by
  have hafter : rowsAfter (query.candidates games) none = query.candidates games := rfl
  unfold Fits
  cases hfilter : query.unaccountedOnly with
  | false =>
      have hall := query.browse_plain hfilter games _ none _ List.suffix_rfl hafter
        (Nat.lt_succ_self _)
      refine ⟨⟨_, _, hall⟩, ?_⟩
      rw [query.showsAll_iff hall, matching]
      have hkeeps : (query.candidates games).filter query.keeps = query.candidates games :=
        List.filter_eq_self.mpr fun game _ => by rw [keeps, hfilter]; rfl
      rw [hkeeps]
      simp
  | true =>
      rw [imp_iff_right rfl]
      by_cases hlimit : query.limit < 100
      · obtain ⟨l, hl, -, hiff⟩ := query.browse_short hfilter hlimit games _ none _
          List.suffix_rfl hafter (Nat.lt_succ_self _)
        refine ⟨⟨_, l, hl⟩, ?_⟩
        have htake : query.take = query.limit * 10 + 1 := by
          rw [take, hfilter, if_pos rfl, min_eq_left (by omega)]
        rw [query.showsAll_iff hl, query.matching_eq hfilter, hiff, if_pos hlimit, htake]
      · have hl := query.browse_long hfilter (not_lt.mp hlimit) games 0
        refine ⟨⟨_, _, hl⟩, ?_⟩
        rw [query.showsAll_iff hl, query.matching_eq hfilter, if_neg hlimit]
        have hall : ((query.candidates games).filter stranded).map toAdminGame =
            (((query.candidates games).take 1000).filter stranded).map toAdminGame ++
              (((query.candidates games).drop 1000).filter stranded).map toAdminGame := by
          rw [← List.map_append, ← List.filter_append, List.take_append_drop]
        rw [hall, take_eq_append_iff, List.length_map, ← List.countP_eq_length_filter,
          List.map_eq_nil_iff, List.filter_eq_nil_iff]

/-! ### Two stranded games -/

/-- A finished game with a pot that was not paid. -/
def strandedGame (id : ℕ) : GameRow :=
  ⟨id, 1, "ROOM", "ranked", "us-east", .completed, .failed, none, 2, 500, 0, 0, some 500, 0, some 9⟩

theorem twoStranded_unique : UniqueKeys GameRow.id [strandedGame 1, strandedGame 2] := by
  unfold UniqueKeys
  decide

def twoStranded : GamesTable := ⟨[strandedGame 1, strandedGame 2], twoStranded_unique⟩

theorem one_within : 1 ≤ 1 ∧ 1 ≤ 200 := by omega

/-- The triage filter, by pages of one. -/
def triage : AdminGamesQuery :=
  ⟨1, one_within.1, one_within.2, none, none, none, none, none, true⟩

/-- Both games are in one stretch, whose page shows one; there is no other page. -/
theorem browse_triage : triage.browse twoStranded 1 none = some [toAdminGame (strandedGame 2)] ∧
    triage.matching twoStranded = [toAdminGame (strandedGame 2), toAdminGame (strandedGame 1)] ∧
    ¬triage.ShowsAll twoStranded := by
  have hbrowse : triage.browse twoStranded 1 none = some [toAdminGame (strandedGame 2)] := by
    decide
  have hmatching : triage.matching twoStranded =
      [toAdminGame (strandedGame 2), toAdminGame (strandedGame 1)] := by
    decide
  refine ⟨hbrowse, hmatching, fun h => ?_⟩
  rw [triage.showsAll_iff hbrowse, hmatching] at h
  cases congrArg List.length h

end AdminGamesQuery

end SnakeArena.Gateway
