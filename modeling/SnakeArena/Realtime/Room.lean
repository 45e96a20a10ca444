import SnakeArena.Worker.Verify
import SnakeArena.Library.Table

/-!
# Realtime — a room and its result

`rooms/room.ts`, as far as the result of a match goes: who ever held a seat, who went out when,
and the standings.  The simulation is what it says of a player's snake: its score and kills are
counts (`scoreForMass` is a floor no less than zero).

A player goes out once, so `eliminations` keeps the first; `entrants` is a set, and the room
carries that no player is in it twice.
-/

namespace SnakeArena.Realtime
open SnakeArena.Library SnakeArena.Worker

structure Figures where
  score : ℕ
  kills : ℕ
deriving DecidableEq

structure Elimination where
  /-- The position in the order of deaths. -/
  tick : ℕ
  survivedMs : ℕ
deriving DecidableEq

structure Room where
  roomId : String
  /-- The game this room settles as. -/
  gameId : Option ℕ
  /-- The players holding a seat. -/
  seats : List ℕ
  /-- Everyone who ever held a seat, in the order they came. -/
  entrants : List ℕ
  nodup : entrants.Nodup
  eliminations : Table ℕ Elimination
  eliminationCounter : ℕ
  /-- Captured at death. -/
  finalScores : Table ℕ Figures
  /-- `simulation.getByPlayerId`. -/
  snakes : Table ℕ Figures
  /-- Whole milliseconds. -/
  elapsedMs : ℕ
  reported : Bool

namespace Room

def new (roomId : String) (gameId : Option ℕ) : Room :=
  ⟨roomId, gameId, [], [], .nil, .empty, 0, .empty, .empty, 0, false⟩

/-- A reconnect keeps the live snake. -/
def addPlayer (room : Room) (playerId : ℕ) : Room :=
  if playerId ∈ room.seats then room
  else
    { room with
      seats := room.seats ++ [playerId]
      entrants := if playerId ∈ room.entrants then room.entrants else room.entrants ++ [playerId]
      nodup := by
        split
        · exact room.nodup
        · next h => exact List.nodup_append.mpr ⟨room.nodup, by simp, by
            rintro a ha b hb rfl
            exact h (List.mem_singleton.mp hb ▸ ha)⟩
      snakes := room.snakes.upd playerId ⟨0, 0⟩ }

/-- The first elimination of a player counts. -/
def eliminate (room : Room) (playerId : ℕ) : Room :=
  match room.eliminations.get playerId with
  | some _ => room
  | none =>
      { room with
        eliminationCounter := room.eliminationCounter + 1
        eliminations :=
          room.eliminations.upd playerId ⟨room.eliminationCounter + 1, room.elapsedMs⟩ }

/-- Leaving is an elimination. -/
def removePlayer (room : Room) (playerId : ℕ) : Room :=
  if playerId ∈ room.seats then
    let room := { room with seats := room.seats.filter (· ≠ playerId) }
    let room :=
      match room.eliminations.get playerId, room.snakes.get playerId with
      | none, some snake => { room with finalScores := room.finalScores.upd playerId snake }
      | _, _ => room
    let room := room.eliminate playerId
    { room with snakes := room.snakes.del playerId }
  else room

/-- A death of a tick. -/
def die (room : Room) (victim finalScore : ℕ) : Room :=
  let kills := ((room.snakes.get victim).map (·.kills)).getD 0
  { room with finalScores := room.finalScores.upd victim ⟨finalScore, kills⟩ }.eliminate victim

/-! ### The result -/

/-- A row of the standings, before its place. -/
structure Row where
  playerId : ℕ
  score : ℕ
  kills : ℕ
  survivedMs : ℕ
  /-- `⊤` is still alive at the end. -/
  eliminationOrder : WithTop ℕ

def row (room : Room) (playerId : ℕ) : Row where
  playerId := playerId
  score := (((room.snakes.get playerId).or (room.finalScores.get playerId)).map (·.score)).getD 0
  kills := (((room.snakes.get playerId).or (room.finalScores.get playerId)).map (·.kills)).getD 0
  survivedMs := ((room.eliminations.get playerId).map (·.survivedMs)).getD room.elapsedMs
  eliminationOrder :=
    match room.eliminations.get playerId with
    | some elimination => elimination.tick
    | none => ⊤

/-- Last standing first; then the higher score, the more kills, the lesser id. -/
def Row.before (a b : Row) : Prop :=
  b.eliminationOrder < a.eliminationOrder ∨ a.eliminationOrder = b.eliminationOrder ∧
    (b.score < a.score ∨ a.score = b.score ∧
      (b.kills < a.kills ∨ a.kills = b.kills ∧ a.playerId ≤ b.playerId))

instance : DecidableRel Row.before := fun a b => by unfold Row.before; infer_instance

instance : Std.Total Row.before where
  total a b := by
    unfold Row.before
    rcases lt_trichotomy a.eliminationOrder b.eliminationOrder with h | h | h
    · exact .inr (.inl h)
    · simp only [h, lt_irrefl, false_or, true_and]
      omega
    · exact .inl (.inl h)

instance : IsTrans Row Row.before where
  trans a b c hab hbc := by
    obtain hab | ⟨e, hab⟩ := hab <;> obtain hbc | ⟨e', hbc⟩ := hbc
    · exact .inl (hbc.trans hab)
    · exact .inl (e' ▸ hab)
    · exact .inl (e ▸ hbc)
    · exact .inr ⟨e.trans e', by omega⟩

/-- Final standings of everyone who ever sat down. -/
def standings (room : Room) : List ReportedStanding :=
  ((room.entrants.map room.row).insertionSort Row.before).zipIdx.map fun (row, index) =>
    ⟨row.playerId, placeAt index, ((row.score : ℚ) : Number), ((row.kills : ℚ) : Number),
      ((row.survivedMs : ℚ) : Number)⟩

/-- The report of node `nodeId`, written at `now`. -/
def buildResult (room : Room) (nodeId : String) (now gameId : ℕ) : MatchResultReport :=
  ⟨gameId, room.roomId, nodeId, room.standings, now⟩

/-- Players still holding a live snake. -/
def aliveCount (room : Room) : ℕ :=
  (room.seats.filter fun playerId => (room.snakes.get playerId).isSome).length

/-- At most one of at least two is left. -/
def isResolved (room : Room) : Bool := 2 ≤ room.entrants.length && room.aliveCount ≤ 1

/-- Standings worth handing to settlement. -/
def hasResult (room : Room) : Bool := !room.reported && room.gameId.isSome && room.isResolved

/-- What the manager publishes of the room. -/
def report (room : Room) (nodeId : String) (now : ℕ) : Option MatchResultReport :=
  if room.hasResult then room.gameId.map (room.buildResult nodeId now) else none

/-! ### What it reports -/

/-- The players of the standings, in their order. -/
theorem standings_rows (room : Room) : room.standings.map (·.playerId) =
    ((room.entrants.map room.row).insertionSort Row.before).map (·.playerId) := by
  rw [standings, List.map_map]
  conv_rhs => rw [← List.zipIdx_map_fst 0 (List.insertionSort _ _), List.map_map]
  rfl

theorem standings_playerIds (room : Room) :
    (room.standings.map (·.playerId)).Perm room.entrants := by
  rw [standings_rows]
  refine ((List.perm_insertionSort _ _).map _).trans ?_
  rw [List.map_map]
  exact .of_eq (List.map_id'' (fun _ => rfl) _)

theorem standings_placements (room : Room) :
    room.standings.map (·.placement) = placesTo room.standings.length := by
  rw [standings, List.map_map, List.length_map, List.length_zipIdx, placesTo,
    List.range_eq_range', ← List.zipIdx_map_snd 0, List.map_map]
  rfl

theorem standings_length (room : Room) : room.standings.length = room.entrants.length := by
  simp [standings]

theorem Number.bad_natCast (n : ℕ) : Number.bad ((n : ℚ) : Number) = false := by
  simp [Number.bad]

/-- **The report of a match is well formed.** -/
theorem buildResult_wellFormed {room : Room} (hne : room.entrants ≠ []) (nodeId : String)
    (now gameId : ℕ) : (room.buildResult nodeId now gameId).WellFormed where
  standings h := hne (List.length_eq_zero_iff.mp
    (room.standings_length ▸ List.length_eq_zero_iff.mpr h))
  players := room.standings_playerIds.nodup_iff.mpr room.nodup
  sound row hrow := by
    obtain ⟨⟨row, i⟩, -, rfl⟩ := List.mem_map.mp hrow
    exact ⟨Number.bad_natCast _, Number.bad_natCast _, Number.bad_natCast _⟩
  placements := by
    change (room.standings.map (·.placement)).insertionSort (· ≤ ·) = _
    rw [standings_placements]
    exact (placesTo_pairwise _).insertionSort_eq

/-- A report is of at least two players. -/
theorem report_some {room : Room} {nodeId : String} {now : ℕ} {r : MatchResultReport}
    (h : room.report nodeId now = some r) :
    room.entrants ≠ [] ∧ ∃ gameId, room.gameId = some gameId ∧
      r = room.buildResult nodeId now gameId := by
  simp only [report, Option.ite_none_right_eq_some, Option.map_eq_some_iff] at h
  obtain ⟨hresult, gameId, hgame, rfl⟩ := h
  refine ⟨fun hne => ?_, gameId, hgame, rfl⟩
  simp [hasResult, isResolved, hne] at hresult

theorem buildResult_names {room : Room} {nodeId : String} {now gameId playerId : ℕ} :
    (room.buildResult nodeId now gameId).Names playerId ↔ playerId ∈ room.entrants := by
  rw [← room.standings_playerIds.mem_iff, List.mem_map]
  rfl

end Room

end SnakeArena.Realtime
