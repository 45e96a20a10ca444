import Mathlib

/-!
# Worker — checking a reported result

`settlement/verify.ts`.  A report is what the realtime node wrote, read back from JSON, so its
numbers are any numbers: `⊤` is one that is not finite.

`Accepts` is the check as a list of conditions, and `verifyResult_ok` says that the loops
compute it.
-/

namespace SnakeArena.Worker

abbrev Number := WithTop ℚ

structure ReportedStanding where
  playerId : ℕ
  /-- 1 is the winner. -/
  placement : Number
  score : Number
  kills : Number
  survivedMs : Number
deriving DecidableEq

structure MatchResultReport where
  gameId : ℕ
  roomId : String
  nodeId : String
  standings : List ReportedStanding
  endedAtMs : ℕ
deriving DecidableEq

inductive VerificationFailure where
  | noStandings | unknownPlayer | missingPlayer | duplicatePlayer | invalidPlacement
  | negativeMetric | wrongGame | wrongNode
deriving DecidableEq

structure VerifiedResult where
  ok : Bool
  failures : List VerificationFailure
  /-- Sorted by placement, present only when `ok`. -/
  standings : List ReportedStanding
deriving DecidableEq

structure VerificationContext where
  gameId : ℕ
  /-- Players the settlement side recorded as having joined and paid. -/
  entrants : List ℕ
  expectedNodeId : Option String

/-- Not finite, or less than zero. -/
def Number.bad (x : Number) : Bool := x = ⊤ ∨ x < 0

/-- The loop over the standings, with the players seen so far. -/
def standingFailures (entrants seen : List ℕ) : List ReportedStanding → List VerificationFailure
  | [] => []
  | row :: rows =>
      (if row.playerId ∈ seen then [.duplicatePlayer] else []) ++
      (if row.playerId ∈ entrants then [] else [.unknownPlayer]) ++
      (if row.score.bad || row.kills.bad || row.survivedMs.bad then [.negativeMetric] else []) ++
      standingFailures entrants (row.playerId :: seen) rows

/-- The `i`-th place, from 0. -/
def placeAt (i : ℕ) : Number := ((i + 1 : ℚ) : Number)

/-- `1..N`. -/
def placesTo (n : ℕ) : List Number := (List.range n).map placeAt

/-- Checks a reported result against the recorded entrants. -/
def verifyResult (report : MatchResultReport) (context : VerificationContext) : VerifiedResult :=
  let failures : List VerificationFailure :=
    (if report.gameId ≠ context.gameId then [.wrongGame] else []) ++
    (match context.expectedNodeId with
      | none => []
      | some nodeId => if nodeId ≠ "" ∧ report.nodeId ≠ nodeId then [.wrongNode] else [])
  if report.standings = [] then ⟨false, failures ++ [.noStandings], []⟩
  else
    let seen := report.standings.map (·.playerId)
    let placements := (report.standings.map (·.placement)).insertionSort (· ≤ ·)
    let failures : List VerificationFailure := failures ++
      standingFailures context.entrants [] report.standings ++
      context.entrants.eraseDups.flatMap
        (fun entrant => if entrant ∈ seen then [] else [.missingPlayer]) ++
      (if placements = placesTo placements.length then [] else [.invalidPlacement])
    let unique := failures.eraseDups
    if unique ≠ [] then ⟨false, unique, []⟩
    else ⟨true, [], report.standings.insertionSort (·.placement ≤ ·.placement)⟩

/-- The winner, or none when the result did not verify. -/
def detectWinner (result : VerifiedResult) : Option ReportedStanding :=
  if result.ok then result.standings.find? (·.placement = 1) else none

theorem placeAt_le {i j : ℕ} (h : i ≤ j) : placeAt i ≤ placeAt j := by
  have hq : (i + 1 : ℚ) ≤ j + 1 := by exact_mod_cast Nat.succ_le_succ h
  exact WithTop.coe_le_coe.mpr hq

/-- The places are in order. -/
theorem placesTo_pairwise (n : ℕ) : (placesTo n).Pairwise (· ≤ ·) := by
  rw [placesTo, List.pairwise_map]
  exact List.pairwise_le_range.imp placeAt_le

/-! ### What is accepted -/

/-- The figures of a standing are finite, and none is negative. -/
def ReportedStanding.Sound (row : ReportedStanding) : Prop :=
  row.score.bad = false ∧ row.kills.bad = false ∧ row.survivedMs.bad = false

/-- The standings are `1..N`, with each player once. -/
structure MatchResultReport.WellFormed (report : MatchResultReport) : Prop where
  standings : report.standings ≠ []
  players : (report.standings.map (·.playerId)).Nodup
  sound : ∀ row ∈ report.standings, row.Sound
  placements : (report.standings.map (·.placement)).insertionSort (· ≤ ·)
    = placesTo report.standings.length

def MatchResultReport.Names (report : MatchResultReport) (playerId : ℕ) : Prop :=
  ∃ row ∈ report.standings, row.playerId = playerId

/-- The conditions of the check. -/
structure Accepts (context : VerificationContext) (report : MatchResultReport) : Prop where
  game : report.gameId = context.gameId
  node : ∀ nodeId, context.expectedNodeId = some nodeId → nodeId ≠ "" → report.nodeId = nodeId
  wellFormed : report.WellFormed
  known : ∀ playerId, report.Names playerId → playerId ∈ context.entrants
  complete : ∀ entrant ∈ context.entrants, report.Names entrant

theorem standingFailures_eq_nil {entrants : List ℕ} {rows : List ReportedStanding} :
    ∀ {seen : List ℕ}, standingFailures entrants seen rows = [] ↔
      (rows.map (·.playerId)).Nodup ∧ (∀ row ∈ rows, row.playerId ∉ seen) ∧
        (∀ row ∈ rows, row.playerId ∈ entrants) ∧ ∀ row ∈ rows, row.Sound := by
  induction rows with
  | nil => simp [standingFailures]
  | cons row rows ih =>
      intro seen
      have hsound : (row.score.bad || row.kills.bad || row.survivedMs.bad) = false ↔ row.Sound := by
        simp [ReportedStanding.Sound, and_assoc]
      simp only [standingFailures, List.append_eq_nil_iff, ite_eq_right_iff, ite_eq_left_iff,
        reduceCtorEq, imp_false, not_not, ih, Bool.not_eq_true, hsound, List.map_cons,
        List.nodup_cons, List.mem_map, List.forall_mem_cons, not_exists, not_and]
      simp only [List.mem_cons, not_or]
      constructor
      · rintro ⟨⟨⟨h₁, h₂⟩, h₃⟩, h₄, h₅, h₆, h₇⟩
        exact ⟨⟨fun r hr => (h₅ r hr).1, h₄⟩, ⟨h₁, fun r hr => (h₅ r hr).2⟩, ⟨h₂, h₆⟩, h₃, h₇⟩
      · rintro ⟨⟨h₁, h₂⟩, ⟨h₃, h₄⟩, ⟨h₅, h₆⟩, h₇, h₈⟩
        exact ⟨⟨⟨h₃, h₅⟩, h₇⟩, h₂, fun r hr => ⟨h₁ r hr, h₄ r hr⟩, h₆, h₈⟩

theorem eraseDups_eq_nil {α : Type*} [BEq α] [LawfulBEq α] {l : List α} :
    l.eraseDups = [] ↔ l = [] := by
  simp only [List.eq_nil_iff_forall_not_mem, List.mem_eraseDups]

theorem wrongNode_eq_nil {report : MatchResultReport} {expected : Option String} :
    (match expected with
      | none => []
      | some nodeId => if nodeId ≠ "" ∧ report.nodeId ≠ nodeId then [VerificationFailure.wrongNode]
        else []) = [] ↔
      ∀ nodeId, expected = some nodeId → nodeId ≠ "" → report.nodeId = nodeId := by
  cases expected with
  | none => simp
  | some nodeId => simp

/-- **What the check computes.** -/
theorem verifyResult_ok {report : MatchResultReport} {context : VerificationContext} :
    (verifyResult report context).ok = true ↔ Accepts context report := by
  unfold verifyResult
  by_cases hne : report.standings = []
  · simp only [hne, ↓reduceIte, Bool.false_eq_true, false_iff]
    exact fun h => h.wellFormed.standings hne
  · simp only [hne, ↓reduceIte]
    rw [apply_ite VerifiedResult.ok, ite_eq_right_iff]
    simp only [ne_eq, eraseDups_eq_nil, List.append_eq_nil_iff, standingFailures_eq_nil,
      wrongNode_eq_nil, ite_eq_right_iff, ite_eq_left_iff, reduceCtorEq, imp_false, not_not,
      List.flatMap_eq_nil_iff, List.mem_eraseDups, List.length_insertionSort, List.length_map,
      Bool.false_eq_true]
    constructor
    · rintro ⟨⟨⟨⟨hgame, hnode⟩, hplayers, -, hknown, hsound⟩, hcomplete⟩, hplaces⟩
      refine ⟨hgame, hnode, ⟨hne, hplayers, hsound, hplaces⟩, ?_, ?_⟩
      · rintro _ ⟨row, hrow, rfl⟩
        exact hknown row hrow
      · exact fun entrant h => List.mem_map.mp (hcomplete entrant h)
    · rintro ⟨hgame, hnode, hwf, hknown, hcomplete⟩
      refine ⟨⟨⟨⟨hgame, hnode⟩, hwf.players, by simp, ?_, hwf.sound⟩, ?_⟩, hwf.placements⟩
      · exact fun row hrow => hknown _ ⟨row, hrow, rfl⟩
      · exact fun entrant h => List.mem_map.mpr (hcomplete entrant h)

end SnakeArena.Worker
