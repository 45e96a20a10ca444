import Mathlib.Tactic.NormNum
import SnakeArena.Worker.Payout

/-!
# Worker — the reports that are accepted

`Good` says what a report must be, without a word of how it is checked: the right game and
node, the entrants once each, the places from 1 up, and figures that are numbers.
`verifyResult_exact` has three parts.

* The check accepts a report exactly when it is good.
* The order of its rows changes neither the answer, nor the sorted standings, nor which
  failures are found.  It may change the order in which they are found.
* An accepted report has one first place, and `detectWinner` returns it.

The places decide the order of the standings, so no two rows of an accepted report tie.
-/

namespace SnakeArena.Worker

/-- A finite number that is not negative. -/
def Number.Counts (x : Number) : Prop := ∃ q : ℚ, x = (q : Number) ∧ 0 ≤ q

theorem Number.counts_iff {x : Number} : x.Counts ↔ x.bad = false := by
  simp only [Number.bad, decide_eq_false_iff_not, not_or, not_lt]
  constructor
  · rintro ⟨q, rfl, hq⟩
    exact ⟨WithTop.coe_ne_top, WithTop.coe_nonneg.mpr hq⟩
  · rintro ⟨hfinite, hx⟩
    obtain ⟨q, rfl⟩ := WithTop.ne_top_iff_exists.mp hfinite
    exact ⟨q, rfl, WithTop.coe_nonneg.mp hx⟩

/-- The metrics of a row. -/
def ReportedStanding.metrics (row : ReportedStanding) : List Number :=
  [row.score, row.kills, row.survivedMs]

theorem ReportedStanding.sound_iff {row : ReportedStanding} :
    row.Sound ↔ ∀ x ∈ row.metrics, x.Counts := by
  simp [Sound, metrics, Number.counts_iff]

structure Good (context : VerificationContext) (report : MatchResultReport) : Prop where
  game : report.gameId = context.gameId
  node : ∀ nodeId, context.expectedNodeId = some nodeId → nodeId ≠ "" → report.nodeId = nodeId
  once : (report.standings.map (·.playerId)).Nodup
  entrants : ∀ playerId, playerId ∈ report.standings.map (·.playerId) ↔ playerId ∈ context.entrants
  places : ∃ n, 1 ≤ n ∧ (report.standings.map (·.placement)).Perm (placesTo n)
  metrics : ∀ row ∈ report.standings, ∀ x ∈ row.metrics, x.Counts

/-! ### The places -/

theorem placeAt_injective : Function.Injective placeAt := by
  intro i j h
  have hq : (i + 1 : ℚ) = j + 1 := WithTop.coe_injective h
  exact_mod_cast add_right_cancel hq

theorem placesTo_nodup (n : ℕ) : (placesTo n).Nodup := List.nodup_range.map placeAt_injective

/-- Sorting and walking the index is asking for a permutation. -/
theorem insertionSort_eq_placesTo {places : List Number} {n : ℕ} :
    places.insertionSort (· ≤ ·) = placesTo n ↔ places.Perm (placesTo n) := by
  constructor
  · intro h
    rw [← h]
    exact (List.perm_insertionSort _ _).symm
  · intro h
    refine List.Perm.eq_of_pairwise (fun a b _ _ => le_antisymm) ?_ (placesTo_pairwise n)
      ((List.perm_insertionSort _ _).trans h)
    exact List.pairwise_insertionSort _ _

theorem good_iff {context : VerificationContext} {report : MatchResultReport} :
    Accepts context report ↔ Good context report := by
  constructor
  · rintro ⟨hgame, hnode, ⟨hne, honce, hsound, hplaces⟩, hknown, hcomplete⟩
    refine ⟨hgame, hnode, honce, fun playerId => ?_, ⟨report.standings.length, ?_, ?_⟩, ?_⟩
    · constructor
      · intro h
        exact hknown playerId (List.mem_map.mp h)
      · intro h
        exact List.mem_map.mpr (hcomplete playerId h)
    · exact List.length_pos_iff.mpr hne
    · exact insertionSort_eq_placesTo.mp hplaces
    · exact fun row hrow => ReportedStanding.sound_iff.mp (hsound row hrow)
  · rintro ⟨hgame, hnode, honce, hentrants, ⟨n, hn, hplaces⟩, hmetrics⟩
    have hlength : report.standings.length = n := by
      simpa [placesTo] using hplaces.length_eq
    refine ⟨hgame, hnode, ⟨?_, honce, ?_, ?_⟩, ?_, ?_⟩
    · rw [← List.length_pos_iff, hlength]
      exact hn
    · exact fun row hrow => ReportedStanding.sound_iff.mpr (hmetrics row hrow)
    · rw [hlength]
      exact insertionSort_eq_placesTo.mpr hplaces
    · exact fun playerId h => (hentrants playerId).mp (List.mem_map.mpr h)
    · exact fun entrant h => List.mem_map.mp ((hentrants entrant).mpr h)

/-- A rejected report has no standings to settle. -/
theorem verifyResult_rejected {report : MatchResultReport} {context : VerificationContext}
    (h : ¬ (verifyResult report context).ok = true) :
    (verifyResult report context).standings = [] := by
  unfold verifyResult at h ⊢
  by_cases hne : report.standings = []
  · simp only [hne, ↓reduceIte]
  · simp only [hne, ↓reduceIte] at h ⊢
    generalize @List.eraseDups VerificationFailure _ _ = unique at h ⊢
    by_cases hunique : unique = []
    · simp only [hunique, ne_eq, not_true, ↓reduceIte] at h
    · simp only [ne_eq, hunique, not_false_eq_true, ↓reduceIte]

/-! ### The order of the rows -/

section Perm
variable {context : VerificationContext} {report : MatchResultReport}
  {rows : List ReportedStanding}

theorem Good.perm (h : Good context report) (hrows : rows.Perm report.standings) :
    Good context { report with standings := rows } where
  game := h.game
  node := h.node
  once := ((hrows.map _).nodup_iff).mpr h.once
  entrants playerId := ((hrows.map _).mem_iff).trans (h.entrants playerId)
  places := by
    obtain ⟨n, hn, hplaces⟩ := h.places
    exact ⟨n, hn, (hrows.map _).trans hplaces⟩
  metrics row hrow := h.metrics row (hrows.mem_iff.mp hrow)

/-- Two rows of a good report with one place are one row. -/
theorem Good.placement_inj (h : Good context report) {a b : ReportedStanding}
    (ha : a ∈ report.standings) (hb : b ∈ report.standings) (hab : a.placement = b.placement) :
    a = b := by
  obtain ⟨n, -, hplaces⟩ := h.places
  exact List.inj_on_of_nodup_map (hplaces.nodup_iff.mpr (placesTo_nodup n)) ha hb hab

theorem Good.sorted_perm (h : Good context report) (hrows : rows.Perm report.standings) :
    rows.insertionSort (·.placement ≤ ·.placement) =
      report.standings.insertionSort (·.placement ≤ ·.placement) := by
  have hperm := ((List.perm_insertionSort (·.placement ≤ ·.placement) rows).trans hrows).trans
    (List.perm_insertionSort (·.placement ≤ ·.placement) report.standings).symm
  refine hperm.eq_of_pairwise (fun a b ha hb hab hba => ?_) (placement_sorted rows)
    (placement_sorted report.standings)
  rw [List.mem_insertionSort] at ha hb
  exact h.placement_inj (hrows.mem_iff.mp ha) hb (le_antisymm hab hba)

end Perm

/-! ### What a rejection says -/

/-- What each failure reports.  An empty report is not searched for more. -/
inductive Fails (context : VerificationContext) (report : MatchResultReport) :
    VerificationFailure → Prop where
  | wrongGame (h : report.gameId ≠ context.gameId) : Fails context report .wrongGame
  | wrongNode {nodeId} (hexpected : context.expectedNodeId = some nodeId) (hne : nodeId ≠ "")
      (h : report.nodeId ≠ nodeId) : Fails context report .wrongNode
  | noStandings (h : report.standings = []) : Fails context report .noStandings
  | duplicatePlayer (h : ¬ (report.standings.map (·.playerId)).Nodup) :
      Fails context report .duplicatePlayer
  | unknownPlayer {row} (hrow : row ∈ report.standings) (h : row.playerId ∉ context.entrants) :
      Fails context report .unknownPlayer
  | missingPlayer {entrant} (hne : report.standings ≠ []) (hentrant : entrant ∈ context.entrants)
      (h : entrant ∉ report.standings.map (·.playerId)) : Fails context report .missingPlayer
  | invalidPlacement (h : ¬ (report.standings.map (·.placement)).Perm
      (placesTo report.standings.length)) : Fails context report .invalidPlacement
  | negativeMetric {row} (hrow : row ∈ report.standings) (h : ¬ row.Sound) :
      Fails context report .negativeMetric

theorem Fails.perm {context : VerificationContext} {report : MatchResultReport}
    {rows : List ReportedStanding} {f : VerificationFailure} (h : Fails context report f)
    (hrows : report.standings.Perm rows) : Fails context { report with standings := rows } f := by
  cases h with
  | wrongGame h => exact .wrongGame h
  | wrongNode hexpected hne h => exact .wrongNode hexpected hne h
  | noStandings h =>
      rw [h] at hrows
      exact .noStandings hrows.nil_eq.symm
  | duplicatePlayer h => exact .duplicatePlayer fun hnodup => h ((hrows.map _).nodup_iff.mpr hnodup)
  | unknownPlayer hrow h => exact .unknownPlayer (hrows.mem_iff.mp hrow) h
  | missingPlayer hne hentrant h =>
      refine .missingPlayer (fun hnil => ?_) hentrant fun hmem => h ((hrows.map _).mem_iff.mpr hmem)
      rw [show rows = [] from hnil] at hrows
      exact hne hrows.eq_nil
  | invalidPlacement h =>
      refine .invalidPlacement fun hplaces => h ?_
      rw [hrows.length_eq]
      exact (hrows.map _).trans hplaces
  | negativeMetric hrow h => exact .negativeMetric (hrows.mem_iff.mp hrow) h

/-- What the loop over the rows finds. -/
theorem mem_standingFailures {entrants : List ℕ} {f : VerificationFailure}
    {rows : List ReportedStanding} : ∀ {seen : List ℕ},
    f ∈ standingFailures entrants seen rows ↔
      f = .duplicatePlayer ∧
          (¬ (rows.map (·.playerId)).Nodup ∨ ∃ row ∈ rows, row.playerId ∈ seen) ∨
        f = .unknownPlayer ∧ (∃ row ∈ rows, row.playerId ∉ entrants) ∨
        f = .negativeMetric ∧ ∃ row ∈ rows, ¬ row.Sound := by
  induction rows with
  | nil => simp [standingFailures]
  | cons row rows ih =>
      intro seen
      have hsound :
          (row.score.bad || row.kills.bad || row.survivedMs.bad) = true ↔ ¬ row.Sound := by
        simp only [ReportedStanding.Sound, Bool.or_eq_true, not_and_or, Bool.not_eq_false, or_assoc]
      simp only [standingFailures, List.mem_append, ih, List.mem_ite_nil_right,
        List.mem_ite_nil_left, hsound, List.map_cons, List.nodup_cons, List.mem_cons]
      grind

theorem mem_wrongNode {report : MatchResultReport} {expected : Option String}
    {f : VerificationFailure} :
    (f ∈ match expected with
      | none => []
      | some nodeId => if nodeId ≠ "" ∧ report.nodeId ≠ nodeId then [VerificationFailure.wrongNode]
        else []) ↔
      f = .wrongNode ∧ ∃ nodeId, expected = some nodeId ∧ nodeId ≠ "" ∧ report.nodeId ≠ nodeId := by
  cases expected with
  | none => simp
  | some nodeId => simp [and_comm]

/-- The failures listed are those there are. -/
theorem mem_failures {report : MatchResultReport} {context : VerificationContext}
    {f : VerificationFailure} :
    f ∈ (verifyResult report context).failures ↔ Fails context report f := by
  have hnone : ∀ unique : List VerificationFailure, ∀ rows,
      (if unique ≠ [] then (⟨false, unique, []⟩ : VerifiedResult) else ⟨true, [], rows⟩).failures =
        unique := by
    intro unique rows
    split
    · rfl
    · next h => exact (not_not.mp h).symm
  unfold verifyResult
  by_cases hne : report.standings = []
  · simp only [hne, ↓reduceIte, List.mem_append, List.mem_ite_nil_right, List.mem_singleton]
    constructor
    · rintro ((⟨h, rfl⟩ | h) | rfl)
      · exact .wrongGame h
      · obtain ⟨rfl, nodeId, h₁, h₂, h₃⟩ := mem_wrongNode.mp h
        exact .wrongNode h₁ h₂ h₃
      · exact .noStandings hne
    · rintro (h | ⟨h₁, h₂, h₃⟩ | h | h | ⟨hrow, -⟩ | ⟨h, -, -⟩ | h | ⟨hrow, -⟩)
      · exact .inl (.inl ⟨h, rfl⟩)
      · exact .inl (.inr (mem_wrongNode.mpr ⟨rfl, _, h₁, h₂, h₃⟩))
      · exact .inr rfl
      · exact absurd (by simp [hne]) h
      · simp [hne] at hrow
      · exact absurd hne h
      · exact absurd (by simp [hne, placesTo]) h
      · simp [hne] at hrow
  · simp only [hne, ↓reduceIte]
    rw [hnone]
    simp only [List.mem_eraseDups, List.mem_append, List.mem_ite_nil_right, List.mem_ite_nil_left,
      List.mem_singleton, mem_standingFailures, List.mem_flatMap, List.length_insertionSort,
      List.length_map, insertionSort_eq_placesTo, List.not_mem_nil, and_false, exists_false,
      or_false]
    constructor
    · rintro ((((⟨h, rfl⟩ | h) | ⟨rfl, h⟩ | ⟨rfl, row, hrow, h⟩ | ⟨rfl, row, hrow, h⟩) |
        ⟨entrant, hentrant, h, rfl⟩) | ⟨h, rfl⟩)
      · exact .wrongGame h
      · obtain ⟨rfl, nodeId, h₁, h₂, h₃⟩ := mem_wrongNode.mp h
        exact .wrongNode h₁ h₂ h₃
      · exact .duplicatePlayer h
      · exact .unknownPlayer hrow h
      · exact .negativeMetric hrow h
      · exact .missingPlayer hne hentrant h
      · exact .invalidPlacement h
    · rintro (h | ⟨h₁, h₂, h₃⟩ | h | h | ⟨hrow, h⟩ | ⟨-, hentrant, h⟩ | h | ⟨hrow, h⟩)
      · exact .inl (.inl (.inl (.inl ⟨h, rfl⟩)))
      · exact .inl (.inl (.inl (.inr (mem_wrongNode.mpr ⟨rfl, _, h₁, h₂, h₃⟩))))
      · exact absurd h hne
      · exact .inl (.inl (.inr (.inl ⟨rfl, h⟩)))
      · exact .inl (.inl (.inr (.inr (.inl ⟨rfl, _, hrow, h⟩))))
      · exact .inl (.inr ⟨_, hentrant, h, rfl⟩)
      · exact .inr ⟨h, rfl⟩
      · exact .inl (.inl (.inr (.inr (.inr ⟨rfl, _, hrow, h⟩))))

/-! ### The first place -/

/-- An accepted report has one row at the first place, and it is the winner. -/
theorem Good.winner {context : VerificationContext} {report : MatchResultReport}
    (h : Good context report) : ∃ winner,
      detectWinner (verifyResult report context) = some winner ∧
        (verifyResult report context).standings.filter (·.placement = 1) = [winner] := by
  have hok : (verifyResult report context).ok = true := verifyResult_ok.mpr (good_iff.mpr h)
  obtain ⟨n, hn, hplaces⟩ := h.places
  have hone : placeAt 0 = 1 := by simp [placeAt]
  have hmem : (1 : Number) ∈ report.standings.map (·.placement) := by
    rw [hplaces.mem_iff, placesTo, ← hone]
    exact List.mem_map_of_mem (List.mem_range.mpr hn)
  obtain ⟨winner, hwinner, hfirst⟩ := List.mem_map.mp hmem
  have hstandings := verifyResult_standings hok
  have hrow : ∀ row ∈ (verifyResult report context).standings,
      row.placement = 1 → row = winner := by
    intro row hrow h₁
    rw [hstandings, List.mem_insertionSort] at hrow
    exact h.placement_inj hrow hwinner (h₁.trans hfirst.symm)
  have hsorted : winner ∈ (verifyResult report context).standings := by
    rw [hstandings, List.mem_insertionSort]
    exact hwinner
  have hnodup : (verifyResult report context).standings.Nodup := by
    rw [hstandings, (List.perm_insertionSort _ _).nodup_iff]
    exact List.Nodup.of_map _ h.once
  refine ⟨winner, ?_, ?_⟩
  · rw [detectWinner, if_pos hok]
    cases hfind : (verifyResult report context).standings.find? (·.placement = 1) with
    | none =>
        have := List.find?_eq_none.mp hfind winner hsorted
        simp [hfirst] at this
    | some row =>
        have hplace : row.placement = 1 := by simpa using List.find?_some hfind
        rw [hrow row (List.mem_of_find?_eq_some hfind) hplace]
  · rw [List.filter_congr (q := (· == winner)) fun row hmem => ?_, List.filter_beq,
      List.count_eq_one_of_mem hnodup hsorted, List.replicate_one]
    by_cases e : row = winner
    · simp [e, hfirst]
    · have hplace : row.placement ≠ 1 := fun h₁ => e (hrow row hmem h₁)
      simp [e, hplace]

/-- What is accepted is the rows of the report, in the order of their places. -/
theorem Good.in_order {context : VerificationContext} {report : MatchResultReport}
    (h : Good context report) :
    (verifyResult report context).standings.Perm report.standings ∧
      (verifyResult report context).standings.map (·.placement) =
        placesTo report.standings.length := by
  have hsorted := verifyResult_standings (verifyResult_ok.mpr (good_iff.mpr h))
  have hperm : (verifyResult report context).standings.Perm report.standings := by
    rw [hsorted]
    exact List.perm_insertionSort _ _
  obtain ⟨n, -, hplaces⟩ := h.places
  have hlength : report.standings.length = n := by
    simpa [placesTo] using hplaces.length_eq
  refine ⟨hperm, ?_⟩
  refine ((hperm.map _).trans (hlength ▸ hplaces)).eq_of_pairwise (fun a b _ _ => le_antisymm) ?_
    (placesTo_pairwise _)
  rw [hsorted, List.pairwise_map]
  exact placement_sorted report.standings

/-- **The check accepts exactly the good reports**, whatever the order of their rows.  An accepted
report keeps its rows, from the first place to the last, and has one first place, which is the
winner's. -/
theorem verifyResult_exact (report : MatchResultReport) (context : VerificationContext) :
    ((verifyResult report context).ok = true ↔ Good context report) ∧
      (∀ rows, report.standings.Perm rows →
        let reordered := verifyResult { report with standings := rows } context
        reordered.ok = (verifyResult report context).ok ∧
          reordered.standings = (verifyResult report context).standings ∧
          ∀ f, f ∈ reordered.failures ↔ f ∈ (verifyResult report context).failures) ∧
      ((verifyResult report context).ok = true →
        (verifyResult report context).standings.Perm report.standings ∧
        (verifyResult report context).standings.map (·.placement) =
          placesTo report.standings.length ∧
        ∃ winner, detectWinner (verifyResult report context) = some winner ∧
          (verifyResult report context).standings.filter (·.placement = 1) = [winner]) := by
  have hok : ∀ report, (verifyResult report context).ok = true ↔ Good context report :=
    fun report => verifyResult_ok.trans good_iff
  refine ⟨hok report, fun rows hrows => ?_, fun h => ?_⟩
  swap
  · have hgood := (hok report).mp h
    exact ⟨hgood.in_order.1, hgood.in_order.2, hgood.winner⟩
  have hiff : (verifyResult { report with standings := rows } context).ok = true ↔
      (verifyResult report context).ok = true := by
    rw [hok, hok]
    exact ⟨fun h => h.perm hrows, fun h => h.perm hrows.symm⟩
  refine ⟨Bool.eq_iff_iff.mpr hiff, ?_, fun f => ?_⟩
  · by_cases h : (verifyResult report context).ok = true
    · rw [verifyResult_standings h, verifyResult_standings (hiff.mpr h)]
      exact ((hok report).mp h).sorted_perm hrows.symm
    · rw [verifyResult_rejected h, verifyResult_rejected (mt hiff.mp h)]
  · rw [mem_failures, mem_failures]
    exact ⟨fun h => h.perm hrows.symm, fun h => h.perm hrows⟩

/-- Two entrants, the second of them first. -/
def twoRows : MatchResultReport :=
  ⟨1, "room", "node", [⟨7, 2, 10, 0, 4⟩, ⟨8, 1, 5, 1, 9⟩], 0⟩

theorem twoRows_good : Good ⟨1, [8, 7], none⟩ twoRows := by
  have places : placesTo 2 = [1, 2] := by
    simp [placesTo, List.range_succ, placeAt, one_add_one_eq_two]
  refine ⟨rfl, by rintro _ ⟨⟩, by decide, by simp [twoRows, or_comm], ⟨2, by decide, ?_⟩, ?_⟩
  · rw [places]
    exact .swap _ _ _
  · simp only [twoRows, List.forall_mem_cons, ReportedStanding.metrics, List.not_mem_nil,
      false_imp_iff, implies_true, and_true]
    refine ⟨⟨⟨10, rfl, ?_⟩, ⟨0, rfl, ?_⟩, ⟨4, rfl, ?_⟩⟩, ⟨5, rfl, ?_⟩, ⟨1, rfl, ?_⟩,
      ⟨9, rfl, ?_⟩⟩ <;>
      norm_num

theorem verifyResult_exact_two : (verifyResult twoRows ⟨1, [8, 7], none⟩).ok = true ∧
    (verifyResult twoRows ⟨1, [8, 7], none⟩).standings.map (·.placement) = placesTo 2 ∧
      ∃ winner, detectWinner (verifyResult twoRows ⟨1, [8, 7], none⟩) = some winner := by
  obtain ⟨hok, -, hfirst⟩ := verifyResult_exact twoRows ⟨1, [8, 7], none⟩
  obtain ⟨-, hplaces, winner, hwinner, -⟩ := hfirst (hok.mpr twoRows_good)
  exact ⟨hok.mpr twoRows_good, hplaces, winner, hwinner⟩

end SnakeArena.Worker
