import Mathlib.Data.Int.Init
import SnakeArena.Worker.Verify

/-!
# Worker — splitting the prize

`settlement/payout.ts`.  The pot is split as the program splits it, by multiplying and then
dividing, and the prize goes to the first of the standings.
-/

namespace SnakeArena.Worker

structure PayoutShare where
  playerId : ℕ
  placement : Number
  lamports : ℤ
deriving DecidableEq

def winnerShareBps : ℤ := 10000

def bpsDenominator : ℤ := 10000

def maxWinnersPerTx : ℕ := 8

/-- Always a single entry: winner takes all. -/
def tableFor (_playerCount : ℕ) : List ℤ := [winnerShareBps]

/-- What rounding leaves goes to the first. -/
def addRemainder (remainder : ℤ) : List PayoutShare → List PayoutShare
  | [] => []
  | payout :: payouts => { payout with lamports := payout.lamports + remainder } :: payouts

/-- The prize pool to the winner; a share that rounds to nothing is dropped. -/
def computePayouts (standings : List ReportedStanding) (prizePoolLamports : ℤ) :
    List PayoutShare :=
  if standings = [] ∨ prizePoolLamports ≤ 0 then []
  else
    let ordered := standings.insertionSort (·.placement ≤ ·.placement)
    let shares := tableFor ordered.length
    let payouts := (ordered.zip shares).map fun (standing, bps) =>
      ⟨standing.playerId, standing.placement, (prizePoolLamports * bps).tdiv bpsDenominator⟩
    let allocated := (payouts.map (·.lamports)).sum
    (addRemainder (prizePoolLamports - allocated) payouts).filter (0 < ·.lamports)

def totalPayout (payouts : List PayoutShare) : ℤ := (payouts.map (·.lamports)).sum

structure Split where
  prizePool : ℤ
  rake : ℤ
deriving DecidableEq

/-- Bigints divide towards zero. -/
def splitPot (potLamports : ℤ) (rakeBps : ℕ) : Split :=
  let rake := (potLamports * rakeBps).tdiv bpsDenominator
  ⟨potLamports - rake, rake⟩

def withinTransactionLimit (payouts : List PayoutShare) : Bool := payouts.length ≤ maxWinnersPerTx

/-- **Winner takes all**: whoever is paid, one player is, and gets the whole pool. -/
theorem computePayouts_eq {standings : List ReportedStanding} {prizePool : ℤ} :
    computePayouts standings prizePool = [] ∨
      ∃ payout, computePayouts standings prizePool = [payout] ∧ payout.lamports = prizePool ∧
        0 < prizePool ∧
        ((standings.insertionSort (·.placement ≤ ·.placement)).head?.map (·.playerId)) =
          some payout.playerId := by
  by_cases h : standings = [] ∨ prizePool ≤ 0
  · exact .inl (if_pos h)
  · have hpositive : 0 < prizePool := by
      rw [not_or] at h
      omega
    right
    rw [computePayouts, if_neg h]
    cases hordered : standings.insertionSort (·.placement ≤ ·.placement) with
    | nil =>
        refine absurd (.inl ?_) h
        rw [← List.length_eq_zero_iff, ← List.length_insertionSort (·.placement ≤ ·.placement),
          hordered, List.length_nil]
    | cons first rest =>
        have hshare : (prizePool * winnerShareBps).tdiv bpsDenominator = prizePool := by
          simp only [winnerShareBps, bpsDenominator]
          exact Int.mul_tdiv_cancel _ (by decide)
        refine ⟨⟨first.playerId, first.placement, prizePool⟩, ?_, rfl, hpositive, rfl⟩
        simp [tableFor, hshare, addRemainder, hpositive]

/-- A prize is paid when somebody played. -/
theorem computePayouts_ne_nil {standings : List ReportedStanding} {prize : ℤ}
    (hne : standings ≠ []) (hprize : 0 < prize) : computePayouts standings prize ≠ [] := by
  rw [computePayouts, if_neg (by rw [not_or]; exact ⟨hne, by omega⟩)]
  cases hordered : standings.insertionSort (·.placement ≤ ·.placement) with
  | nil =>
      have hperm := List.perm_insertionSort (·.placement ≤ ·.placement) standings
      rw [hordered] at hperm
      exact absurd hperm.nil_eq.symm hne
  | cons first rest =>
      have hshare : (prize * winnerShareBps).tdiv bpsDenominator = prize :=
        Int.mul_tdiv_cancel _ (by decide)
      simp [tableFor, hshare, addRemainder, hprize]

/-! ### The winner -/

theorem verifyResult_standings {report : MatchResultReport} {context : VerificationContext}
    (h : (verifyResult report context).ok = true) :
    (verifyResult report context).standings =
      report.standings.insertionSort (·.placement ≤ ·.placement) := by
  unfold verifyResult at h ⊢
  by_cases hne : report.standings = []
  · simp only [hne, ↓reduceIte, Bool.false_eq_true] at h
  · simp only [hne, ↓reduceIte] at h ⊢
    generalize @List.eraseDups VerificationFailure _ _ = unique at h ⊢
    by_cases hunique : unique = []
    · simp only [hunique, ne_eq, not_true, ↓reduceIte]
    · simp only [ne_eq, hunique, not_false_eq_true, ↓reduceIte, Bool.false_eq_true] at h

theorem placement_sorted (rows : List ReportedStanding) :
    (rows.insertionSort (·.placement ≤ ·.placement)).Pairwise (·.placement ≤ ·.placement) := by
  have : Std.Total (fun a b : ReportedStanding => a.placement ≤ b.placement) :=
    ⟨fun a b => le_total _ _⟩
  have : IsTrans ReportedStanding (fun a b => a.placement ≤ b.placement) := ⟨fun a b c => le_trans⟩
  exact List.pairwise_insertionSort _ rows

/-- The winner is the first of the standings. -/
theorem detectWinner_first {report : MatchResultReport} {context : VerificationContext}
    {winner : ReportedStanding} (h : detectWinner (verifyResult report context) = some winner) :
    ((verifyResult report context).standings.insertionSort (·.placement ≤ ·.placement)).head? =
      some winner := by
  unfold detectWinner at h
  split at h
  case isFalse => cases h
  case isTrue hok =>
      have hwf := (verifyResult_ok.mp hok).wellFormed
      rw [verifyResult_standings hok] at h ⊢
      have hsorted := placement_sorted report.standings
      rw [List.Pairwise.insertionSort_eq hsorted]
      have hplaces :
        (report.standings.insertionSort (·.placement ≤ ·.placement)).map (·.placement) =
          placesTo report.standings.length := by
        rw [← hwf.placements]
        refine List.Perm.eq_of_pairwise (fun a b _ _ => le_antisymm) ?_ ?_ ?_
        · exact List.pairwise_map.mpr hsorted
        · exact List.pairwise_insertionSort _ _
        · exact ((List.perm_insertionSort _ _).map _).trans (List.perm_insertionSort _ _).symm
      cases hrows : report.standings.insertionSort (·.placement ≤ ·.placement) with
      | nil =>
          rw [hrows] at h
          cases h
      | cons first rest =>
          rw [hrows] at h hplaces
          have hfirst : first.placement = 1 := by
            cases hn : report.standings.length with
            | zero => rw [hn] at hplaces; cases hplaces
            | succ n =>
                rw [hn, placesTo, List.range_succ_eq_map, List.map_cons, List.map_cons] at hplaces
                rw [(List.cons.inj hplaces).1]
                simp [placeAt]
          rw [List.find?_cons_of_pos (by simpa using hfirst)] at h
          rw [List.head?_cons, h]

/-- The winner is who is paid. -/
theorem computePayouts_winner {report : MatchResultReport} {context : VerificationContext}
    {winner : ReportedStanding} {prizePool : ℤ} {payout : PayoutShare}
    (hwinner : detectWinner (verifyResult report context) = some winner)
    (hpaid : computePayouts (verifyResult report context).standings prizePool = [payout]) :
    payout.playerId = winner.playerId ∧ payout.lamports = prizePool ∧ 0 < prizePool := by
  obtain hnil | ⟨payout', hpayout, hlamports, hpositive, hfirst⟩ :=
    @computePayouts_eq (verifyResult report context).standings prizePool
  · cases hnil.symm.trans hpaid
  · obtain rfl := List.singleton_inj.mp (hpayout.symm.trans hpaid)
    rw [detectWinner_first hwinner, Option.map_some] at hfirst
    exact ⟨(Option.some.inj hfirst).symm, hlamports, hpositive⟩

end SnakeArena.Worker
