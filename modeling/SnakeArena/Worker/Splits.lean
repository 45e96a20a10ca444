import SnakeArena.Gateway.Funds
import SnakeArena.Program.Utils
import SnakeArena.Sdk.Instructions
import SnakeArena.Worker.Reports

/-!
# Worker — one split, in five places

The fee of an amount is computed by the program (`apply_bps`, `split_pot`), the worker
(`splitPot`), the gateway (`prizeAfterRake`) and the SDK (`splitWithdrawal`).  `fee` is what
they all compute; each is tied to it by one lemma, and `splits_agree` puts them together with
what `computePayouts` makes of the prize.

A pot of nothing has a prize of nothing, and then nobody is paid, first place included: a
payout of nothing is one the program refuses.
-/

namespace SnakeArena.Worker
open SnakeArena.Program (applyBps validatePayouts maxFeeBps u64Max u128Max)

/-! ### What they compute -/

/-- The fee of an amount, rounded down. -/
def fee (amount bps : ℕ) : ℕ := amount * bps / 10000

section Fee
variable {amount bps : ℕ}

theorem fee_le (hbps : bps ≤ 10000) : fee amount bps ≤ amount := Program.bps_le hbps

/-- Bigints divide towards zero, which is down here. -/
theorem tdiv_eq_fee : ((amount : ℤ) * (bps : ℤ)).tdiv 10000 = fee amount bps := by
  rw [Int.tdiv_eq_ediv_of_nonneg (by positivity), fee]
  push_cast
  rfl

theorem applyBps_eq_fee (hamount : amount ≤ u64Max) (hbps : bps ≤ 10000) :
    applyBps amount bps = .ok (fee amount bps) := Program.applyBps_of_le hamount hbps

theorem program_splitPot (hamount : amount ≤ u64Max) (hbps : bps ≤ maxFeeBps) :
    Program.splitPot amount bps = .ok (fee amount bps, amount - fee amount bps) := by
  have hcap : bps ≤ 10000 := hbps.trans (by decide)
  have hle : fee amount bps ≤ amount := fee_le hcap
  have hprod : amount * bps ≤ u128Max := by
    calc amount * bps ≤ u64Max * 10000 := Nat.mul_le_mul hamount hcap
      _ ≤ u128Max := by decide
  simp only [Program.splitPot, Program.bind_eq_ok, Program.require_eq_ok, Program.sub_eq_ok]
  exact ⟨(), hbps, (), hprod, (), hle.trans hamount, _, ⟨hle, rfl⟩, rfl⟩

theorem worker_splitPot (hbps : bps ≤ 10000) :
    splitPot amount bps = ⟨(amount - fee amount bps : ℕ), fee amount bps⟩ := by
  simp only [splitPot, bpsDenominator, tdiv_eq_fee, Nat.cast_sub (fee_le hbps)]

theorem prizeAfterRake_eq (hbps : bps ≤ 10000) :
    Gateway.prizeAfterRake amount bps = (amount - fee amount bps : ℕ) := by
  rw [Nat.cast_sub (fee_le hbps), Gateway.prizeAfterRake]
  split
  · next h =>
      -- a pot of nothing, whose fee is nothing too
      obtain rfl : amount = 0 := by omega
      simp [fee]
  · simp only [Gateway.bpsDenominator, tdiv_eq_fee]

theorem splitWithdrawal_eq (hbps : bps ≤ Program.maxWithdrawalFeeBps) :
    Sdk.splitWithdrawal amount bps =
      .ok ⟨amount, fee amount bps, (amount - fee amount bps : ℕ)⟩ := by
  have hcap : bps ≤ 10000 := hbps.trans (by decide)
  have hbps' : (bps : ℤ) ≤ Sdk.maxWithdrawalFeeBps := by
    unfold Sdk.maxWithdrawalFeeBps
    exact_mod_cast hbps
  rw [Sdk.splitWithdrawal, if_neg (by omega), if_neg (by omega)]
  simp only [Sdk.bpsDenominator, tdiv_eq_fee, Nat.cast_sub (fee_le hcap)]

end Fee

/-! ### What is made of the prize -/

theorem sumPayouts_ok {payouts : List ℕ} : ∀ {total : ℕ}, (∀ a ∈ payouts, 0 < a) →
    total + payouts.sum ≤ u64Max →
    Program.sumPayouts total payouts = .ok (total + payouts.sum) := by
  induction payouts with
  | nil => simp [Program.sumPayouts]
  | cons amount rest ih =>
      intro total hpos hmax
      rw [List.sum_cons] at hmax ⊢
      simp only [Program.sumPayouts, Program.bind_eq_ok, Program.require_eq_ok,
        Program.add_eq_ok]
      refine ⟨(), hpos amount (by simp), _, ⟨by omega, rfl⟩, ?_⟩
      rw [ih (fun a ha => hpos a (by simp [ha])) (by omega), Nat.add_assoc]

/-- A short list of positive amounts that fits the type passes the check of its own sum. -/
theorem validatePayouts_sum {payouts : List ℕ} (hne : payouts ≠ [])
    (hlength : payouts.length ≤ Program.maxWinnersPerDistribution)
    (hpos : ∀ a ∈ payouts, 0 < a) (hmax : payouts.sum ≤ u64Max) :
    validatePayouts payouts payouts.sum = .ok payouts.sum := by
  have hsum := @sumPayouts_ok payouts 0 hpos (by omega)
  rw [Nat.zero_add] at hsum
  simp only [validatePayouts, Program.bind_eq_ok, Program.require_eq_ok]
  exact ⟨(), hne, (), hlength, _, hsum, (), rfl, rfl⟩

/-- What a list of payouts must be for the program to send it. -/
structure Sendable (prize : ℕ) (payouts : List PayoutShare) : Prop where
  few : payouts.length ≤ Program.maxWinnersPerDistribution
  positive : ∀ payout ∈ payouts, 0 < payout.lamports
  distinct : (payouts.map (·.playerId)).Nodup
  exact : totalPayout payouts = prize
  accepted : 0 < prize → validatePayouts (payouts.map (·.lamports.toNat)) prize = .ok prize

theorem computePayouts_zero (standings : List ReportedStanding) :
    computePayouts standings 0 = [] := if_pos (.inr le_rfl)

/-- One player, paid the whole prize. -/
theorem Sendable.single {prize : ℕ} {payout : PayoutShare} (hprize : prize ≤ u64Max)
    (hlamports : payout.lamports = prize) (hpositive : 0 < prize) : Sendable prize [payout] where
  few := by simp [Program.maxWinnersPerDistribution]
  positive := by
    intro p hp
    rw [List.mem_singleton.mp hp, hlamports]
    exact_mod_cast hpositive
  distinct := List.nodup_singleton _
  exact := by rw [totalPayout, List.map_singleton, List.sum_singleton, hlamports]
  accepted _ := by
    rw [List.map_singleton, hlamports, Int.toNat_natCast]
    have hsum : [prize].sum = prize := List.sum_singleton
    have hok := @validatePayouts_sum [prize] (by simp)
      (by simp [Program.maxWinnersPerDistribution]) (by simpa using hpositive) (by rwa [hsum])
    rwa [hsum] at hok

theorem Sendable.nil : Sendable 0 [] where
  few := Nat.zero_le _
  positive := by simp
  distinct := List.nodup_nil
  exact := rfl
  accepted h := absurd h (lt_irrefl 0)

/-- What an accepted report makes of a prize: the first place is paid it, when there is any. -/
theorem computePayouts_sendable {report : MatchResultReport} {context : VerificationContext}
    (h : (verifyResult report context).ok = true) {prize : ℕ} (hprize : prize ≤ u64Max) :
    Sendable prize (computePayouts (verifyResult report context).standings prize) ∧
      (0 < prize → ∃ winner payout, detectWinner (verifyResult report context) = some winner ∧
        winner.placement = 1 ∧ payout.playerId = winner.playerId ∧
        payout ∈ computePayouts (verifyResult report context).standings prize) := by
  rcases Nat.eq_zero_or_pos prize with rfl | hpositive
  · rw [Nat.cast_zero, computePayouts_zero]
    exact ⟨.nil, fun h => absurd h (lt_irrefl 0)⟩
  · have hgood := good_iff.mp (verifyResult_ok.mp h)
    obtain ⟨winner, hwinner, hfirst⟩ := hgood.winner
    have hrows : (verifyResult report context).standings ≠ [] := by
      intro hnil
      rw [hnil] at hfirst
      cases hfirst
    have hplace : winner.placement = 1 := by
      have hmem : winner ∈ (verifyResult report context).standings.filter (·.placement = 1) := by
        rw [hfirst]
        exact List.mem_singleton_self _
      simpa using (List.mem_filter.mp hmem).2
    obtain hnil | ⟨payout, hpayout, -⟩ :=
      @computePayouts_eq (verifyResult report context).standings prize
    · exact absurd hnil (computePayouts_ne_nil hrows (by exact_mod_cast hpositive))
    · obtain ⟨hplayer, hlamports, -⟩ := computePayouts_winner hwinner hpayout
      rw [hpayout]
      exact ⟨.single hprize hlamports hpositive,
        fun _ => ⟨winner, payout, hwinner, hplace, hplayer, List.mem_singleton_self _⟩⟩

/-! ### The splits agree -/

/-- **The split formulas agree**, and the program accepts what is made of the prize.  The
withdrawal split has the lower cap. -/
theorem splits_agree {pot : ℕ} (hpot : pot < 2 ^ 64) :
    (∀ bps ≤ maxFeeBps, ∃ rake prize, rake = pot * bps / 10000 ∧ rake + prize = pot ∧
      applyBps pot bps = .ok rake ∧ Program.sub pot rake = .ok prize ∧
      Program.splitPot pot bps = .ok (rake, prize) ∧ splitPot pot bps = ⟨prize, rake⟩ ∧
      Gateway.prizeAfterRake pot bps = prize ∧
      ∀ report context, (verifyResult report context).ok = true →
        Sendable prize (computePayouts (verifyResult report context).standings prize) ∧
        (0 < prize → ∃ winner payout, detectWinner (verifyResult report context) = some winner ∧
          winner.placement = 1 ∧ payout.playerId = winner.playerId ∧
          payout ∈ computePayouts (verifyResult report context).standings prize)) ∧
    ∀ bps ≤ Program.maxWithdrawalFeeBps, ∃ rake net, rake = pot * bps / 10000 ∧
      rake + net = pot ∧ applyBps pot bps = .ok rake ∧ Program.sub pot rake = .ok net ∧
      Sdk.splitWithdrawal pot bps = .ok ⟨pot, rake, net⟩ := by
  have hmax : pot ≤ u64Max := Nat.le_pred_of_lt hpot
  constructor
  · intro bps hbps
    have hcap : bps ≤ 10000 := hbps.trans (by decide)
    have hle : fee pot bps ≤ pot := fee_le hcap
    refine ⟨fee pot bps, pot - fee pot bps, rfl, by omega, applyBps_eq_fee hmax hcap, ?_,
      program_splitPot hmax hbps, worker_splitPot hcap, prizeAfterRake_eq hcap, ?_⟩
    · exact Program.sub_eq_ok.mpr ⟨hle, rfl⟩
    · exact fun report context h => computePayouts_sendable h (by omega)
  · intro bps hbps
    have hcap : bps ≤ 10000 := hbps.trans (by decide)
    have hle : fee pot bps ≤ pot := fee_le hcap
    exact ⟨fee pot bps, pot - fee pot bps, rfl, by omega, applyBps_eq_fee hmax hcap,
      Program.sub_eq_ok.mpr ⟨hle, rfl⟩, splitWithdrawal_eq hbps⟩

/-- The greatest pot, at the highest rate, after a match of two. -/
theorem splits_agree_greatest : ∃ rake prize winner payout, rake + prize = 2 ^ 64 - 1 ∧
    Program.splitPot (2 ^ 64 - 1) 1000 = .ok (rake, prize) ∧
    splitPot (2 ^ 64 - 1 : ℕ) 1000 = ⟨prize, rake⟩ ∧
    detectWinner (verifyResult twoRows ⟨1, [8, 7], none⟩) = some winner ∧
    payout ∈ computePayouts (verifyResult twoRows ⟨1, [8, 7], none⟩).standings prize ∧
    payout.playerId = winner.playerId := by
  have hok : (verifyResult twoRows ⟨1, [8, 7], none⟩).ok = true :=
    verifyResult_ok.mpr (good_iff.mpr twoRows_good)
  obtain ⟨rake, prize, hrake, hsum, -, -, hprogram, hworker, -, hpaid⟩ :=
    (@splits_agree (2 ^ 64 - 1) (by decide)).1 1000 (by decide)
  obtain ⟨winner, payout, hwinner, -, hplayer, hpayout⟩ := (hpaid twoRows _ hok).2 (by omega)
  exact ⟨rake, prize, winner, payout, hsum, hprogram, hworker, hwinner, hpayout, hplayer⟩

/-- An empty pot leaves the first place of an accepted report out. -/
theorem splits_leave_out : ∃ report context winner,
    detectWinner (verifyResult report context) = some winner ∧ splitPot 0 1000 = ⟨0, 0⟩ ∧
      ¬ ∃ payout, payout.playerId = winner.playerId ∧ payout ∈
        computePayouts (verifyResult report context).standings (splitPot 0 1000).prizePool := by
  obtain ⟨winner, hwinner, -⟩ := twoRows_good.winner
  refine ⟨twoRows, ⟨1, [8, 7], none⟩, winner, hwinner, rfl, ?_⟩
  rintro ⟨payout, -, hpayout⟩
  rw [show (splitPot 0 1000).prizePool = 0 from rfl, computePayouts_zero] at hpayout
  cases hpayout

end SnakeArena.Worker
