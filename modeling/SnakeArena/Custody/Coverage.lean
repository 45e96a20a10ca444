import SnakeArena.Gateway.Treasury
import SnakeArena.Program.Calls

/-!
# Custody — what the solvency flag says

`custodyCoverage` of `services/admin-treasury.ts` compares the pool on chain with what is owed.
`transfer_from_vault` pays out of the pool, and does not leave it below its own rent.

* `payOut_iff`: payments go through exactly when the pool has their total and its rent besides,
  in whatever order and split.
* `custodyCoverage_iff`: the flag leaves the rent out.
-/

namespace SnakeArena.Custody
open SnakeArena.Library
open SnakeArena.Program (Runtime State Pubkey Result Tx transferFromVault)

/-- Payments out of the pool, one after the other. -/
def payOut (rt : Runtime) (s : State) : List (Pubkey × ℕ) → Result State
  | [] => .ok s
  | (dest, amount) :: rest => do
      let t ← transferFromVault rt (.start s) .pool dest amount
      payOut rt t.state rest

def total (payments : List (Pubkey × ℕ)) : ℕ := (payments.map Prod.snd).sum

/-- What the platform owes players. -/
def owed (totals : Gateway.PoolTotals) : ℤ := totals.playerCustody + totals.escrow

section Payments
variable {rt : Runtime} {s : State}

/-- One payment: what it needs, and what it leaves. -/
theorem transferFromVault_pool {dest : Pubkey} (hdest : dest ≠ .pool) {amount : ℕ}
    (hsupply : Bounded (Program.u64Max + 1) s.lamports) (h : amount ≠ 0) :
    (∃ t, transferFromVault rt (.start s) .pool dest amount = .ok t) ↔
      amount + rt.minimumBalance 0 ≤ s.lamports .pool := by
  constructor
  · rintro ⟨t, ht⟩
    exact (Program.transferFromVault_eq_ok ht).2 h
  · exact fun hcovered => Program.transferFromVault_ok hdest.symm hcovered hsupply

theorem transferFromVault_left {dest : Pubkey} (hdest : dest ≠ .pool) {amount : ℕ} {t : Tx}
    (hsupply : Bounded (Program.u64Max + 1) s.lamports)
    (h : transferFromVault rt (.start s) .pool dest amount = .ok t) :
    t.state.lamports .pool + amount = s.lamports .pool ∧
      Bounded (Program.u64Max + 1) t.state.lamports := by
  obtain ⟨⟨l, hmoved, rfl⟩, -⟩ := Program.transferFromVault_eq_ok h
  have hbalance := hmoved.balance .pool
  rw [Program.outflow_payment, Program.inflow_payment, if_pos rfl, if_neg hdest] at hbalance
  exact ⟨hbalance, hmoved.bounded hsupply⟩

/-- **Payments go through** when the pool has their total and its rent besides, or when there is
nothing to pay. -/
theorem payOut_iff {payments : List (Pubkey × ℕ)} :
    ∀ {s : State}, (∀ payment ∈ payments, payment.1 ≠ .pool) →
      Bounded (Program.u64Max + 1) s.lamports →
      ((∃ s', payOut rt s payments = .ok s') ↔
        total payments = 0 ∨ total payments + rt.minimumBalance 0 ≤ s.lamports .pool) := by
  induction payments with
  | nil => exact fun _ _ => iff_of_true ⟨_, rfl⟩ (.inl rfl)
  | cons payment rest ih =>
      obtain ⟨dest, amount⟩ := payment
      intro s hdest hsupply
      obtain ⟨hfirst, hrest⟩ := List.forall_mem_cons.mp hdest
      have htotal : total ((dest, amount) :: rest) = amount + total rest := rfl
      rw [htotal]
      have hstep : (∃ s', payOut rt s ((dest, amount) :: rest) = .ok s') ↔
          ∃ t, transferFromVault rt (.start s) .pool dest amount = .ok t ∧
            (total rest = 0 ∨ total rest + rt.minimumBalance 0 ≤ t.state.lamports .pool) := by
        simp only [payOut, Program.bind_eq_ok]
        rw [exists_comm]
        refine exists_congr fun t => ?_
        rw [exists_and_left]
        refine and_congr_right fun ht => ih hrest (transferFromVault_left hfirst hsupply ht).2
      rw [hstep]
      by_cases hzero : amount = 0
      · subst hzero
        simp [transferFromVault, Tx.start]
      · constructor
        · rintro ⟨t, ht, hleft⟩
          have := (transferFromVault_left hfirst hsupply ht).1
          have := (transferFromVault_pool hfirst hsupply hzero).mp ⟨t, ht⟩
          omega
        · intro hcovered
          obtain ⟨t, ht⟩ := (@transferFromVault_pool rt _ _ hfirst _ hsupply hzero).mpr (by omega)
          have := (transferFromVault_left hfirst hsupply ht).1
          exact ⟨t, ht, by omega⟩

end Payments

/-- A list of payments to players and vaults other than the pool, of all that is owed. -/
def PaysOwed (totals : Gateway.PoolTotals) (payments : List (Pubkey × ℕ)) : Prop :=
  (∀ payment ∈ payments, payment.1 ≠ .pool) ∧ (total payments : ℤ) = owed totals

theorem custodyCoverage_solvent (pool : ℕ) (totals : Gateway.PoolTotals) :
    (Gateway.custodyCoverage (some pool) totals).2 = some (decide (owed totals ≤ pool)) := by
  rw [Gateway.custodyCoverage, Option.some_inj, decide_eq_decide]
  exact sub_nonneg

/-- **The flag leaves the rent out.**  It tells whether what is owed can be paid, except where the
pool covers it and not its own rent besides. -/
theorem custodyCoverage_iff (rt : Runtime) {s : State}
    (hsupply : Bounded (Program.u64Max + 1) s.lamports) (totals : Gateway.PoolTotals) :
    (((Gateway.custodyCoverage (some (s.lamports .pool)) totals).2 = some true →
        ∀ payments, PaysOwed totals payments → ∃ s', payOut rt s payments = .ok s') ∧
      ((Gateway.custodyCoverage (some (s.lamports .pool)) totals).2 = some false →
        ∀ payments, PaysOwed totals payments → ∀ s', payOut rt s payments ≠ .ok s')) ↔
    owed totals ≤ 0 ∨ (s.lamports .pool : ℤ) < owed totals ∨
      owed totals + rt.minimumBalance 0 ≤ s.lamports .pool := by
  rw [custodyCoverage_solvent, Option.some_inj, Option.some_inj, decide_eq_true_iff,
    decide_eq_false_iff_not]
  constructor
  · rintro ⟨hsolvent, -⟩
    by_contra hcon
    simp only [not_or, not_le, not_lt] at hcon
    obtain ⟨hpos, hpool, hrent⟩ := hcon
    have howed : ((owed totals).toNat : ℤ) = owed totals := Int.toNat_of_nonneg hpos.le
    have htotal : total [(Pubkey.treasury, (owed totals).toNat)] = (owed totals).toNat := by
      simp [total]
    have hpays : PaysOwed totals [(.treasury, (owed totals).toNat)] :=
      ⟨by simp, by rw [htotal, howed]⟩
    have hpaid := (payOut_iff hpays.1 hsupply).mp (hsolvent hpool _ hpays)
    rw [htotal] at hpaid
    omega
  · intro h
    refine ⟨fun hsolvent payments hpays => (payOut_iff hpays.1 hsupply).mpr ?_,
      fun hshort payments hpays s' hpaid => ?_⟩
    · have := hpays.2
      omega
    · have := hpays.2
      have := (payOut_iff hpays.1 hsupply).mp ⟨s', hpaid⟩
      omega

/-- A chain of which only the pool is looked at. -/
def pooled (pool : ℕ) : State where
  lamports a := if a = .pool then pool else 0
  config := none
  players := .empty
  rooms := .empty
  roomPlayers := .empty

theorem pooled_supply {pool : ℕ} (h : pool ≤ Program.u64Max) :
    Bounded (Program.u64Max + 1) (pooled pool).lamports := by
  intro S
  rw [pooled, Finset.sum_ite_eq']
  split <;> omega

/-- Two million lamports are owed, and the pool has them and its rent. -/
theorem custodyCoverage_covered :
    (Gateway.custodyCoverage (some 2890880) ⟨1500000, 500000, 0, 0, 0, 0, 0⟩).2 = some true ∧
      ∀ payments, PaysOwed ⟨1500000, 500000, 0, 0, 0, 0, 0⟩ payments →
        ∃ s', payOut .validator (pooled 2890880) payments = .ok s' :=
  ⟨by decide, ((custodyCoverage_iff .validator (pooled_supply (by decide)) _).mpr
    (.inr (.inr (by decide)))).1 (by decide)⟩

/-- The pool has precisely what is owed: the flag is up, and it cannot be paid. -/
theorem custodyCoverage_exact :
    (Gateway.custodyCoverage (some 2000000) ⟨1500000, 500000, 0, 0, 0, 0, 0⟩).2 = some true ∧
      PaysOwed ⟨1500000, 500000, 0, 0, 0, 0, 0⟩ [(.key 4, 1500000), (.key 5, 500000)] ∧
      payOut .validator (pooled 2000000) [(.key 4, 1500000), (.key 5, 500000)] =
        .error (.arena .wouldBreakRentExemption) :=
  ⟨by decide, ⟨by simp, by decide⟩, rfl⟩

end SnakeArena.Custody
