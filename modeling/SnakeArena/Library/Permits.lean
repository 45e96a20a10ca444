import SnakeArena.Library.Processes

/-!
# Library — permits

A permit is made once, and from then on it is in one place at most: in the store, or with one
process.  A step that moves permits from place to place, loses some, or makes one that was not
known before keeps it so (`Moves`, `keeps`).  What can be used once is counted as a place
of the store where its uses are written down.
-/

namespace SnakeArena.Library

/-- How often a permit is in the store, which one a process holds, and which were ever made. -/
structure Permits (σ π ι : Type*) where
  count : σ → ι → ℕ
  held : π → Option ι
  known : σ → ι → Prop

namespace Permits
variable {σ π κ ε ι : Type*} [DecidableEq ι] (T : Permits σ π ι)

/-- A process that is there holds it. -/
def heldBy (p : Option π) (k : ι) : ℕ := if p.bind T.held = some k then 1 else 0

/-- What a step of `p` does to the permits. -/
structure Moves (s : σ) (p : π) (out : σ × Option π) : Prop where
  known : ∀ k, T.known s k → T.known out.1 k
  place : ∀ k, T.count out.1 k + T.heldBy out.2 k ≤ T.count s k + T.heldBy (some p) k ∨
    ¬T.known s k ∧ T.known out.1 k ∧ T.count out.1 k + T.heldBy out.2 k ≤ T.count s k + 1

def Single (s : σ) : Prop := ∀ k, T.count s k ≤ 1 ∧ (T.count s k ≠ 0 → T.known s k)

def Alone (s : σ) (p : π) : Prop := ∀ k, T.held p = some k → T.count s k = 0 ∧ T.known s k

def Apart (p q : π) : Prop := ∀ k, T.held p = some k → T.held q ≠ some k

variable {T}

theorem heldBy_some {p : π} {k : ι} (h : T.held p = some k) : T.heldBy (some p) k = 1 := if_pos h

theorem heldBy_none {p : π} {k : ι} (h : T.held p ≠ some k) : T.heldBy (some p) k = 0 := if_neg h

@[simp] theorem heldBy_ended (k : ι) : T.heldBy none k = 0 := rfl

/-- A step that leaves every permit where it is, or loses some. -/
theorem Moves.of_le {s : σ} {p : π} {out : σ × Option π}
    (hknown : ∀ k, T.known s k → T.known out.1 k)
    (hcount : ∀ k, T.count out.1 k ≤ T.count s k)
    (hheld : ∀ p' k, out.2 = some p' → T.held p' = some k → T.held p = some k) :
    T.Moves s p out where
  known := hknown
  place k := by
    refine .inl (Nat.add_le_add (hcount k) ?_)
    unfold heldBy
    split
    case isTrue h =>
        obtain ⟨p', hp', hk⟩ := Option.bind_eq_some_iff.mp h
        rw [if_pos (show (some p).bind T.held = some k from hheld p' k hp' hk)]
    case isFalse => exact Nat.zero_le _

section Keeps
variable {M : Processes σ π κ ε} {G : System σ π → Act π κ ε → Prop} {I : σ → Prop}
  {P : σ → ℕ → π → Prop} {Q : π → π → Prop}

/-- Where a permit is after a step of a process that did not hold it in common with the store. -/
theorem Moves.after {s : σ} {p : π} {out : σ × Option π} (h : T.Moves s p out) (hs : T.Single s)
    (hp : T.Alone s p) (k : ι) :
    T.count out.1 k + T.heldBy out.2 k ≤ 1 ∧
      (T.count out.1 k + T.heldBy out.2 k ≠ 0 → T.known out.1 k) := by
  obtain ⟨hle, hknown⟩ := hs k
  by_cases hk : T.held p = some k
  · obtain ⟨hzero, hmade⟩ := hp k hk
    obtain hplace | ⟨hnew, -, -⟩ := h.place k
    · rw [hzero, heldBy_some hk] at hplace
      exact ⟨hplace, fun _ => h.known k hmade⟩
    · exact absurd hmade hnew
  · obtain hplace | ⟨hnew, hmade, hplace⟩ := h.place k
    · rw [heldBy_none hk, add_zero] at hplace
      exact ⟨hplace.trans hle, fun hne => h.known k (hknown (by omega))⟩
    · have hzero : T.count s k = 0 := by
        by_contra hne
        exact hnew (hknown hne)
      exact ⟨by omega, fun _ => hmade⟩

/-- A step leaves what another process holds. -/
theorem Moves.elsewhere {s : σ} {p q : π} {out : σ × Option π} (h : T.Moves s p out)
    (hq : T.Alone s q) (hpq : T.Apart p q) {k : ι} (hk : T.held q = some k) :
    T.count out.1 k = 0 ∧ T.heldBy out.2 k = 0 ∧ T.known out.1 k := by
  obtain ⟨hzero, hmade⟩ := hq k hk
  obtain hplace | ⟨hnew, -, -⟩ := h.place k
  · rw [hzero, heldBy_none fun hp => hpq k hp hk] at hplace
    exact ⟨by omega, by omega, h.known k hmade⟩
  · exact absurd hmade hnew

/-- **The rule for permits**, on top of what else is kept. -/
theorem keeps (T : Permits σ π ι) (h : M.Keeps G I P Q)
    (hstart : ∀ p, M.starts p = true → T.held p = none)
    (hresume : ∀ s r p c, Processes.Holds I P Q s → s.procs.get r = some p → G s (.resume r c) →
      T.Moves s.store p (M.resume r s.store p c))
    (hother : ∀ s e store, I s.store → G s (.other e) → M.other s.store e = some store →
      ∀ k, T.count store k = T.count s.store k ∧ (T.known s.store k → T.known store k)) :
    M.Keeps G (fun s => I s ∧ T.Single s) (fun s r p => P s r p ∧ T.Alone s p)
      fun p q => Q p q ∧ T.Apart p q := by
  refine h.and ⟨fun p q hpq k hq hp => hpq k hp hq, ?_, ?_, ?_⟩
  · intro s r p _ _ hstarts
    have hnone := hstart p hstarts
    have hno : ∀ k, T.held p ≠ some k := fun k hk => nomatch hnone.symm.trans hk
    exact ⟨fun k hk => absurd hk (hno k), fun q k hk => absurd hk (hno k)⟩
  · intro s r p c hs hp hg
    obtain ⟨hsingle, halone, hapart⟩ := hs
    obtain ⟨hg, hbase⟩ := hg
    have hmoves := hresume s r p c hbase hp hg
    have hafter := hmoves.after hsingle (halone r p hp)
    have helsewhere : ∀ r' ≠ r, ∀ q, s.procs.get r' = some q → ∀ k, T.held q = some k → _ :=
      fun r' hne q hq _ hk => hmoves.elsewhere (halone r' q hq) (hapart r r' p q hne.symm hp hq) hk
    refine ⟨fun k => ?_, fun p' hp' => ⟨fun k hk => ?_, ?_⟩, ?_⟩
    · obtain ⟨hle, hmade⟩ := hafter k
      exact ⟨by omega, fun hne => hmade (by omega)⟩
    · obtain ⟨hle, hmade⟩ := hafter k
      rw [hp', heldBy_some hk] at hle hmade
      exact ⟨by omega, hmade (by omega)⟩
    · intro r' hne q hq k hk hk'
      obtain ⟨-, hzero, -⟩ := helsewhere r' hne q hq k hk'
      rw [hp', heldBy_some hk] at hzero
      exact one_ne_zero hzero
    · intro r' hne q hq k hk
      obtain ⟨hzero, -, hmade⟩ := helsewhere r' hne q hq k hk
      exact ⟨hzero, hmade⟩
  · intro s e store hs hg he
    obtain ⟨hsingle, halone, -⟩ := hs
    obtain ⟨hg, hbase⟩ := hg
    have hsame := hother s e store hbase.1 hg he
    refine ⟨fun k => ?_, fun r p hp k hk => ?_⟩
    · obtain ⟨heq, hknown⟩ := hsame k
      obtain ⟨hle, hmade⟩ := hsingle k
      exact ⟨heq ▸ hle, fun hne => hknown (hmade (heq ▸ hne))⟩
    · obtain ⟨heq, hknown⟩ := hsame k
      obtain ⟨hzero, hmade⟩ := halone r p hp k hk
      exact ⟨heq.trans hzero, hknown hmade⟩

end Keeps

end Permits

end SnakeArena.Library
