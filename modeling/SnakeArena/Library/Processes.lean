import SnakeArena.Library.Runs
import SnakeArena.Library.Table

/-!
# Library — processes over a shared store

A program of processes says what a process does to the store between two of its waits, given
the answer it waited for, and what else can happen to the store.  A system runs any number of
such processes, each at its own wait; any of them can crash there, and leaves what it did.

`Keeps` is the rely-guarantee rule: an invariant of the store, an assertion for each process,
which its own step establishes and every other step leaves, and a relation of each two.
-/

namespace SnakeArena.Library

variable {σ π κ ε : Type*}

/-- Stores `σ`, processes `π`, answers `κ` and outside events `ε`. -/
structure Processes (σ π κ ε : Type*) where
  starts : π → Bool
  /-- What process `r` does when it gets its answer, and where it waits next, unless it ends. -/
  resume : ℕ → σ → π → κ → σ × Option π
  /-- What an outside event does to the store, if it can happen. -/
  other : σ → ε → Option σ

structure System (σ π : Type*) where
  store : σ
  procs : Table ℕ π

inductive Act (π κ ε : Type*) where
  | start (r : ℕ) (p : π)
  | resume (r : ℕ) (c : κ)
  | crash (r : ℕ)
  | other (e : ε)

/-- There are no processes but the first `n`. -/
def System.Below (n : ℕ) (s : System σ π) : Prop := ∀ r, n ≤ r → s.procs.get r = none

theorem System.Below.lt {n : ℕ} {s : System σ π} (h : s.Below n) {r : ℕ} {p : π}
    (hp : s.procs.get r = some p) : r < n := by
  by_contra hge
  cases (h r (Nat.le_of_not_lt hge)).symm.trans hp

/-- The process that an act is of. -/
def Act.proc : Act π κ ε → Option ℕ
  | .start r _ | .resume r _ | .crash r => some r
  | .other _ => none

namespace Processes
variable (M : Processes σ π κ ε)

/-- The system after an act, if the act can happen. -/
def act (s : System σ π) : Act π κ ε → Option (System σ π)
  | .start r p =>
      if M.starts p = true ∧ (s.procs.get r).isNone then
        some { s with procs := s.procs.upd r p }
      else none
  | .resume r c =>
      match s.procs.get r with
      | none => none
      | some p =>
          match M.resume r s.store p c with
          | (store, some p') => some ⟨store, s.procs.upd r p'⟩
          | (store, none) => some ⟨store, s.procs.del r⟩
  | .crash r =>
      if (s.procs.get r).isSome then some { s with procs := s.procs.del r } else none
  | .other e => (M.other s.store e).map fun store => { s with store }

/-- Acts one after the other. -/
def acts (s : System σ π) : List (Act π κ ε) → Option (System σ π)
  | [] => some s
  | a :: as => (M.act s a).bind fun s' => acts s' as

def Step (s : System σ π) (a : Act π κ ε) (s' : System σ π) : Prop := M.act s a = some s'

/-- What a resumed process leaves. -/
theorem step_resume {s s' : System σ π} {r : ℕ} {c : κ} (h : M.Step s (.resume r c) s') :
    ∃ p, s.procs.get r = some p ∧ s'.store = (M.resume r s.store p c).1 ∧
      s'.procs = (M.resume r s.store p c).2.elim (s.procs.del r) (s.procs.upd r) := by
  simp only [Step, act] at h
  split at h
  · cases h
  next p hp =>
      refine ⟨p, hp, ?_⟩
      split at h
      next heq =>
          obtain rfl := Option.some.inj h
          simp only [heq, Option.elim_some, and_self]
      next heq =>
          obtain rfl := Option.some.inj h
          simp only [heq, Option.elim_none, and_self]

/-- An act leaves the processes that it is not of. -/
theorem step_frame {s s' : System σ π} {a : Act π κ ε} (h : M.Step s a s') {r : ℕ}
    (hr : a.proc ≠ some r) : s'.procs.get r = s.procs.get r := by
  cases a with
  | start r' p =>
      simp only [Step, act, Option.ite_none_right_eq_some] at h
      obtain rfl := Option.some.inj h.2
      exact Table.get_upd_other fun e => hr (congrArg some e.symm)
  | crash r' =>
      simp only [Step, act, Option.ite_none_right_eq_some] at h
      obtain rfl := Option.some.inj h.2
      exact Table.get_del_other fun e => hr (congrArg some e.symm)
  | other e =>
      simp only [Step, act, Option.map_eq_some_iff] at h
      obtain ⟨store, -, rfl⟩ := h
      rfl
  | resume r' c =>
      obtain ⟨p, -, -, hprocs⟩ := M.step_resume h
      have hne : r ≠ r' := fun e => hr (congrArg some e.symm)
      rw [hprocs]
      cases (M.resume r' s.store p c).2 with
      | none => exact Table.get_del_other hne
      | some p' => exact Table.get_upd_other hne

theorem run_frame {s s' : System σ π} {as : List (Act π κ ε)} (h : Run M.Step s as s') {r : ℕ}
    (hr : ∀ a ∈ as, a.proc ≠ some r) : s'.procs.get r = s.procs.get r := by
  induction h with
  | nil => rfl
  | cons h₁ _ ih =>
      rw [ih fun a ha => hr a (List.mem_cons_of_mem _ ha)]
      exact M.step_frame h₁ (hr _ List.mem_cons_self)

/-- What no process and no outside event takes from the store, a run leaves. -/
theorem run_stable {I : σ → Prop} (hresume : ∀ r s p c, I s → I (M.resume r s p c).1)
    (hother : ∀ s e store, I s → M.other s e = some store → I store) {s s' : System σ π}
    {as : List (Act π κ ε)} (h : Run M.Step s as s') (hs : I s.store) : I s'.store := by
  refine h.invariant (I := fun s => I s.store) (fun s a s' hs ha => ?_) hs
  cases a with
  | start r p =>
      simp only [Step, act, Option.ite_none_right_eq_some] at ha
      obtain rfl := Option.some.inj ha.2
      exact hs
  | crash r =>
      simp only [Step, act, Option.ite_none_right_eq_some] at ha
      obtain rfl := Option.some.inj ha.2
      exact hs
  | other e =>
      simp only [Step, act, Option.map_eq_some_iff] at ha
      obtain ⟨store, hstore, rfl⟩ := ha
      exact hother _ e store hs hstore
  | resume r c =>
      obtain ⟨p, -, hstore, -⟩ := M.step_resume ha
      rw [hstore]
      exact hresume r _ p c hs

/-- When the first `n` have ended, and no other ever started, all have. -/
theorem run_ended {s s' : System σ π} {as : List (Act π κ ε)} (h : Run M.Step s as s')
    (hs : s.procs = Table.empty) {n : ℕ} (hproc : ∀ a ∈ as, a.proc.all (· < n) = true)
    (hended : ∀ r < n, s'.procs.get r = none) (r : ℕ) : s'.procs.get r = none := by
  by_cases hr : r < n
  · exact hended r hr
  · rw [M.run_frame h, hs, Table.get_empty]
    intro a ha e
    have := hproc a ha
    rw [e, Option.all_some, decide_eq_true_eq] at this
    exact hr this

theorem run_of_acts {as : List (Act π κ ε)} : ∀ {s s' : System σ π}, M.acts s as = some s' →
    Run M.Step s as s' := by
  induction as with
  | nil =>
      rintro s s' h
      obtain rfl : s = s' := Option.some.inj h
      exact .nil _
  | cons a as ih =>
      rintro s s' h
      obtain ⟨s₁, h₁, h₂⟩ := Option.bind_eq_some_iff.mp h
      exact .cons h₁ (ih h₂)

/-- Acts one after the other, each where `G` lets it happen. -/
def actsWhen (G : System σ π → Act π κ ε → Prop) [∀ s a, Decidable (G s a)] (s : System σ π) :
    List (Act π κ ε) → Option (System σ π)
  | [] => some s
  | a :: as => if G s a then (M.act s a).bind fun s' => actsWhen G s' as else none

theorem run_of_actsWhen {G : System σ π → Act π κ ε → Prop} [∀ s a, Decidable (G s a)]
    {as : List (Act π κ ε)} : ∀ {s s' : System σ π}, M.actsWhen G s as = some s' →
      Run (Guarded M.Step G) s as s' := by
  induction as with
  | nil =>
      rintro s s' h
      obtain rfl : s = s' := Option.some.inj h
      exact .nil _
  | cons a as ih =>
      rintro s s' h
      simp only [actsWhen, Option.ite_none_right_eq_some] at h
      obtain ⟨s₁, h₁, h₂⟩ := Option.bind_eq_some_iff.mp h.2
      exact .cons ⟨h₁, h.1⟩ (ih h₂)

/-- A state that acts lead to, found by running them. -/
theorem reachable_of_actsWhen {G : System σ π → Act π κ ε → Prop} [∀ s a, Decidable (G s a)]
    {as : List (Act π κ ε)} {init : System σ π → Prop} {s₀ : System σ π} (h₀ : init s₀)
    {test : System σ π → Bool} (h : (M.actsWhen G s₀ as).any test = true) :
    ∃ s, Reachable (Guarded M.Step G) init s ∧ test s = true := by
  obtain ⟨s, hs, htest⟩ := (Option.any_eq_true _ _).mp h
  exact ⟨s, ⟨s₀, as, h₀, M.run_of_actsWhen hs⟩, htest⟩

/-- A state that acts lead to, with no condition on them. -/
theorem reachable_of_acts {as : List (Act π κ ε)} {init : System σ π → Prop} {s₀ : System σ π}
    (h₀ : init s₀) {test : System σ π → Bool} (h : (M.acts s₀ as).any test = true) :
    ∃ s, Reachable M.Step init s ∧ test s = true := by
  obtain ⟨s, hs, htest⟩ := (Option.any_eq_true _ _).mp h
  exact ⟨s, ⟨s₀, as, h₀, M.run_of_acts hs⟩, htest⟩

/-- A guard that was tried on the first `n` processes is one of the run. -/
theorem run_below {n : ℕ} {G G' : System σ π → Act π κ ε → Prop}
    (hproc : ∀ s a, G' s a → a.proc.all (· < n) = true)
    (hG : ∀ s a, s.Below n → G' s a → G s a) {s s' : System σ π} {as : List (Act π κ ε)}
    (h : Run (Guarded M.Step G') s as s') (hs : s.Below n) :
    s'.Below n ∧ Run (Guarded M.Step G) s as s' := by
  have keeps : ∀ s a s', s.Below n → Guarded M.Step G' s a s' → s'.Below n := by
    intro s a s' hs hstep r hr
    rw [M.step_frame hstep.1 fun e => ?_]
    · exact hs r hr
    · have hlt := hproc s a hstep.2
      rw [e, Option.all_some, decide_eq_true_eq] at hlt
      exact absurd hlt (Nat.not_lt.mpr hr)
  exact ⟨h.invariant keeps hs,
    h.under keeps (fun s a _ hs hstep => ⟨hstep.1, hG s a hs hstep.2⟩) hs⟩

/-- The store meets `I`, each process `P`, and each two processes `Q`. -/
def Holds (I : σ → Prop) (P : σ → ℕ → π → Prop) (Q : π → π → Prop) (s : System σ π) : Prop :=
  I s.store ∧ s.procs.All (P s.store) ∧
    ∀ r r' p q, r ≠ r' → s.procs.get r = some p → s.procs.get r' = some q → Q p q

/-- `I`, `P` and `Q` are kept by every act that meets `G`. -/
structure Keeps (G : System σ π → Act π κ ε → Prop) (I : σ → Prop) (P : σ → ℕ → π → Prop)
    (Q : π → π → Prop) : Prop where
  symm : ∀ p q, Q p q → Q q p
  start : ∀ s r p, Holds I P Q s → G s (.start r p) → M.starts p = true →
    P s.store r p ∧ ∀ q, Q p q
  resume : ∀ s r p c, Holds I P Q s → s.procs.get r = some p → G s (.resume r c) →
    I (M.resume r s.store p c).1 ∧
      (∀ p', (M.resume r s.store p c).2 = some p' → P (M.resume r s.store p c).1 r p' ∧
        ∀ r' ≠ r, ∀ q, s.procs.get r' = some q → Q p' q) ∧
      ∀ r' ≠ r, ∀ q, s.procs.get r' = some q → P (M.resume r s.store p c).1 r' q
  other : ∀ s e store, Holds I P Q s → G s (.other e) →
    M.other s.store e = some store → I store ∧ s.procs.All (P store)

variable {M} {G : System σ π → Act π κ ε → Prop} {I : σ → Prop} {P : σ → ℕ → π → Prop}
  {Q : π → π → Prop}

/-- A process written, when it is in order with all others. -/
theorem pairs_upd {procs : Table ℕ π} (hsymm : ∀ p q, Q p q → Q q p)
    (h : ∀ r r' p q, r ≠ r' → procs.get r = some p → procs.get r' = some q → Q p q) {r : ℕ} {p : π}
    (hp : ∀ r' ≠ r, ∀ q, procs.get r' = some q → Q p q) :
    ∀ r₁ r₂ p₁ p₂, r₁ ≠ r₂ → (procs.upd r p).get r₁ = some p₁ → (procs.upd r p).get r₂ = some p₂ →
      Q p₁ p₂ := by
  intro r₁ r₂ p₁ p₂ hne h₁ h₂
  by_cases e₁ : r₁ = r
  · subst e₁
    rw [Table.get_upd_same] at h₁
    rw [Table.get_upd_other hne.symm] at h₂
    exact Option.some.inj h₁ ▸ hp r₂ hne.symm p₂ h₂
  · rw [Table.get_upd_other e₁] at h₁
    by_cases e₂ : r₂ = r
    · subst e₂
      rw [Table.get_upd_same] at h₂
      exact Option.some.inj h₂ ▸ hsymm _ _ (hp r₁ e₁ p₁ h₁)
    · rw [Table.get_upd_other e₂] at h₂
      exact h r₁ r₂ p₁ p₂ hne h₁ h₂

/-- **The rely-guarantee rule.** -/
theorem Keeps.step (h : M.Keeps G I P Q) {s s' : System σ π} {a : Act π κ ε}
    (hs : Holds I P Q s) (ha : Guarded M.Step G s a s') : Holds I P Q s' := by
  obtain ⟨ha, hg⟩ := ha
  obtain ⟨hI, hP, hQ⟩ := hs
  cases a with
  | start r p =>
      simp only [Step, act, Option.ite_none_right_eq_some, Option.some.injEq] at ha
      obtain ⟨⟨hstarts, -⟩, rfl⟩ := ha
      obtain ⟨hp, hq⟩ := h.start s r p ⟨hI, hP, hQ⟩ hg hstarts
      exact ⟨hI, hP.upd hp, pairs_upd h.symm hQ fun _ _ q _ => hq q⟩
  | resume r c =>
      simp only [Step, act] at ha
      cases hp : s.procs.get r with
      | none => simp [hp] at ha
      | some p =>
          obtain ⟨hI', hself, hothers⟩ := h.resume s r p c ⟨hI, hP, hQ⟩ hp hg
          cases hres : M.resume r s.store p c with
          | mk store p' =>
              rw [hres] at hI' hself hothers
              cases p' with
              | none =>
                  simp only [hp, hres, Option.some.injEq] at ha
                  subst ha
                  refine ⟨hI', fun r' q hq => ?_, fun r₁ r₂ p₁ p₂ hne h₁ h₂ => ?_⟩
                  · obtain ⟨hne, hq⟩ := Table.get_of_del hq
                    exact hothers r' hne q hq
                  · exact hQ r₁ r₂ p₁ p₂ hne (Table.get_of_del h₁).2 (Table.get_of_del h₂).2
              | some p' =>
                  simp only [hp, hres, Option.some.injEq] at ha
                  subst ha
                  obtain ⟨hp', hq'⟩ := hself p' rfl
                  refine ⟨hI', fun r' q hq => ?_, pairs_upd h.symm hQ hq'⟩
                  by_cases e : r' = r
                  · subst e
                    rw [Table.get_upd_same] at hq
                    exact Option.some.inj hq ▸ hp'
                  · exact hothers r' e q (by rwa [Table.get_upd_other e] at hq)
  | crash r =>
      simp only [Step, act, Option.ite_none_right_eq_some, Option.some.injEq] at ha
      obtain ⟨-, rfl⟩ := ha
      exact ⟨hI, hP.del, fun r₁ r₂ p₁ p₂ hne h₁ h₂ =>
        hQ r₁ r₂ p₁ p₂ hne (Table.get_of_del h₁).2 (Table.get_of_del h₂).2⟩
  | other e =>
      simp only [Step, act, Option.map_eq_some_iff] at ha
      obtain ⟨store, hstore, rfl⟩ := ha
      obtain ⟨hI', hP'⟩ := h.other s e store ⟨hI, hP, hQ⟩ hg hstore
      exact ⟨hI', hP', hQ⟩

/-- A step takes the store along `R`, and the process knows `K` where it waits next. -/
def Leads (R : σ → σ → Prop) (K : σ → π → Prop) (s : σ) (out : σ × Option π) : Prop :=
  R s out.1 ∧ ∀ p, out.2 = some p → K out.1 p

section Leads
variable {R : σ → σ → Prop} {K : σ → π → Prop} {s s' : σ}

theorem Leads.ends (h : R s s') : Leads R K s (s', none) := ⟨h, fun _ e => by cases e⟩

theorem Leads.goes (h : R s s') {p : π} (hp : K s' p) : Leads R K s (s', some p) :=
  ⟨h, fun _ e => Option.some.inj e ▸ hp⟩

/-- The rule when every step takes the store along `R`, and what a process knows is kept
along `R`. -/
theorem Keeps.of_leads (inv : ∀ s s', R s s' → I s') (knows : ∀ s s' p, R s s' → K s p → K s' p)
    (start : ∀ s p, M.starts p = true → K s p)
    (resume : ∀ s r p c, I s.store → s.procs.get r = some p → K s.store p → G s (.resume r c) →
      Leads R K s.store (M.resume r s.store p c))
    (other : ∀ s e store, I s.store → G s (.other e) → M.other s.store e = some store →
      R s.store store) : M.Keeps G I (fun s _ p => K s p) fun _ _ => True where
  symm _ _ _ := trivial
  start s _ p _ _ hstarts := ⟨start s.store p hstarts, fun _ => trivial⟩
  resume s r p c hs hp hg := by
    obtain ⟨hI, hK, -⟩ := hs
    obtain ⟨hR, hnext⟩ := resume s r p c hI hp (hK r p hp) hg
    exact ⟨inv _ _ hR, fun p' hp' => ⟨hnext p' hp', fun _ _ _ _ => trivial⟩,
      fun r' _ q hq => knows _ _ q hR (hK r' q hq)⟩
  other s e store hs hg he := by
    obtain ⟨hI, hK, -⟩ := hs
    have hR := other s e store hI hg he
    exact ⟨inv _ _ hR, hK.mono fun _ q => knows _ _ q hR⟩

end Leads

/-- The rule when a step of a process takes the store along `R`, where `R` says what its owner may
do, and what a process knows is kept along the steps of those that do not own the same. -/
theorem Keeps.of_owners {ι : Type*} (own : π → Option ι) (R : Option ι → σ → σ → Prop)
    (K : σ → π → Prop) (inv : ∀ o s s', R o s s' → I s')
    (knows : ∀ o s s' p, R o s s' → K s p → (∀ i, own p = some i → o ≠ some i) → K s' p)
    (start : ∀ s p, M.starts p = true → K s p ∧ own p = none)
    (resume : ∀ s r p c, I s.store → s.procs.get r = some p → K s.store p → G s (.resume r c) →
      R (own p) s.store (M.resume r s.store p c).1 ∧
        ∀ p', (M.resume r s.store p c).2 = some p' → K (M.resume r s.store p c).1 p' ∧
          ∀ i, own p' = some i → own p = some i ∨ ∀ q, K s.store q → own q ≠ some i)
    (other : ∀ s e store, I s.store → G s (.other e) → M.other s.store e = some store →
      R none s.store store) :
    M.Keeps G I (fun s _ p => K s p) fun p q => ∀ i, own p = some i → own q ≠ some i where
  symm p q hpq := fun i hq hp => hpq i hp hq
  start s _ p _ _ hstarts := by
    obtain ⟨hK, hnone⟩ := start s.store p hstarts
    exact ⟨hK, fun q i hi => nomatch hnone.symm.trans hi⟩
  resume s r p c hs hp hg := by
    obtain ⟨hI, hK, hQ⟩ := hs
    obtain ⟨hR, hnext⟩ := resume s r p c hI hp (hK r p hp) hg
    refine ⟨inv _ _ _ hR, fun p' hp' => ⟨(hnext p' hp').1, fun r' hne q hq i hi => ?_⟩,
      fun r' hne q hq => knows _ _ _ q hR (hK r' q hq) fun i hi hp' => ?_⟩
    · rcases (hnext p' hp').2 i hi with hsame | hfree
      · exact hQ r r' p q hne.symm hp hq i hsame
      · exact hfree q (hK r' q hq)
    · exact hQ r r' p q hne.symm hp hq i hp' hi
  other s e store hs hg he := by
    obtain ⟨hI, hK, -⟩ := hs
    have hR := other s e store hI hg he
    exact ⟨inv _ _ _ hR, hK.mono fun _ q hq => knows _ _ _ q hR hq fun _ _ => nofun⟩

/-- What a run keeps, a run that meets more keeps. -/
theorem Keeps.mono {G' : System σ π → Act π κ ε → Prop} (h : M.Keeps G I P Q)
    (hG : ∀ s a, G' s a → G s a) : M.Keeps G' I P Q where
  symm := h.symm
  start s r p hs hg := h.start s r p hs (hG s _ hg)
  resume s r p c hs hp hg := h.resume s r p c hs hp (hG s _ hg)
  other s e store hs hg := h.other s e store hs (hG s _ hg)

/-- What is kept on top of what else is kept. -/
theorem Keeps.and {I' : σ → Prop} {P' : σ → ℕ → π → Prop} {Q' : π → π → Prop}
    (h : M.Keeps G I P Q) (h' : M.Keeps (fun s a => G s a ∧ Holds I P Q s) I' P' Q') :
    M.Keeps G (fun s => I s ∧ I' s) (fun s r p => P s r p ∧ P' s r p) fun p q =>
      Q p q ∧ Q' p q := by
  have split : ∀ s, Holds (fun s => I s ∧ I' s) (fun s r p => P s r p ∧ P' s r p)
      (fun p q => Q p q ∧ Q' p q) s → Holds I P Q s ∧ Holds I' P' Q' s := fun s hs =>
    ⟨⟨hs.1.1, hs.2.1.mono fun _ _ k => k.1, fun r r' p q hne hp hq =>
      (hs.2.2 r r' p q hne hp hq).1⟩,
      hs.1.2, hs.2.1.mono fun _ _ k => k.2, fun r r' p q hne hp hq => (hs.2.2 r r' p q hne hp hq).2⟩
  refine ⟨fun p q hpq => ⟨h.symm p q hpq.1, h'.symm p q hpq.2⟩, ?_, ?_, ?_⟩
  · intro s r p hs hg hstarts
    obtain ⟨hbase, htop⟩ := split s hs
    obtain ⟨hP, hQ⟩ := h.start s r p hbase hg hstarts
    obtain ⟨hP', hQ'⟩ := h'.start s r p htop ⟨hg, hbase⟩ hstarts
    exact ⟨⟨hP, hP'⟩, fun q => ⟨hQ q, hQ' q⟩⟩
  · intro s r p c hs hp hg
    obtain ⟨hbase, htop⟩ := split s hs
    obtain ⟨hI, hself, hrest⟩ := h.resume s r p c hbase hp hg
    obtain ⟨hI', hself', hrest'⟩ := h'.resume s r p c htop hp ⟨hg, hbase⟩
    exact ⟨⟨hI, hI'⟩,
      fun p' hp' => ⟨⟨(hself p' hp').1, (hself' p' hp').1⟩, fun r' hne q hq =>
        ⟨(hself p' hp').2 r' hne q hq, (hself' p' hp').2 r' hne q hq⟩⟩,
      fun r' hne q hq => ⟨hrest r' hne q hq, hrest' r' hne q hq⟩⟩
  · intro s e store hs hg he
    obtain ⟨hbase, htop⟩ := split s hs
    obtain ⟨hI, hP⟩ := h.other s e store hbase hg he
    obtain ⟨hI', hP'⟩ := h'.other s e store htop ⟨hg, hbase⟩ he
    exact ⟨⟨hI, hI'⟩, fun r p hp => ⟨hP r p hp, hP' r p hp⟩⟩

/-- What the rule keeps holds in every state reached. -/
theorem Keeps.reachable (h : M.Keeps G I P Q) {init : System σ π → Prop}
    (h₀ : ∀ s, init s → Holds I P Q s) {s : System σ π}
    (hs : Reachable (Guarded M.Step G) init s) : Holds I P Q s :=
  hs.invariant h₀ fun _ _ _ hs ha => h.step hs ha

end Processes

end SnakeArena.Library
