import Mathlib.Data.List.Induction
import Mathlib.Tactic.Common

/-!
# Library — labelled runs

A system is a relation `step s l s'` over states and labels.  A run is a list of labels with
the states between them; `Run.invariant` is the induction every safety property goes through,
once, and `Guarded` restricts a system to the steps that meet a condition on the state and the
label, so that "every run whose steps all meet `G`" is a run of a system again.
-/

namespace SnakeArena.Library

variable {σ ℓ : Type*}

/-- The labels `ls` lead from the first state to the last. -/
inductive Run (step : σ → ℓ → σ → Prop) : σ → List ℓ → σ → Prop where
  | nil (s : σ) : Run step s [] s
  | cons {s s₁ s' : σ} {l : ℓ} {ls : List ℓ} (h : step s l s₁) (t : Run step s₁ ls s') :
      Run step s (l :: ls) s'

/-- The steps of `step` taken where `G` holds. -/
def Guarded (step : σ → ℓ → σ → Prop) (G : σ → ℓ → Prop) (s : σ) (l : ℓ) (s' : σ) : Prop :=
  step s l s' ∧ G s l

namespace Run

variable {step : σ → ℓ → σ → Prop}

theorem one {s s' : σ} {l : ℓ} (h : step s l s') : Run step s [l] s' := .cons h (.nil s')

theorem append {s s₁ s' : σ} {ls ls' : List ℓ} (h : Run step s ls s₁) (h' : Run step s₁ ls' s') :
    Run step s (ls ++ ls') s' := by
  induction h with
  | nil => exact h'
  | cons hs _ ih => exact .cons hs (ih h')

theorem snoc {s s₁ s' : σ} {ls : List ℓ} {l : ℓ} (h : Run step s ls s₁) (hl : step s₁ l s') :
    Run step s (ls ++ [l]) s' := h.append (.one hl)

/-- A run of a concatenation passes through a state between the two parts. -/
theorem split {ls ls' : List ℓ} : ∀ {s s' : σ}, Run step s (ls ++ ls') s' →
    ∃ s₁, Run step s ls s₁ ∧ Run step s₁ ls' s' := by
  induction ls with
  | nil => exact fun h => ⟨_, .nil _, h⟩
  | cons l ls ih =>
      rintro s s' (_ | ⟨h, t⟩)
      obtain ⟨s₁, h₁, h₂⟩ := ih t
      exact ⟨s₁, .cons h h₁, h₂⟩

/-- **The invariant rule.** -/
theorem invariant {I : σ → Prop} (hI : ∀ s l s', I s → step s l s' → I s') {s s' : σ}
    {ls : List ℓ} (h : Run step s ls s') (hs : I s) : I s' := by
  induction h with
  | nil => exact hs
  | cons h₁ _ ih => exact ih (hI _ _ _ hs h₁)

/-- The invariant rule for a property of the run so far. -/
theorem history {I : List ℓ → σ → Prop} {s : σ} (h₀ : I [] s)
    (hI : ∀ ls s₁ l s', Run step s ls s₁ → I ls s₁ → step s₁ l s' → I (ls ++ [l]) s')
    {ls : List ℓ} : ∀ {s'}, Run step s ls s' → I ls s' := by
  induction ls using List.reverseRecOn with
  | nil =>
      rintro s' ⟨⟩
      exact h₀
  | append_singleton ls l ih =>
      intro s' h
      obtain ⟨s₁, h₁, h₂⟩ := h.split
      rcases h₂ with _ | ⟨hl, _ | _⟩
      exact hI ls s₁ l s' h₁ (ih h₁) hl

theorem mono {step' : σ → ℓ → σ → Prop} (hm : ∀ s l s', step s l s' → step' s l s') {s s' : σ}
    {ls : List ℓ} (h : Run step s ls s') : Run step' s ls s' := by
  induction h with
  | nil => exact .nil _
  | cons h₁ _ ih => exact .cons (hm _ _ _ h₁) ih

/-- A run of one system is a run of another, where an invariant of the first lets it be. -/
theorem under {step' : σ → ℓ → σ → Prop} {I : σ → Prop}
    (hI : ∀ s l s', I s → step s l s' → I s') (hm : ∀ s l s', I s → step s l s' → step' s l s')
    {s s' : σ} {ls : List ℓ} (h : Run step s ls s') (hs : I s) : Run step' s ls s' := by
  induction h with
  | nil => exact .nil _
  | cons h₁ _ ih => exact .cons (hm _ _ _ hs h₁) (ih (hI _ _ _ hs h₁))

theorem of_guarded {G : σ → ℓ → Prop} {s s' : σ} {ls : List ℓ}
    (h : Run (Guarded step G) s ls s') : Run step s ls s' :=
  h.mono fun _ _ _ h => h.1

end Run

/-- The labels in order, each taken where `G` lets it, when `next` says what a label leads to. -/
def follow (next : σ → ℓ → Option σ) (G : σ → ℓ → Prop) [∀ s l, Decidable (G s l)] (s : σ) :
    List ℓ → Option σ
  | [] => some s
  | l :: ls => if G s l then (next s l).bind fun s' => follow next G s' ls else none

theorem run_of_follow {next : σ → ℓ → Option σ} {G : σ → ℓ → Prop} [∀ s l, Decidable (G s l)]
    {ls : List ℓ} : ∀ {s s' : σ}, follow next G s ls = some s' →
      Run (Guarded (fun s l s' => next s l = some s') G) s ls s' := by
  induction ls with
  | nil =>
      intro s s' h
      obtain rfl : s = s' := Option.some.inj h
      exact .nil _
  | cons l ls ih =>
      intro s s' h
      simp only [follow, Option.ite_none_right_eq_some] at h
      obtain ⟨s₁, h₁, h₂⟩ := Option.bind_eq_some_iff.mp h.2
      exact .cons ⟨h₁, h.1⟩ (ih h₂)

/-- A state some run from a state of `init` ends in. -/
def Reachable (step : σ → ℓ → σ → Prop) (init : σ → Prop) (s : σ) : Prop :=
  ∃ s₀ ls, init s₀ ∧ Run step s₀ ls s

theorem Reachable.invariant {step : σ → ℓ → σ → Prop} {init : σ → Prop} {I : σ → Prop}
    (h₀ : ∀ s, init s → I s) (hI : ∀ s l s', I s → step s l s' → I s') {s : σ}
    (h : Reachable step init s) : I s := by
  obtain ⟨s₀, ls, hs₀, hr⟩ := h
  exact hr.invariant hI (h₀ s₀ hs₀)

theorem Reachable.step {step : σ → ℓ → σ → Prop} {init : σ → Prop} {s s' : σ} {l : ℓ}
    (h : Reachable step init s) (hs : step s l s') : Reachable step init s' := by
  obtain ⟨s₀, ls, hs₀, hr⟩ := h
  exact ⟨s₀, ls ++ [l], hs₀, hr.snoc hs⟩

theorem Reachable.mono {step step' : σ → ℓ → σ → Prop} {init : σ → Prop} {s : σ}
    (hm : ∀ s l s', step s l s' → step' s l s') (h : Reachable step init s) :
    Reachable step' init s := by
  obtain ⟨s₀, ls, hs₀, hr⟩ := h
  exact ⟨s₀, ls, hs₀, hr.mono hm⟩

end SnakeArena.Library
