import Mathlib

/-!
# Library — balance sheets and transfers

A book gives every account a balance; a move takes an amount from one account to another,
possibly the same one.  `Moved b ms b'` says that the moves `ms`, each covered by its source
when it is made, lead from `b` to `b'`.

The two facts used of a list of moves are that each account's balance changes by what the
list brings in and takes out (`Moved.balance`), whatever accounts coincide, and that no set of
accounts can come to hold more than the whole supply (`Moved.bounded`).
-/

namespace SnakeArena.Library

/-- `amount` from `source` to `dest`. -/
structure Move (α : Type*) where
  source : α
  dest : α
  amount : ℕ
deriving DecidableEq, Repr

variable {α : Type*} [DecidableEq α]

/-- The book after `m`. -/
def Move.apply (m : Move α) (b : α → ℕ) : α → ℕ :=
  let b₁ := Function.update b m.source (b m.source - m.amount)
  Function.update b₁ m.dest (b₁ m.dest + m.amount)

/-- `ms`, made one after the other, each covered by its source, take `b` to `b'`. -/
inductive Moved : (α → ℕ) → List (Move α) → (α → ℕ) → Prop where
  | nil (b : α → ℕ) : Moved b [] b
  | snoc {b b₁ : α → ℕ} {ms : List (Move α)} (h : Moved b ms b₁) (m : Move α)
      (hm : m.amount ≤ b₁ m.source) : Moved b (ms ++ [m]) (m.apply b₁)

/-- What `ms` brings to `a`. -/
def inflow (a : α) (ms : List (Move α)) : ℕ :=
  (ms.map fun m => if m.dest = a then m.amount else 0).sum

/-- What `ms` takes from `a`. -/
def outflow (a : α) (ms : List (Move α)) : ℕ :=
  (ms.map fun m => if m.source = a then m.amount else 0).sum

@[simp] theorem inflow_nil (a : α) : inflow a [] = 0 := rfl

@[simp] theorem outflow_nil (a : α) : outflow a [] = 0 := rfl

@[simp] theorem inflow_cons (a : α) (m : Move α) (ms : List (Move α)) :
    inflow a (m :: ms) = (if m.dest = a then m.amount else 0) + inflow a ms := by simp [inflow]

@[simp] theorem outflow_cons (a : α) (m : Move α) (ms : List (Move α)) :
    outflow a (m :: ms) = (if m.source = a then m.amount else 0) + outflow a ms := by
  simp [outflow]

@[simp] theorem inflow_append (a : α) (ms ms' : List (Move α)) :
    inflow a (ms ++ ms') = inflow a ms + inflow a ms' := by simp [inflow]

@[simp] theorem outflow_append (a : α) (ms ms' : List (Move α)) :
    outflow a (ms ++ ms') = outflow a ms + outflow a ms' := by simp [outflow]

theorem inflow_eq_zero {a : α} {ms : List (Move α)} (h : ∀ m ∈ ms, m.dest ≠ a) :
    inflow a ms = 0 := by
  induction ms with
  | nil => rfl
  | cons m ms ih =>
      rw [inflow_cons, if_neg (h m (by simp)), ih fun m' hm' => h m' (by simp [hm'])]

theorem outflow_eq_zero {a : α} {ms : List (Move α)} (h : ∀ m ∈ ms, m.source ≠ a) :
    outflow a ms = 0 := by
  induction ms with
  | nil => rfl
  | cons m ms ih =>
      rw [outflow_cons, if_neg (h m (by simp)), ih fun m' hm' => h m' (by simp [hm'])]

theorem Moved.append {b b₁ b' : α → ℕ} {ms ms' : List (Move α)} (h : Moved b ms b₁)
    (h' : Moved b₁ ms' b') : Moved b (ms ++ ms') b' := by
  induction h' with
  | nil => simpa using h
  | snoc _ m hm ih => rw [← List.append_assoc]; exact .snoc ih m hm

/-- One move, at one account. -/
theorem Move.apply_balance (m : Move α) {b : α → ℕ} (hm : m.amount ≤ b m.source) (a : α) :
    m.apply b a + (if m.source = a then m.amount else 0)
      = b a + (if m.dest = a then m.amount else 0) := by
  simp only [Move.apply, Function.update_apply]
  by_cases hs : m.source = a <;> by_cases hd : m.dest = a
  · subst hs; simp only [hd, ↓reduceIte]; omega
  · subst hs; simp only [hd, Ne.symm hd, ↓reduceIte]; omega
  · subst hd; simp [hs, Ne.symm hs]
  · simp [hs, hd, Ne.symm hs, Ne.symm hd]

/-- **The balance equation.** -/
theorem Moved.balance {b b' : α → ℕ} {ms : List (Move α)} (h : Moved b ms b') (a : α) :
    b' a + outflow a ms = b a + inflow a ms := by
  induction h with
  | nil => rfl
  | snoc _ m hm ih =>
      have := m.apply_balance hm a
      simp only [outflow_append, inflow_append, outflow_cons, inflow_cons, outflow_nil,
        inflow_nil, add_zero]
      omega

/-- A balance no move touches stays. -/
theorem Moved.same {b b' : α → ℕ} {ms : List (Move α)} (h : Moved b ms b') {a : α}
    (hs : ∀ m ∈ ms, m.source ≠ a) (hd : ∀ m ∈ ms, m.dest ≠ a) : b' a = b a := by
  have e := h.balance a
  rwa [outflow_eq_zero hs, inflow_eq_zero hd] at e

/-- A balance no move takes from does not fall. -/
theorem Moved.le {b b' : α → ℕ} {ms : List (Move α)} (h : Moved b ms b') {a : α}
    (hs : ∀ m ∈ ms, m.source ≠ a) : b a ≤ b' a := by
  have e := h.balance a
  rw [outflow_eq_zero hs] at e
  omega

/-! ### The supply -/

/-- Every finite set of accounts holds less than `N` together. -/
def Bounded (N : ℕ) (b : α → ℕ) : Prop := ∀ S : Finset α, ∑ a ∈ S, b a < N

omit [DecidableEq α] in
theorem Bounded.get {N : ℕ} {b : α → ℕ} (h : Bounded N b) (a : α) : b a < N := by
  simpa using h {a}

theorem Bounded.pair {N : ℕ} {b : α → ℕ} (h : Bounded N b) {a a' : α} (ne : a ≠ a') :
    b a + b a' < N := by
  simpa [Finset.sum_pair ne] using h {a, a'}

/-- A covered move inside `S` leaves what `S` holds. -/
theorem Move.sum_apply (m : Move α) {b : α → ℕ} (hm : m.amount ≤ b m.source) {S : Finset α}
    (hs : m.source ∈ S) (hd : m.dest ∈ S) : ∑ a ∈ S, m.apply b a = ∑ a ∈ S, b a := by
  have e : ∑ a ∈ S, (m.apply b a + if m.source = a then m.amount else 0)
      = ∑ a ∈ S, (b a + if m.dest = a then m.amount else 0) :=
    Finset.sum_congr rfl fun a _ => m.apply_balance hm a
  simpa [Finset.sum_add_distrib, hs, hd] using e

/-- Moves inside `S` leave what `S` holds. -/
theorem Moved.sum_eq {b b' : α → ℕ} {ms : List (Move α)} (h : Moved b ms b') {S : Finset α}
    (hS : ∀ m ∈ ms, m.source ∈ S ∧ m.dest ∈ S) : ∑ a ∈ S, b' a = ∑ a ∈ S, b a := by
  induction h with
  | nil => rfl
  | snoc _ m hm ih =>
      obtain ⟨hs, hd⟩ := hS m (by simp)
      rw [m.sum_apply hm hs hd]
      exact ih fun m' hm' => hS m' (by simp [hm'])

/-- Whatever accounts the moves went through, a set outside which nothing changed in the end
holds what it held. -/
theorem Moved.total {b b' : α → ℕ} {ms : List (Move α)} (h : Moved b ms b') {S : Finset α}
    (hS : ∀ a ∉ S, b' a = b a) : ∑ a ∈ S, b' a = ∑ a ∈ S, b a := by
  let touched : Finset α := (ms.map Move.source ++ ms.map Move.dest).toFinset
  have whole : ∑ a ∈ touched ∪ S, b' a = ∑ a ∈ touched ∪ S, b a := by
    refine h.sum_eq fun m hm => ?_
    have hs : m.source ∈ ms.map Move.source := List.mem_map_of_mem hm
    have hd : m.dest ∈ ms.map Move.dest := List.mem_map_of_mem hm
    simp only [touched, Finset.mem_union, List.mem_toFinset, List.mem_append]
    exact ⟨.inl (.inl hs), .inl (.inr hd)⟩
  have rest : ∑ a ∈ touched \ S, b' a = ∑ a ∈ touched \ S, b a :=
    Finset.sum_congr rfl fun a ha => hS a (Finset.mem_sdiff.mp ha).2
  have split (f : α → ℕ) : ∑ a ∈ touched ∪ S, f a = ∑ a ∈ touched \ S, f a + ∑ a ∈ S, f a := by
    rw [← Finset.sdiff_union_self_eq_union, Finset.sum_union Finset.sdiff_disjoint]
  rw [split, split, rest] at whole
  exact Nat.add_left_cancel whole

theorem Moved.bounded {N : ℕ} {b b' : α → ℕ} {ms : List (Move α)} (h : Moved b ms b')
    (hb : Bounded N b) : Bounded N b' := by
  induction h with
  | nil => exact hb
  | snoc _ m hm ih =>
      intro S
      let S' := insert m.source (insert m.dest S)
      calc ∑ a ∈ S, m.apply _ a ≤ ∑ a ∈ S', m.apply _ a :=
            Finset.sum_le_sum_of_subset fun a ha => by simp [S', ha]
        _ = ∑ a ∈ S', _ := m.sum_apply hm (by simp [S']) (by simp [S'])
        _ < N := ih S'

end SnakeArena.Library
