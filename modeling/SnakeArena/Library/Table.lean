import Mathlib.Algebra.BigOperators.Finprod

/-!
# Library — finite tables and their totals

A `Table κ α` is a partial map with finitely many keys, and the finiteness is part of the
value.  `Table.total f t` adds `f k v` over the entries of `t`.

One lemma carries every total through an update (`Table.total_change`): when two tables agree
off one key, their totals differ by what that key contributes.
-/

namespace SnakeArena.Library

/-- A partial map from `κ` to `α` with finitely many keys. -/
@[ext]
structure Table (κ α : Type*) where
  get : κ → Option α
  finite : {k | get k ≠ none}.Finite

namespace Table

variable {κ α : Type*}

/-- The table with no entry. -/
def empty : Table κ α := ⟨fun _ => none, by simp⟩

@[simp] theorem get_empty (k : κ) : (empty : Table κ α).get k = none := rfl

/-- Every entry rewritten in place. -/
def map (t : Table κ α) (f : κ → α → α) : Table κ α where
  get k := (t.get k).map (f k)
  finite := t.finite.subset fun k h e => h (by simp [e])

@[simp] theorem get_map (t : Table κ α) (f : κ → α → α) (k : κ) :
    (t.map f).get k = (t.get k).map (f k) := rfl

/-- The entries that `keep` holds of. -/
def filter (t : Table κ α) (keep : κ → α → Bool) : Table κ α where
  get k := (t.get k).filter (keep k)
  finite := t.finite.subset fun k h e => h (by simp [e])

section Update
variable [DecidableEq κ]

/-- `t` with `v` at `k`. -/
def upd (t : Table κ α) (k : κ) (v : α) : Table κ α where
  get k' := if k' = k then some v else t.get k'
  finite := (t.finite.insert k).subset fun k' h => by
    by_cases e : k' = k
    · exact .inl e
    · exact .inr (by simpa [e] using h)

/-- `t` with nothing at `k`. -/
def del (t : Table κ α) (k : κ) : Table κ α where
  get k' := if k' = k then none else t.get k'
  finite := t.finite.subset fun k' h e => h (by simp [e])

/-- What a key gets after a write. -/
theorem get_upd (t : Table κ α) (k k' : κ) (v : α) :
    (t.upd k v).get k' = if k' = k then some v else t.get k' := rfl

/-- What a key gets after a deletion. -/
theorem get_del (t : Table κ α) (k k' : κ) :
    (t.del k).get k' = if k' = k then none else t.get k' := rfl

@[simp] theorem get_upd_same (t : Table κ α) (k : κ) (v : α) : (t.upd k v).get k = some v := by
  simp [get_upd]

@[simp] theorem get_upd_other {t : Table κ α} {k k' : κ} {v : α} (h : k' ≠ k) :
    (t.upd k v).get k' = t.get k' := by simp [get_upd, h]

theorem upd_ne_none {t : Table κ α} {k k' : κ} {v : α} (h : t.get k' ≠ none) :
    (t.upd k v).get k' ≠ none := by
  rw [get_upd]
  split
  · exact nofun
  · exact h

@[simp] theorem get_del_same (t : Table κ α) (k : κ) : (t.del k).get k = none := by
  simp [get_del]

@[simp] theorem get_del_other {t : Table κ α} {k k' : κ} (h : k' ≠ k) :
    (t.del k).get k' = t.get k' := by simp [get_del, h]

/-- What is left when an entry is deleted. -/
theorem get_of_del {t : Table κ α} {k k' : κ} {v : α} (h : (t.del k).get k' = some v) :
    k' ≠ k ∧ t.get k' = some v := by
  by_cases e : k' = k
  · subst e
    rw [get_del_same] at h
    cases h
  · exact ⟨e, by rwa [get_del_other e] at h⟩

end Update

/-! ### Entries -/

/-- `P` holds of every entry. -/
def All (P : κ → α → Prop) (t : Table κ α) : Prop := ∀ k v, t.get k = some v → P k v

theorem All.empty {P : κ → α → Prop} : (Table.empty : Table κ α).All P :=
  fun _ _ h => by cases h

theorem All.mono {P Q : κ → α → Prop} {t : Table κ α} (h : t.All P)
    (hPQ : ∀ k v, P k v → Q k v) : t.All Q := fun k v hk => hPQ k v (h k v hk)

/-- An entry written, when what held of the others becomes something else. -/
theorem All.upd_frame [DecidableEq κ] {P Q : κ → α → Prop} {t : Table κ α} (h : t.All P) {k : κ}
    {v : α} (hPQ : ∀ k' ≠ k, ∀ v', P k' v' → Q k' v') (hv : Q k v) : (t.upd k v).All Q := by
  intro k' v' hk
  by_cases e : k' = k
  · subst e
    rw [get_upd_same] at hk
    exact Option.some.inj hk ▸ hv
  · rw [get_upd_other e] at hk
    exact hPQ k' e v' (h k' v' hk)

/-- A write of a value that has the property. -/
theorem All.upd [DecidableEq κ] {P : κ → α → Prop} {t : Table κ α} (h : t.All P) {k : κ} {v : α}
    (hv : P k v) : (t.upd k v).All P := h.upd_frame (fun _ _ _ => id) hv

/-- An entry rewritten keeps what it had. -/
theorem All.modify [DecidableEq κ] {P : κ → α → Prop} {t : Table κ α} (h : t.All P) {k : κ}
    {v v' : α} (hk : t.get k = some v) (hv : P k v → P k v') : (t.upd k v').All P :=
  h.upd (hv (h k v hk))

/-- The rest may use that the key is gone. -/
theorem All.del_frame [DecidableEq κ] {P Q : κ → α → Prop} {t : Table κ α} (h : t.All P) {k : κ}
    (hPQ : ∀ k' ≠ k, ∀ v', P k' v' → Q k' v') : (t.del k).All Q := by
  intro k' v' hk
  by_cases e : k' = k
  · subst e
    rw [get_del_same] at hk
    cases hk
  · rw [get_del_other e] at hk
    exact hPQ k' e v' (h k' v' hk)

theorem All.del [DecidableEq κ] {P : κ → α → Prop} {t : Table κ α} (h : t.All P) {k : κ} :
    (t.del k).All P := h.del_frame fun _ _ _ => id

/-! ### Totals -/

/-- What `k` contributes to `total f t`. -/
def part (f : κ → α → ℕ) (t : Table κ α) (k : κ) : ℕ := (t.get k).elim 0 (f k)

/-- The sum of `f k v` over the entries of `t`. -/
noncomputable def total (f : κ → α → ℕ) (t : Table κ α) : ℕ := ∑ᶠ k, t.part f k

theorem part_of_get {f : κ → α → ℕ} {t : Table κ α} {k : κ} {v : α} (h : t.get k = some v) :
    t.part f k = f k v := by simp [part, h]

theorem part_of_none {f : κ → α → ℕ} {t : Table κ α} {k : κ} (h : t.get k = none) :
    t.part f k = 0 := by simp [part, h]

/-- A table adds up where it has entries. -/
theorem support_part_subset (f : κ → α → ℕ) (t : Table κ α) :
    (Function.support fun k => t.part f k) ⊆ {k | t.get k ≠ none} := fun _ hk hn =>
  hk (part_of_none hn)

/-- A total is a sum over any finite set that contains the keys. -/
theorem total_eq_sum {f : κ → α → ℕ} {t : Table κ α} {S : Finset κ}
    (hS : {k | t.get k ≠ none} ⊆ S) : t.total f = ∑ k ∈ S, t.part f k :=
  finsum_eq_sum_of_support_subset _ ((support_part_subset f t).trans hS)

@[simp] theorem total_empty (f : κ → α → ℕ) : (empty : Table κ α).total f = 0 := by
  simp [total, part]

/-- **One key changed.**  Two tables that agree off `k` have totals that differ by what `k`
contributes to each. -/
theorem total_change [DecidableEq κ] (f : κ → α → ℕ) {t t' : Table κ α} (k : κ)
    (h : ∀ k' ≠ k, t'.get k' = t.get k') :
    t'.total f + t.part f k = t.total f + t'.part f k := by
  let S : Finset κ := insert k (t.finite.toFinset ∪ t'.finite.toFinset)
  have hk : k ∈ S := Finset.mem_insert_self _ _
  have hS : {k | t.get k ≠ none} ⊆ S := fun x hx => by simp [S, show t.get x ≠ none from hx]
  have hS' : {k | t'.get k ≠ none} ⊆ S := fun x hx => by simp [S, show t'.get x ≠ none from hx]
  have rest : ∑ x ∈ S.erase k, t'.part f x = ∑ x ∈ S.erase k, t.part f x :=
    Finset.sum_congr rfl fun x hx => by simp [part, h x (Finset.ne_of_mem_erase hx)]
  rw [total_eq_sum hS, total_eq_sum hS', ← Finset.add_sum_erase S _ hk,
    ← Finset.add_sum_erase S (fun x => t.part f x) hk, rest]
  omega

/-- A write moves the total by the difference. -/
theorem total_upd [DecidableEq κ] (f : κ → α → ℕ) (t : Table κ α) (k : κ) (v : α) :
    (t.upd k v).total f + t.part f k = t.total f + f k v := by
  rw [total_change f k fun _ hk => get_upd_other hk, part_of_get (get_upd_same t k v)]

/-- A deletion takes its part. -/
theorem total_del [DecidableEq κ] (f : κ → α → ℕ) (t : Table κ α) (k : κ) :
    (t.del k).total f + t.part f k = t.total f := by
  rw [total_change f k fun _ hk => get_del_other hk, part_of_none (get_del_same t k), add_zero]

/-- An entry rewritten. -/
theorem total_modify [DecidableEq κ] (f : κ → α → ℕ) {t : Table κ α} {k : κ} {v : α} (v' : α)
    (h : t.get k = some v) : (t.upd k v').total f + f k v = t.total f + f k v' := by
  rw [← part_of_get (f := f) h]
  exact total_upd f t k v'

/-- An entry added. -/
theorem total_insert [DecidableEq κ] (f : κ → α → ℕ) {t : Table κ α} {k : κ} (v : α)
    (h : t.get k = none) : (t.upd k v).total f = t.total f + f k v := by
  have e := total_upd f t k v
  rwa [part_of_none h, add_zero] at e

/-- An entry removed. -/
theorem total_remove [DecidableEq κ] (f : κ → α → ℕ) {t : Table κ α} {k : κ} {v : α}
    (h : t.get k = some v) : (t.del k).total f + f k v = t.total f := by
  rw [← part_of_get (f := f) h]
  exact total_del f t k

/-- A part is no more than the total. -/
theorem part_le_total (f : κ → α → ℕ) (t : Table κ α) (k : κ) : t.part f k ≤ t.total f := by
  classical
  have h := total_del f t k
  omega

/-- Two keys contribute no more than the total. -/
theorem parts_le_total (f : κ → α → ℕ) (t : Table κ α) {k k' : κ} (hne : k' ≠ k) :
    t.part f k + t.part f k' ≤ t.total f := by
  classical
  have h := total_del f t k
  have h' := part_le_total f (t.del k) k'
  have e : (t.del k).part f k' = t.part f k' := by simp [part, hne]
  omega

theorem total_congr {f g : κ → α → ℕ} {t : Table κ α}
    (h : ∀ k v, t.get k = some v → f k v = g k v) : t.total f = t.total g :=
  finsum_congr fun k => by
    cases e : t.get k with
    | none => rw [part_of_none e, part_of_none e]
    | some v => rw [part_of_get e, part_of_get e, h k v e]

/-- A total of one key's part, when no other contributes. -/
theorem total_eq_part {f : κ → α → ℕ} {t : Table κ α} (k : κ)
    (h : ∀ k' v, t.get k' = some v → k' ≠ k → f k' v = 0) : t.total f = t.part f k :=
  finsum_eq_single _ k fun k' hk => by
    cases e : t.get k' with
    | none => exact part_of_none e
    | some v => rw [part_of_get e, h k' v e hk]

/-- A total vanishes when every entry contributes nothing. -/
theorem total_eq_zero {f : κ → α → ℕ} {t : Table κ α}
    (h : ∀ k v, t.get k = some v → f k v = 0) : t.total f = 0 :=
  finsum_eq_zero_of_forall_eq_zero fun k => by
    cases e : t.get k with
    | none => exact part_of_none e
    | some v => rw [part_of_get e, h k v e]

end Table

end SnakeArena.Library
