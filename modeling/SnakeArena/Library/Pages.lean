import SnakeArena.Library.Rows

/-!
# Library — pages of an order

Rows in a strict order, numbered, and served by pages of one size.

* `countP_before`: the number of a row is how many rows are before it.
* `flatMap_pages`: the pages one after the other are the rows, as far as pages are served.
-/

namespace SnakeArena.Library

variable {α κ : Type*}

theorem countP_before {before : α → α → Prop} [DecidableRel before] [Std.Asymm before]
    {rows : List α} (h : rows.Pairwise before) {i : ℕ} {x : α} (hx : rows[i]? = some x) :
    rows.countP (before · x) = i := by
  induction rows generalizing i with
  | nil => simp at hx
  | cons y rows ih =>
      obtain ⟨hy, hrows⟩ := List.pairwise_cons.mp h
      cases i with
      | zero =>
          obtain rfl : y = x := by simpa using hx
          have hafter : ∀ z ∈ y :: rows, ¬before z y := by
            intro z hz hzy
            rcases List.mem_cons.mp hz with rfl | hz
            · exact Std.Asymm.asymm _ _ hzy hzy
            · exact Std.Asymm.asymm _ _ hzy (hy z hz)
          rw [List.countP_eq_zero]
          simpa using hafter
      | succ i =>
          rw [List.getElem?_cons_succ] at hx
          rw [List.countP_cons_of_pos (by simpa using hy x (List.mem_of_getElem? hx)), ih hrows hx]

/-- Pages of a size, of which those up to the last one are served. -/
theorem flatMap_pages (rows : List α) (size last n : ℕ) :
    ((List.range n).flatMap fun k =>
      if k ≤ last then (rows.drop (k * size)).take size else []) =
        rows.take (min n (last + 1) * size) := by
  induction n with
  | zero => simp
  | succ n ih =>
      rw [List.range_succ, List.flatMap_append, List.flatMap_singleton, ih]
      split_ifs with hn
      · rw [min_eq_left (by omega), min_eq_left (by omega), Nat.succ_mul, List.take_add]
      · rw [min_eq_right (by omega), min_eq_right (by omega), List.append_nil]

end SnakeArena.Library
