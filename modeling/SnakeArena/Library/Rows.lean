import Mathlib

/-!
# Library — rows with a key

A table of a database as the list of its rows, no two of one key, and what becomes of a sum over
the rows when one of them is written, or some are deleted.
-/

namespace SnakeArena.Library

variable {α κ : Type*}

/-- No two rows of one key. -/
def UniqueKeys (key : α → κ) (rows : List α) : Prop := (rows.map key).Nodup

section Keys
variable {key : α → κ} {rows : List α} {x : α}

theorem UniqueKeys.append (h : UniqueKeys key rows) (hx : ∀ y ∈ rows, key y ≠ key x) :
    UniqueKeys key (rows ++ [x]) := by
  rw [UniqueKeys, List.map_append, List.nodup_append]
  refine ⟨h, List.nodup_singleton _, fun a ha b hb => ?_⟩
  obtain ⟨y, hy, rfl⟩ := List.mem_map.mp ha
  obtain rfl : b = key x := by simpa using hb
  exact hx y hy

theorem UniqueKeys.filter (h : UniqueKeys key rows) (p : α → Bool) :
    UniqueKeys key (rows.filter p) :=
  List.Nodup.sublist (List.filter_sublist.map key) h

theorem UniqueKeys.map (h : UniqueKeys key rows) {g : α → α} (hg : ∀ y, key (g y) = key y) :
    UniqueKeys key (rows.map g) := by
  rw [UniqueKeys, List.map_map, show key ∘ g = key from funext hg]
  exact h

/-- Rows of other keys are not the row. -/
theorem UniqueKeys.tail (h : UniqueKeys key (x :: rows)) : ∀ y ∈ rows, key y ≠ key x :=
  fun _ hy e => (List.nodup_cons.mp h).1 (e ▸ List.mem_map_of_mem hy)

/-- The row of a key is found by it. -/
theorem UniqueKeys.find [DecidableEq κ] (h : UniqueKeys key rows) (hx : x ∈ rows) :
    rows.find? (key · = key x) = some x := by
  induction rows with
  | nil => cases hx
  | cons y rows ih =>
      rcases List.mem_cons.mp hx with rfl | hmem
      · exact List.find?_cons_of_pos (by simp)
      · have hne : key y ≠ key x := (h.tail x hmem).symm
        rw [List.find?_cons_of_neg (by simpa using hne)]
        exact ih (List.nodup_cons.mp h).2 hmem

/-- Rows made from different things that their keys tell apart. -/
theorem UniqueKeys.filterMap {β : Type*} {xs : List β} (h : xs.Nodup)
    {f : β → Option α} {g : κ → β} (hf : ∀ x y, f x = some y → x = g (key y)) :
    UniqueKeys key (xs.filterMap f) := by
  rw [UniqueKeys, List.map_filterMap]
  refine h.filterMap fun x x' k hk hk' => ?_
  obtain ⟨y, hy, rfl⟩ := Option.map_eq_some_iff.mp hk
  obtain ⟨y', hy', e⟩ := Option.map_eq_some_iff.mp hk'
  rw [hf x y hy, hf x' y' hy', e]

theorem nodup_eraseDups [BEq α] [LawfulBEq α] : ∀ xs : List α, xs.eraseDups.Nodup
  | [] => List.nodup_nil
  | x :: xs => by
      have : (xs.filter fun y => !y == x).length < xs.length + 1 :=
        Nat.lt_succ_of_le (List.length_filter_le _ _)
      rw [List.eraseDups_cons, List.nodup_cons]
      refine ⟨fun h => ?_, nodup_eraseDups _⟩
      rw [List.mem_eraseDups, List.mem_filter] at h
      simpa using h.2
termination_by xs => xs.length

end Keys

/-! ### Sums over rows -/

section Sums
variable [DecidableEq κ]

theorem sum_filter_not (f : α → ℤ) (p : α → Bool) (rows : List α) :
    ((rows.filter p).map f).sum + ((rows.filter fun x => !p x).map f).sum = (rows.map f).sum := by
  induction rows with
  | nil => rfl
  | cons x rows ih =>
      rw [List.filter_cons, List.filter_cons, List.map_cons, List.sum_cons, ← ih]
      cases p x with
      | true => simp [add_assoc]
      | false => simp [add_left_comm]

/-- The rows of some keys, key by key. -/
theorem sum_by_keys (key : α → κ) (f : α → ℤ) (rows : List α) {ks : List κ} (hks : ks.Nodup) :
    (ks.map fun k => ((rows.filter fun x => key x = k).map f).sum).sum =
      ((rows.filter fun x => key x ∈ ks).map f).sum := by
  induction ks with
  | nil => simp
  | cons k ks ih =>
      obtain ⟨hk, hks⟩ := List.nodup_cons.mp hks
      rw [List.map_cons, List.sum_cons, ih hks,
        ← sum_filter_not f (fun x => key x = k) (rows.filter fun x => key x ∈ k :: ks),
        List.filter_filter, List.filter_filter]
      congr 3
      · exact List.filter_congr fun x _ => by by_cases e : key x = k <;> simp [e]
      · refine List.filter_congr fun x _ => ?_
        by_cases e : key x = k
        · simp [e, hk]
        · simp [e]

/-- As many rows of some keys, key by key. -/
theorem count_by_keys (key : α → κ) (rows : List α) {ks : List κ} (hks : ks.Nodup) :
    (ks.map fun k => rows.countP fun x => key x = k).sum = rows.countP fun x => key x ∈ ks := by
  induction ks with
  | nil => simp
  | cons k ks ih =>
      obtain ⟨hk, hks⟩ := List.nodup_cons.mp hks
      rw [List.map_cons, List.sum_cons, ih hks]
      clear ih
      induction rows with
      | nil => rfl
      | cons x rows ih =>
          simp only [List.countP_cons, decide_eq_true_eq, List.mem_cons] at ih ⊢
          by_cases e : key x = k
          · have hx : key x ∉ ks := e ▸ hk
            rw [if_pos e, if_neg hx, if_pos (Or.inl e)]
            omega
          · simp only [e, false_or, if_false]
            omega

theorem sum_all_keys (key : α → κ) (f : α → ℤ) (rows : List α) :
    ((rows.map key).dedup.map fun k => ((rows.filter fun x => key x = k).map f).sum).sum =
      (rows.map f).sum := by
  have hall : (rows.filter fun x => key x ∈ (rows.map key).dedup) = rows :=
    List.filter_eq_self.mpr fun x hx => by simpa using ⟨x, hx, rfl⟩
  rw [sum_by_keys key f rows (List.nodup_dedup _), hall]

/-- Rows whose keys each sum to zero sum to zero. -/
theorem sum_eq_zero_of_keys (key : α → κ) {f : α → ℤ} {rows : List α}
    (h : ∀ k, ((rows.filter fun x => key x = k).map f).sum = 0) : (rows.map f).sum = 0 := by
  rw [← sum_all_keys key]
  exact List.sum_eq_zero (by simpa using fun a _ => h (key a))

/-- What the rows of each key that there is sum to. -/
def groupBy (key : α → κ) (f : α → ℤ) (rows : List α) : List (κ × ℤ) :=
  (rows.map key).dedup.map fun k => (k, ((rows.filter fun x => key x = k).map f).sum)

theorem sum_groupBy (key : α → κ) (f : α → ℤ) (rows : List α) :
    ((groupBy key f rows).map Prod.snd).sum = (rows.map f).sum := by
  rw [groupBy, List.map_map]
  exact sum_all_keys key f rows

/-- The row of a key deleted. -/
theorem sum_delete {key : α → κ} (f : α → ℤ) {x : α} {rows : List α} (h : UniqueKeys key rows)
    (hx : x ∈ rows) :
    ((rows.filter fun y => key y ≠ key x).map f).sum + f x = (rows.map f).sum := by
  induction rows with
  | nil => cases hx
  | cons y rows ih =>
      obtain rfl | hx := List.mem_cons.mp hx
      · rw [List.filter_cons_of_neg (by simp), List.filter_eq_self.mpr, List.map_cons,
          List.sum_cons,
          add_comm]
        exact fun z hz => by simpa using h.tail z hz
      · have hne : key y ≠ key x := fun e => h.tail x hx e.symm
        rw [List.filter_cons_of_pos (by simpa using hne), List.map_cons, List.sum_cons,
          List.map_cons,
          List.sum_cons, add_assoc, ih (List.nodup_cons.mp h).2 hx]

/-- Only the row of a key counts. -/
theorem sum_of_key {key : α → κ} (f : α → ℤ) {x : α} {rows : List α} (h : UniqueKeys key rows)
    (hx : x ∈ rows) : (rows.map fun y => if key y = key x then f y else 0).sum = f x := by
  rw [← sum_delete _ h hx, if_pos rfl, add_eq_right]
  refine List.sum_eq_zero fun n hn => ?_
  obtain ⟨y, hy, rfl⟩ := List.mem_map.mp hn
  exact if_neg (of_decide_eq_true (List.mem_filter.mp hy).2)

/-- The row of a key written. -/
theorem sum_modify {key : α → κ} (f : α → ℤ) (g : α → α) {x : α} {rows : List α}
    (h : UniqueKeys key rows) (hx : x ∈ rows) :
    ((rows.map fun y => if key y = key x then g y else y).map f).sum + f x =
      (rows.map f).sum + f (g x) := by
  induction rows with
  | nil => cases hx
  | cons y rows ih =>
      simp only [List.map_cons, List.sum_cons]
      obtain rfl | hx := List.mem_cons.mp hx
      · have hrest : (rows.map fun y' => if key y' = key x then g y' else y') = rows :=
          (List.map_congr_left fun z hz => if_neg (h.tail z hz)).trans (List.map_id _)
        rw [if_pos rfl, hrest]
        omega
      · have hne : key y ≠ key x := fun e => h.tail x hx e.symm
        rw [if_neg hne, add_assoc, ih (List.nodup_cons.mp h).2 hx, add_assoc]

omit [DecidableEq κ] in
/-- What the row of a key adds up to, changed. -/
theorem sum_change {key : α → κ} (f f' : α → ℤ) {x : α} {rows : List α} (h : UniqueKeys key rows)
    (hx : x ∈ rows) (hothers : ∀ y ∈ rows, key y ≠ key x → f' y = f y) :
    (rows.map f').sum + f x = (rows.map f).sum + f' x := by
  induction rows with
  | nil => cases hx
  | cons y rows ih =>
      simp only [List.map_cons, List.sum_cons]
      obtain rfl | hx := List.mem_cons.mp hx
      · have hrest : rows.map f' = rows.map f :=
          List.map_congr_left fun z hz => hothers z (List.mem_cons_of_mem _ hz) (h.tail z hz)
        rw [hrest]
        omega
      · have hne : key y ≠ key x := fun e => h.tail x hx e.symm
        rw [hothers y List.mem_cons_self hne, add_assoc, ih (List.nodup_cons.mp h).2 hx
          fun z hz => hothers z (List.mem_cons_of_mem _ hz), add_assoc]

end Sums

end SnakeArena.Library
