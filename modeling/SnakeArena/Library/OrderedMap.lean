import Mathlib.Algebra.BigOperators.Group.List.Basic
import Mathlib.Data.List.Nodup
import Mathlib.Data.Option.Basic
import Mathlib.Tactic.Abel
import Mathlib.Tactic.Common

/-!
# Library — maps in the order of insertion

An `OrderedMap κ α` lists its entries in the order in which their keys were first set, no key
twice.  A key that is set again keeps its place.

`get` says what every operation does (`get_set`, `get_delete`, `get_mapValues`, `get_filter`), and
`All P` that `P` holds of every entry.
-/

namespace SnakeArena.Library

structure OrderedMap (κ α : Type*) where
  entries : List (κ × α)
  nodup : (entries.map Prod.fst).Nodup

namespace OrderedMap
variable {κ α : Type*}

def empty : OrderedMap κ α := ⟨[], .nil⟩

def keys (m : OrderedMap κ α) : List κ := m.entries.map Prod.fst

def values (m : OrderedMap κ α) : List α := m.entries.map Prod.snd

def size (m : OrderedMap κ α) : ℕ := m.entries.length

/-- Every value rewritten in place. -/
def mapValues (m : OrderedMap κ α) (f : κ → α → α) : OrderedMap κ α where
  entries := m.entries.map fun e => (e.1, f e.1 e.2)
  nodup := by
    rw [List.map_map]
    exact m.nodup

def filter (m : OrderedMap κ α) (p : κ → α → Bool) : OrderedMap κ α where
  entries := m.entries.filter fun e => p e.1 e.2
  nodup := m.nodup.sublist (List.filter_sublist.map _)

@[simp] theorem keys_mapValues (m : OrderedMap κ α) (f : κ → α → α) :
    (m.mapValues f).keys = m.keys := by
  simp only [keys, mapValues, List.map_map]
  rfl

theorem mapValues_mapValues (m : OrderedMap κ α) (f g : κ → α → α) :
    (m.mapValues f).mapValues g = m.mapValues fun k v => g k (f k v) := by
  unfold mapValues
  rw [mk.injEq, List.map_map]
  rfl

theorem filter_comm (m : OrderedMap κ α) (p q : κ → α → Bool) :
    (m.filter p).filter q = (m.filter q).filter p := by
  unfold filter
  rw [mk.injEq, List.filter_filter, List.filter_filter]
  simp only [Bool.and_comm]

section Update
variable [DecidableEq κ]

def get (m : OrderedMap κ α) (k : κ) : Option α := (m.entries.find? (·.1 = k)).map Prod.snd

def set (m : OrderedMap κ α) (k : κ) (v : α) : OrderedMap κ α :=
  if h : k ∈ m.keys then m.mapValues fun k' v' => if k' = k then v else v'
  else
    { entries := m.entries ++ [(k, v)]
      nodup := by
        rw [List.map_append, List.nodup_append]
        refine ⟨m.nodup, List.nodup_singleton _, fun a ha b hb => ?_⟩
        obtain rfl : b = k := by simpa using hb
        rintro rfl
        exact h ha }

def delete (m : OrderedMap κ α) (k : κ) : OrderedMap κ α := m.filter fun k' _ => k' ≠ k

/-- The value of a key rewritten, if there is one. -/
def update (m : OrderedMap κ α) (k : κ) (f : α → α) : OrderedMap κ α :=
  m.mapValues fun k' v => if k' = k then f v else v

/-! ### What is found -/

variable {m : OrderedMap κ α} {k k' : κ} {v : α}

@[simp] theorem get_empty (k : κ) : (empty : OrderedMap κ α).get k = none := rfl

/-- An entry is what its key gets. -/
theorem mem_entries : (k, v) ∈ m.entries ↔ m.get k = some v := by
  obtain ⟨entries, hnodup⟩ := m
  unfold get
  dsimp only
  induction entries with
  | nil => simp
  | cons e entries ih =>
      rw [List.map_cons, List.nodup_cons] at hnodup
      by_cases he : e.1 = k
      · rw [List.find?_cons_of_pos (by simpa using he), Option.map_some, Option.some.injEq,
          List.mem_cons]
        constructor
        · rintro (rfl | hmem)
          · rfl
          · exact absurd (List.mem_map_of_mem (f := Prod.fst) hmem) (he ▸ hnodup.1)
        · rintro rfl
          exact .inl (by rw [← he])
      · rw [List.find?_cons_of_neg (by simpa using he), List.mem_cons, ih hnodup.2]
        exact ⟨fun h => h.resolve_left fun e' => he (by rw [← e']), .inr⟩

theorem mem_keys : k ∈ m.keys ↔ ∃ v, m.get k = some v := by
  unfold keys
  rw [List.mem_map]
  constructor
  · rintro ⟨⟨k, v⟩, h, rfl⟩
    exact ⟨v, mem_entries.mp h⟩
  · rintro ⟨v, h⟩
    exact ⟨(k, v), mem_entries.mpr h, rfl⟩

theorem mem_values : v ∈ m.values ↔ ∃ k, m.get k = some v := by
  unfold values
  rw [List.mem_map]
  constructor
  · rintro ⟨⟨k, v⟩, h, rfl⟩
    exact ⟨k, mem_entries.mp h⟩
  · rintro ⟨k, h⟩
    exact ⟨(k, v), mem_entries.mpr h, rfl⟩

theorem get_eq_none : m.get k = none ↔ k ∉ m.keys := by
  rw [mem_keys, Option.eq_none_iff_forall_ne_some]
  exact ⟨fun h ⟨v, hv⟩ => h v hv, fun h v hv => h ⟨v, hv⟩⟩

theorem get_mapValues (f : κ → α → α) : (m.mapValues f).get k = (m.get k).map (f k) := by
  obtain ⟨entries, hnodup⟩ := m
  unfold get mapValues
  dsimp only
  clear hnodup
  induction entries with
  | nil => rfl
  | cons e entries ih =>
      rw [List.map_cons]
      by_cases he : e.1 = k
      · rw [List.find?_cons_of_pos (by simpa using he), List.find?_cons_of_pos (by simpa using he)]
        rw [← he]
        rfl
      · rw [List.find?_cons_of_neg (by simpa using he), List.find?_cons_of_neg (by simpa using he)]
        exact ih

theorem mapValues_congr {f g : κ → α → α} (h : ∀ k v, m.get k = some v → f k v = g k v) :
    m.mapValues f = m.mapValues g := by
  unfold mapValues
  rw [mk.injEq]
  exact List.map_congr_left fun e he => by rw [h e.1 e.2 (mem_entries.mp he)]

theorem get_filter (p : κ → α → Bool) : (m.filter p).get k = (m.get k).filter (p k) := by
  refine Option.ext fun v => ?_
  rw [← mem_entries, Option.filter_eq_some_iff, ← mem_entries]
  exact List.mem_filter

/-- What a key gets after a write. -/
theorem get_set (k' : κ) : (m.set k v).get k' = if k' = k then some v else m.get k' := by
  unfold set
  split
  next h =>
    rw [get_mapValues]
    obtain ⟨v', hv'⟩ := mem_keys.mp h
    by_cases hk : k' = k
    · rw [if_pos hk, hk, hv']
      simp
    · simp [hk]
  next h =>
    refine Option.ext fun v' => ?_
    rw [← mem_entries, List.mem_append, List.mem_singleton, mem_entries]
    by_cases hk : k' = k
    · subst hk
      rw [get_eq_none.mpr h]
      simp [eq_comm]
    · simp [hk]

/-- What a key gets after a deletion. -/
theorem get_delete (k' : κ) : (m.delete k).get k' = if k' = k then none else m.get k' := by
  unfold delete
  rw [get_filter]
  by_cases hk : k' = k
  · simp [hk]
  · simp [hk, Option.filter]
    cases m.get k' <;> rfl

/-- What a key gets after an update in place. -/
theorem get_update (f : α → α) (k' : κ) :
    (m.update k f).get k' = if k' = k then (m.get k).map f else m.get k' := by
  unfold update
  rw [get_mapValues]
  by_cases hk : k' = k
  · simp [hk]
  · simp [hk]

@[simp] theorem keys_update (f : α → α) : (m.update k f).keys = m.keys := keys_mapValues ..

/-! ### What holds of every entry -/

/-- `P` of every entry. -/
def All (P : κ → α → Prop) (m : OrderedMap κ α) : Prop := ∀ k v, m.get k = some v → P k v

variable {P : κ → α → Prop}

theorem All.empty : All P (OrderedMap.empty : OrderedMap κ α) := nofun

/-- A write of a value that has the property. -/
theorem All.set (h : m.All P) (hv : P k v) : (m.set k v).All P := by
  intro k' v' h'
  rw [get_set] at h'
  split at h'
  next hk =>
    obtain rfl := Option.some.inj h'
    exact hk ▸ hv
  · exact h k' v' h'

theorem All.delete (h : m.All P) : (m.delete k).All P := by
  intro k' v' h'
  rw [get_delete] at h'
  split at h'
  · cases h'
  · exact h k' v' h'

theorem All.filter (h : m.All P) (p : κ → α → Bool) : (m.filter p).All P := by
  intro k' v' h'
  rw [get_filter, Option.filter_eq_some_iff] at h'
  exact h k' v' h'.1

theorem All.mapValues {f : κ → α → α} (h : m.All P) (hf : ∀ k v, P k v → P k (f k v)) :
    (m.mapValues f).All P := by
  intro k' v' h'
  rw [get_mapValues, Option.map_eq_some_iff] at h'
  obtain ⟨v, hv, rfl⟩ := h'
  exact hf k' v (h k' v hv)

/-- An update that keeps it. -/
theorem All.update {f : α → α} (h : m.All P) (hf : ∀ v, P k v → P k (f v)) :
    (m.update k f).All P := by
  refine h.mapValues fun k' v hv => ?_
  split
  next hk => exact hk ▸ hf v (hk ▸ hv)
  · exact hv

theorem All.imp {Q : κ → α → Prop} (h : m.All P) (hPQ : ∀ k v, P k v → Q k v) : m.All Q :=
  fun k v hv => hPQ k v (h k v hv)

/-! ### One entry among the others -/

/-- The entry of a key, and those around it, which no operation on the key touches. -/
theorem exists_split (h : m.get k = some v) : ∃ before after,
    m.entries = before ++ (k, v) :: after ∧ (m.delete k).entries = before ++ after ∧
      ∀ f, (m.update k f).entries = before ++ (k, f v) :: after := by
  obtain ⟨before, after, hentries⟩ := List.append_of_mem (mem_entries.mpr h)
  have hnodup := m.nodup
  rw [hentries, List.map_append, List.map_cons, List.nodup_append] at hnodup
  obtain ⟨-, hafter, hbefore⟩ := hnodup
  have hbefore' : ∀ e ∈ before, e.1 ≠ k := fun e he =>
    hbefore e.1 (List.mem_map_of_mem he) k (.head _)
  have hafter' : ∀ e ∈ after, e.1 ≠ k := fun e he heq =>
    (List.nodup_cons.mp hafter).1 (List.mem_map.mpr ⟨e, he, heq⟩)
  refine ⟨before, after, hentries, ?_, fun f => ?_⟩
  · unfold delete filter
    dsimp only
    rw [hentries, List.filter_append, List.filter_cons_of_neg (by simp),
      List.filter_eq_self.mpr fun e he => by simpa using hbefore' e he,
      List.filter_eq_self.mpr fun e he => by simpa using hafter' e he]
  · unfold update mapValues
    dsimp only
    rw [hentries, List.map_append, List.map_cons, if_pos rfl]
    congr 1
    · exact (List.map_congr_left fun e he => by rw [if_neg (hbefore' e he)]; rfl).trans
        (List.map_id _)
    · congr 1
      exact (List.map_congr_left fun e he => by rw [if_neg (hafter' e he)]; rfl).trans
        (List.map_id _)

/-- A value and the values of the rest. -/
theorem values_perm_delete (h : m.get k = some v) : m.values.Perm (v :: (m.delete k).values) := by
  obtain ⟨before, after, hentries, hdelete, -⟩ := exists_split h
  unfold values
  rw [hentries, hdelete, List.map_append, List.map_append, List.map_cons]
  exact List.perm_middle

/-- An update moves a sum by the change of its value. -/
theorem sum_update {M : Type*} [AddCommGroup M] (g : α → M) (f : α → α) (h : m.get k = some v) :
    ((m.update k f).values.map g).sum = (m.values.map g).sum + (g (f v) - g v) := by
  obtain ⟨before, after, hentries, -, hupdate⟩ := exists_split h
  unfold values
  rw [hentries, hupdate]
  simp only [List.map_append, List.map_cons, List.sum_append, List.sum_cons]
  abel

/-- A key that was not there comes last. -/
theorem values_set (h : m.get k = none) : (m.set k v).values = m.values ++ [v] := by
  unfold set values
  rw [dif_neg (get_eq_none.mp h)]
  dsimp only
  rw [List.map_append]
  rfl

end Update

end OrderedMap

end SnakeArena.Library
