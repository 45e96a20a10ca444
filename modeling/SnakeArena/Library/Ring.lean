import Mathlib.Data.List.Basic
import Mathlib.Logic.Function.Basic
import Mathlib.Tactic.Common

/-!
# Library — rings of slots

A ring keeps the newest entries of a history, the newest at its head and the others behind it.  An
entry is pushed into the slot after the head, the newest one is overwritten where it is, and the
length is cut from the far end; whatever of these is done, what is within the length is the history
(`Ring.push`, `Ring.slide`, `Ring.cut`).
-/

namespace SnakeArena.Library

/-- The slot behind the head. -/
def slotAt (head capacity offset : ℕ) : ℕ := (head + capacity - offset) % capacity

section Slots
variable {head capacity offset : ℕ}

theorem slotAt_zero (h : head < capacity) : slotAt head capacity 0 = head := by
  rw [slotAt, Nat.sub_zero, Nat.add_mod_right, Nat.mod_eq_of_lt h]

/-- A slot before the wrap, or after it. -/
theorem slotAt_cases (hhead : head < capacity) (hoffset : offset < capacity) :
    offset ≤ head ∧ slotAt head capacity offset = head - offset ∨
      head < offset ∧ slotAt head capacity offset = head + capacity - offset := by
  unfold slotAt
  rcases Nat.lt_or_ge head offset with hlt | hle
  · exact .inr ⟨hlt, Nat.mod_eq_of_lt (by omega)⟩
  · refine .inl ⟨hle, ?_⟩
    have hwrap : head + capacity - offset = head - offset + capacity := by omega
    rw [hwrap, Nat.add_mod_right, Nat.mod_eq_of_lt (by omega)]

/-- The slots within the capacity are different ones. -/
theorem slotAt_ne_head (hhead : head < capacity) (hoffset : offset < capacity) (hpos : 0 < offset) :
    slotAt head capacity offset ≠ head := by
  rcases slotAt_cases hhead hoffset with ⟨hle, hslot⟩ | ⟨hlt, hslot⟩ <;> omega

/-- From the next head, a slot is one further. -/
theorem slotAt_succ (hhead : head < capacity) (hoffset : offset + 1 < capacity) :
    slotAt ((head + 1) % capacity) capacity (offset + 1) = slotAt head capacity offset := by
  have hnext : (head + 1) % capacity < capacity := Nat.mod_lt _ (by omega)
  rcases Nat.lt_or_ge (head + 1) capacity with hlt | hge
  · rw [Nat.mod_eq_of_lt hlt] at hnext ⊢
    rcases slotAt_cases hnext hoffset with ⟨h, hslot⟩ | ⟨h, hslot⟩ <;>
      rcases slotAt_cases hhead (by omega : offset < capacity) with ⟨h', hslot'⟩ | ⟨h', hslot'⟩ <;>
      omega
  · obtain rfl : capacity = head + 1 := by omega
    rw [Nat.mod_self] at hnext ⊢
    rcases slotAt_cases hnext hoffset with ⟨h, hslot⟩ | ⟨h, hslot⟩ <;>
      rcases slotAt_cases hhead (by omega : offset < head + 1) with ⟨h', hslot'⟩ | ⟨h', hslot'⟩ <;>
      omega

end Slots

variable {α : Type*} {slots : ℕ → α} {head length capacity : ℕ} {history : List α}

/-- What is within the length is the newest of the history. -/
structure Ring (slots : ℕ → α) (head length capacity : ℕ) (history : List α) : Prop where
  head_lt : head < capacity
  length_le : length ≤ capacity
  entries : ∀ offset < length, history[offset]? = some (slots (slotAt head capacity offset))

namespace Ring

/-- An entry is pushed into the slot after the head. -/
theorem push (h : Ring slots head length capacity history) (a : α) {length' : ℕ}
    (hlength : length' ≤ length + 1) (hcapacity : length' ≤ capacity) :
    Ring (Function.update slots ((head + 1) % capacity) a) ((head + 1) % capacity) length' capacity
      (a :: history) where
  head_lt := Nat.mod_lt _ (by have := h.head_lt; omega)
  length_le := hcapacity
  entries offset hoffset := by
    have hhead := h.head_lt
    have hnext : (head + 1) % capacity < capacity := Nat.mod_lt _ (by omega)
    cases offset with
    | zero => rw [slotAt_zero hnext, Function.update_self, List.getElem?_cons_zero]
    | succ offset =>
        rw [Function.update_of_ne (slotAt_ne_head hnext (by omega) offset.succ_pos),
          slotAt_succ hhead (by omega), List.getElem?_cons_succ, h.entries offset (by omega)]

/-- The newest entry is overwritten. -/
theorem slide (h : Ring slots head length capacity history) (a : α) :
    Ring (Function.update slots head a) head length capacity (a :: history.tail) where
  head_lt := h.head_lt
  length_le := h.length_le
  entries offset hoffset := by
    have hhead := h.head_lt
    have hle := h.length_le
    cases offset with
    | zero => rw [slotAt_zero hhead, Function.update_self, List.getElem?_cons_zero]
    | succ offset =>
        rw [Function.update_of_ne (slotAt_ne_head hhead (by omega) offset.succ_pos),
          List.getElem?_cons_succ, List.getElem?_tail, h.entries _ hoffset]

/-- The length is cut. -/
theorem cut (h : Ring slots head length capacity history) {length' : ℕ}
    (hlength : length' ≤ length) :
    Ring slots head length' capacity history where
  head_lt := h.head_lt
  length_le := Nat.le_trans hlength h.length_le
  entries offset hoffset := h.entries offset (Nat.lt_of_lt_of_le hoffset hlength)

end Ring
end SnakeArena.Library
