import Mathlib.Data.Finset.Max
import Mathlib.Data.Finset.Card
import Mathlib.Tactic.Common

/-!
# Library — the largest members

The largest members of a set, up to a number of them: those that fewer members are greater than.

* `largest_insert`: of the members that are kept, an insertion needs no others.
* `mem_drop_iff`: in a list that increases, they are the last ones.
-/

namespace SnakeArena.Library

variable {α : Type*} [LinearOrder α]

def largest (n : ℕ) (s : Finset α) : Finset α := s.filter fun x => (s.filter (x < ·)).card < n

theorem mem_largest {n : ℕ} {s : Finset α} {x : α} :
    x ∈ largest n s ↔ x ∈ s ∧ (s.filter (x < ·)).card < n :=
  Finset.mem_filter

theorem largest_subset (n : ℕ) (s : Finset α) : largest n s ⊆ s := Finset.filter_subset _ _

/-- The greatest member is among them. -/
theorem largest_nonempty {n : ℕ} (hn : 1 ≤ n) {s : Finset α} (hs : s.Nonempty) :
    (largest n s).Nonempty := by
  refine ⟨s.max' hs, mem_largest.mpr ⟨s.max'_mem hs, ?_⟩⟩
  have hnone : s.filter (s.max' hs < ·) = ∅ :=
    Finset.filter_false_of_mem fun x hx => not_lt.mpr (s.le_max' x hx)
  rw [hnone, Finset.card_empty]
  exact hn

/-- A member that is not among the largest has that many of them above it. -/
theorem le_card_largest {n : ℕ} {s : Finset α} {x : α} (hx : x ∈ s) (h : x ∉ largest n s) :
    n ≤ ((largest n s).filter (x < ·)).card := by
  -- Above the greatest such member all are among the largest.
  obtain ⟨top, htop, hmax⟩ := (s \ largest n s).exists_max_image id
    ⟨x, Finset.mem_sdiff.mpr ⟨hx, h⟩⟩
  obtain ⟨htop, hout⟩ := Finset.mem_sdiff.mp htop
  have hmany : n ≤ (s.filter (top < ·)).card :=
    not_lt.mp fun hlt => hout (mem_largest.mpr ⟨htop, hlt⟩)
  refine hmany.trans (Finset.card_le_card fun y hy => ?_)
  obtain ⟨hy, hlt⟩ := Finset.mem_filter.mp hy
  refine Finset.mem_filter.mpr ⟨?_, lt_of_le_of_lt (hmax x (Finset.mem_sdiff.mpr ⟨hx, h⟩)) hlt⟩
  by_contra hyout
  exact absurd (hmax y (Finset.mem_sdiff.mpr ⟨hy, hyout⟩)) (not_le.mpr hlt)

/-- A new member finds among the largest all that matter. -/
theorem largest_insert (n : ℕ) (s : Finset α) (t : α) :
    largest n (insert t (largest n s)) = largest n (insert t s) := by
  have hsubset : insert t (largest n s) ⊆ insert t s :=
    Finset.insert_subset_insert t (largest_subset n s)
  ext x
  rw [mem_largest, mem_largest]
  constructor
  · rintro ⟨hx, hfew⟩
    refine ⟨hsubset hx, lt_of_le_of_lt (Finset.card_le_card fun y hy => ?_) hfew⟩
    obtain ⟨hy, hlt⟩ := Finset.mem_filter.mp hy
    refine Finset.mem_filter.mpr ⟨?_, hlt⟩
    rcases Finset.mem_insert.mp hy with rfl | hy
    · exact Finset.mem_insert_self _ _
    by_contra hyout
    -- Otherwise as many are above it as there are places.
    have hmany := le_card_largest hy fun hin => hyout (Finset.mem_insert_of_mem hin)
    refine absurd hfew (not_lt.mpr (hmany.trans (Finset.card_le_card fun z hz => ?_)))
    obtain ⟨hz, hyz⟩ := Finset.mem_filter.mp hz
    exact Finset.mem_filter.mpr ⟨Finset.mem_insert_of_mem hz, hlt.trans hyz⟩
  · rintro ⟨hx, hfew⟩
    refine ⟨?_, lt_of_le_of_lt (Finset.card_le_card (Finset.filter_subset_filter _ hsubset)) hfew⟩
    rcases Finset.mem_insert.mp hx with rfl | hx
    · exact Finset.mem_insert_self _ _
    · refine Finset.mem_insert_of_mem (mem_largest.mpr ⟨hx, lt_of_le_of_lt ?_ hfew⟩)
      exact Finset.card_le_card (Finset.filter_subset_filter _ (Finset.subset_insert t s))

theorem largest_insert_of_mem {n : ℕ} {s : Finset α} {t : α} (h : t ∈ largest n s) :
    largest n (insert t s) = largest n s := by
  rw [Finset.insert_eq_self.mpr (largest_subset n s h)]

/-! ### Lists that increase -/

/-- A member of such a list is one of the last if few are greater. -/
theorem mem_drop_iff {l : List α} (h : l.Pairwise (· < ·)) (n : ℕ) (x : α) :
    x ∈ l.drop (l.length - n) ↔ x ∈ l ∧ (l.toFinset.filter (x < ·)).card < n := by
  induction l with
  | nil => simp
  | cons y l ih =>
      obtain ⟨hy, hl⟩ := List.pairwise_cons.mp h
      have hfilter : ∀ z ∈ l, ((y :: l).toFinset.filter (z < ·)) = l.toFinset.filter (z < ·) := by
        intro z hz
        rw [List.toFinset_cons, Finset.filter_insert, if_neg (not_lt.mpr (hy z hz).le)]
      have hfirst : (y :: l).toFinset.filter (y < ·) = l.toFinset := by
        rw [List.toFinset_cons, Finset.filter_insert, if_neg (lt_irrefl y)]
        exact Finset.filter_true_of_mem fun z hz => hy z (List.mem_toFinset.mp hz)
      have hcard : l.toFinset.card = l.length :=
        List.toFinset_card_of_nodup (hl.imp fun h => h.ne)
      rcases lt_or_ge l.length n with hn | hn
      · rw [List.length_cons, Nat.sub_eq_zero_of_le hn, List.drop_zero]
        refine ⟨fun hx => ⟨hx, ?_⟩, And.left⟩
        refine lt_of_le_of_lt ?_ hn
        rcases List.mem_cons.mp hx with rfl | hx
        · rw [hfirst, hcard]
        · rw [hfilter x hx, ← hcard]
          exact Finset.card_filter_le _ _
      · rw [List.length_cons, Nat.succ_sub hn, List.drop_succ_cons, ih hl, List.mem_cons]
        constructor
        · rintro ⟨hx, hfew⟩
          exact ⟨.inr hx, by rwa [hfilter x hx]⟩
        · rintro ⟨rfl | hx, hfew⟩
          · rw [hfirst, hcard] at hfew
            omega
          · exact ⟨hx, by rwa [hfilter x hx] at hfew⟩

theorem toFinset_drop {l : List α} (h : l.Pairwise (· < ·)) (n : ℕ) :
    (l.drop (l.length - n)).toFinset = largest n l.toFinset := by
  ext x
  rw [List.mem_toFinset, mem_drop_iff h, mem_largest, List.mem_toFinset]

/-- Two such lists of one set are one list. -/
theorem eq_of_toFinset {l l' : List α} (h : l.Pairwise (· < ·)) (h' : l'.Pairwise (· < ·))
    (hset : l.toFinset = l'.toFinset) : l = l' := by
  refine List.Perm.eq_of_pairwise (fun _ _ _ _ hlt hgt => absurd hgt hlt.asymm) h h' ?_
  refine (List.perm_ext_iff_of_nodup (h.imp fun h => h.ne) (h'.imp fun h => h.ne)).mpr fun x => ?_
  rw [← List.mem_toFinset, hset, List.mem_toFinset]

end SnakeArena.Library
