import Mathlib.Algebra.Order.Ring.Defs
import Mathlib.Data.List.Count
import Mathlib.Tactic.Linarith
import Mathlib.Tactic.Ring

/-!
# Library — token buckets

A bucket refills at a rate, up to its burst, and is asked for one token at a time; times are read
off a clock that does not go back.  What it gives and what it holds afterwards is what it was
refilled to (`given_add_tokens`), so that over any span it gives no more tokens than the burst and
what the rate gives in the span (`count_takes_le`).
-/

namespace SnakeArena.Library

structure TokenBucket (K : Type*) where
  rate : K
  burst : K

namespace TokenBucket

/-- What a bucket holds, and when it was last refilled. -/
structure Level (K : Type*) where
  tokens : K
  last : K
deriving DecidableEq

section Take
variable {K : Type*} [CommRing K] [LinearOrder K] (b : TokenBucket K)

def refilled (s : Level K) (now : K) : K := min b.burst (s.tokens + max 0 (now - s.last) * b.rate)

/-- Whether there is a token, and what is left. -/
def take (s : Level K) (now : K) : Bool × Level K :=
  if b.refilled s now < 1 then (false, ⟨b.refilled s now, now⟩)
  else (true, ⟨b.refilled s now - 1, now⟩)

/-- When it gives a token, of the times at which it is asked. -/
def takes : Level K → List K → List K
  | _, [] => []
  | s, now :: times =>
      if (b.take s now).1 then now :: takes (b.take s now).2 times
      else takes (b.take s now).2 times

variable {b} {s : Level K} {now stop : K}

@[simp] theorem take_last : (b.take s now).2.last = now := by
  unfold take
  split_ifs <;> rfl

/-- Only what it is refilled to matters. -/
theorem take_congr {s' : Level K} (h : b.refilled s now = b.refilled s' now) :
    b.take s now = b.take s' now := by
  unfold take
  rw [h]

/-- A bucket that is made when it is first asked is one that was always full. -/
theorem refilled_getD [IsOrderedRing K] (hrate : 0 ≤ b.rate) (found : Option (Level K))
    (start now : K) :
    b.refilled (found.getD ⟨b.burst, start⟩) now = b.refilled (found.getD ⟨b.burst, now⟩) now := by
  cases found with
  | some => rfl
  | none =>
      simp only [Option.getD_none, refilled, sub_self, max_self, zero_mul, add_zero, min_self]
      exact min_eq_left (le_add_of_nonneg_right (mul_nonneg (le_max_left _ _) hrate))

/-- What is given and what is left is what there was. -/
theorem given_add_tokens (b : TokenBucket K) (s : Level K) (now : K) :
    (if (b.take s now).1 then 1 else 0) + (b.take s now).2.tokens = b.refilled s now := by
  by_cases hempty : b.refilled s now < 1
  · simp [take, hempty]
  · simp [take, hempty]

/-- Nothing is given at a time at which it is not asked. -/
theorem takes_sublist : ∀ {times : List K} {s : Level K}, (b.takes s times).Sublist times := by
  intro times
  induction times with
  | nil => exact fun {s} => .slnil
  | cons now times ih =>
      intro s
      rw [takes]
      split_ifs
      · exact ih.cons_cons now
      · exact ih.cons now

theorem count_takes_before {times : List K} (h : ∀ t ∈ times, stop < t) :
    (b.takes s times).countP (· ≤ stop) = 0 := by
  refine List.countP_eq_zero.mpr fun t ht => ?_
  have := h t (takes_sublist.subset ht)
  simpa using this

end Take

section Bounds
variable {K : Type*} [CommRing K] [LinearOrder K] [IsStrictOrderedRing K] {b : TokenBucket K}
  {s : Level K} {now start stop : K}

theorem refilled_nonneg (hrate : 0 ≤ b.rate) (hburst : 0 ≤ b.burst) (hs : 0 ≤ s.tokens) :
    0 ≤ b.refilled s now :=
  le_min hburst (add_nonneg hs (mul_nonneg (le_max_left _ _) hrate))

theorem take_nonneg (hrate : 0 ≤ b.rate) (hburst : 0 ≤ b.burst) (hs : 0 ≤ s.tokens) :
    0 ≤ (b.take s now).2.tokens := by
  have hnonneg : 0 ≤ b.refilled s now := refilled_nonneg hrate hburst hs
  unfold take
  split_ifs with hempty
  · exact hnonneg
  · exact sub_nonneg.mpr (not_lt.mp hempty)

/-- Up to a time, what is given is covered by the level and the rate since. -/
theorem count_takes_until (hrate : 0 ≤ b.rate) (hburst : 0 ≤ b.burst) :
    ∀ {times : List K} {s : Level K}, 0 ≤ s.tokens → s.last ≤ stop →
      (s.last :: times).Pairwise (· ≤ ·) →
        ((b.takes s times).countP (· ≤ stop) : K) ≤ s.tokens + (stop - s.last) * b.rate := by
  intro times
  induction times with
  | nil =>
      intro s hs hstop _
      simpa [takes] using add_nonneg hs (mul_nonneg (sub_nonneg.mpr hstop) hrate)
  | cons now times ih =>
      intro s hs hstop hsorted
      have hlast : s.last ≤ now := List.rel_of_pairwise_cons hsorted List.mem_cons_self
      by_cases hnow : now ≤ stop
      · have hgiven : b.refilled s now ≤ s.tokens + (now - s.last) * b.rate := by
          unfold refilled
          rw [max_eq_right (sub_nonneg.mpr hlast)]
          exact min_le_right _ _
        have hrest := ih (take_nonneg hrate hburst hs) (take_last.trans_le hnow)
          (by rw [take_last]; exact hsorted.tail)
        rw [take_last] at hrest
        have hsum := b.given_add_tokens s now
        rw [takes]
        split_ifs at hsum ⊢ with hgives
        · rw [List.countP_cons_of_pos (by simpa using hnow), Nat.cast_succ]
          linarith
        · linarith
      · rw [count_takes_before, Nat.cast_zero]
        · exact add_nonneg hs (mul_nonneg (sub_nonneg.mpr hstop) hrate)
        · intro t ht
          rcases List.mem_cons.mp ht with rfl | ht
          · exact not_le.mp hnow
          · exact (not_le.mp hnow).trans_le (List.rel_of_pairwise_cons hsorted.tail ht)

/-- **Over any span**, the burst and what the rate gives in the span. -/
theorem count_takes_le (hrate : 0 ≤ b.rate) (hburst : 0 ≤ b.burst) (hspan : start ≤ stop) :
    ∀ {times : List K} {s : Level K}, 0 ≤ s.tokens → times.Pairwise (· ≤ ·) →
      ((b.takes s times).countP (fun t => start ≤ t ∧ t ≤ stop) : K) ≤
        b.burst + (stop - start) * b.rate := by
  have hbound : 0 ≤ b.burst + (stop - start) * b.rate :=
    add_nonneg hburst (mul_nonneg (sub_nonneg.mpr hspan) hrate)
  intro times
  induction times with
  | nil =>
      intro s _ _
      simpa [takes] using hbound
  | cons now times ih =>
      intro s hs hsorted
      have htail : 0 ≤ (b.take s now).2.tokens := take_nonneg hrate hburst hs
      by_cases hstart : start ≤ now
      · -- from here on, only the end of the span matters
        have hle : ((b.takes s (now :: times)).countP (fun t => start ≤ t ∧ t ≤ stop) : K) ≤
            (b.takes s (now :: times)).countP (· ≤ stop) := by
          exact_mod_cast List.countP_mono_left fun t _ h => by simpa using (of_decide_eq_true h).2
        refine hle.trans ?_
        by_cases hnow : now ≤ stop
        · have hrest := count_takes_until hrate hburst htail (take_last.trans_le hnow)
            (by rw [take_last]; exact hsorted)
          rw [take_last] at hrest
          have hfull : b.refilled s now ≤ b.burst := min_le_left _ _
          have hspan' : (stop - now) * b.rate ≤ (stop - start) * b.rate :=
            mul_le_mul_of_nonneg_right (by linarith) hrate
          have hsum := b.given_add_tokens s now
          rw [takes]
          split_ifs at hsum ⊢ with hgives
          · rw [List.countP_cons_of_pos (by simpa using hnow), Nat.cast_succ]
            linarith
          · linarith
        · rw [count_takes_before, Nat.cast_zero]
          · exact hbound
          · intro t ht
            rcases List.mem_cons.mp ht with rfl | ht
            · exact not_le.mp hnow
            · exact (not_le.mp hnow).trans_le (List.rel_of_pairwise_cons hsorted ht)
      · rw [takes]
        split_ifs
        · rw [List.countP_cons_of_neg (by simp [hstart])]
          exact ih htail hsorted.tail
        · exact ih htail hsorted.tail

end Bounds

end TokenBucket

end SnakeArena.Library
