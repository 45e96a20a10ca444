import Mathlib.Algebra.Order.Ring.Abs
import Mathlib.Data.List.Chain
import Mathlib.Tactic.Linarith
import Mathlib.Tactic.Ring

/-!
# Library — marks on a way

Whoever goes a way leaves a mark whenever a spacing is full, and carries what is over to the next
mark.  A step that leaves a mark starts at one reading of the way and ends at another, and the mark
is somewhere between them.

As long as no step fills two spacings, what is carried is less than one (`Even`), and two marks in a
row are a spacing apart to within one of the two steps that left them, whichever end of the steps
is looked at.
-/

namespace SnakeArena.Library

/-- The readings at both ends of a step that leaves a mark. -/
structure Mark (K : Type*) where
  start : K
  stop : K
deriving DecidableEq

/-- The way so far, and its marks, the latest first. -/
structure Trail (K : Type*) where
  length : K
  marks : List (Mark K)

namespace Trail
variable {K : Type*} [CommRing K] [LinearOrder K]

def empty : Trail K := ⟨0, []⟩

/-- A step of a distance, which leaves a mark or does not. -/
def go (t : Trail K) (distance : K) (marked : Bool) : Trail K where
  length := t.length + distance
  marks := if marked then ⟨t.length, t.length + distance⟩ :: t.marks else t.marks

/-- A spacing apart, to within one of the two steps. -/
def Spaced (spacing : K) (later earlier : Mark K) : Prop :=
  |later.start - earlier.start - spacing| <
      max (later.stop - later.start) (earlier.stop - earlier.start) ∧
    |later.stop - earlier.stop - spacing| <
      max (later.stop - later.start) (earlier.stop - earlier.start)

/-- What is carried is less than a spacing, and the marks are even. -/
structure Even (spacing carried : K) (t : Trail K) : Prop where
  carried_nonneg : 0 ≤ carried
  carried_lt : carried < spacing
  spaced : t.marks.IsChain (Spaced spacing)
  /-- What was carried after the latest mark is less than its step. -/
  latest : ∀ m ∈ t.marks.head?,
    0 ≤ carried - (t.length - m.stop) ∧ carried - (t.length - m.stop) < m.stop - m.start

theorem even_empty {spacing : K} (h : 0 < spacing) : (empty : Trail K).Even spacing 0 :=
  ⟨le_rfl, h, .nil, nofun⟩

variable [IsStrictOrderedRing K] {spacing carried distance : K} {t : Trail K}

/-- The spacing is not full yet. -/
theorem Even.slide (h : t.Even spacing carried) (hdistance : 0 ≤ distance)
    (hlt : carried + distance < spacing) :
    (t.go distance false).Even spacing (carried + distance) where
  carried_nonneg := add_nonneg h.carried_nonneg hdistance
  carried_lt := hlt
  spaced := h.spaced
  latest m hm := by
    have hlatest := h.latest m hm
    have hsame : carried + distance - ((t.go distance false).length - m.stop) =
        carried - (t.length - m.stop) := by
      unfold go
      ring
    rwa [hsame]

/-- A spacing is full, and no second one. -/
theorem Even.mark (h : t.Even spacing carried) (hfull : spacing ≤ carried + distance)
    (hlt : carried + distance - spacing < spacing) :
    (t.go distance true).Even spacing (carried + distance - spacing) where
  carried_nonneg := sub_nonneg.mpr hfull
  carried_lt := hlt
  spaced := by
    unfold go
    dsimp only
    rw [if_pos rfl, List.isChain_cons]
    refine ⟨fun m hm => ?_, h.spaced⟩
    obtain ⟨hle, hlt'⟩ := h.latest m hm
    have hcarried := h.carried_lt
    have hleft := le_max_left (t.length + distance - t.length) (m.stop - m.start)
    have hright := le_max_right (t.length + distance - t.length) (m.stop - m.start)
    constructor <;> dsimp only <;> rw [abs_lt] <;> constructor <;> linarith
  latest m hm := by
    unfold go at hm ⊢
    dsimp only at hm ⊢
    rw [if_pos rfl, List.head?_cons, Option.mem_some_iff] at hm
    subst hm
    have hcarried := h.carried_lt
    constructor
    · linarith
    · linarith

end Trail

end SnakeArena.Library
