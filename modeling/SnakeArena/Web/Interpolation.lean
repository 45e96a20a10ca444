import Mathlib.Tactic.FieldSimp
import Mathlib.Tactic.Linarith
import SnakeArena.Library.Largest
import SnakeArena.Library.Rounding
import SnakeArena.Protocol.Snapshot

/-!
# Web — snapshot interpolation

`game/net/interpolation.ts`: the client buffers the snapshots that arrive, in any order, and draws
the other snakes between the two that straddle the time it renders.  A number that is none is not
finite, such as a quotient by zero; the others are doubles, rounded at each operation, and those
of a snapshot are far too small to overflow.

* `buffer_sound`: the buffer holds the latest distinct times that were seen; a frame of it is one
  of its ends, or a blend of the two neighbours that straddle the time that is rendered.
* `sampling_rounds`: the time of a blend is not always the time that is rendered.
-/

namespace SnakeArena.Web
open SnakeArena.Library SnakeArena.Game SnakeArena.Protocol
open SnakeArena.Library.Double (nearest IsDouble)

structure InterpolatedSnake where
  id : String
  nickname : String
  points : List Position
  angle : Option ℚ
  radius : Option ℚ
  mass : Option ℚ
  boosting : Bool
  isBot : Bool

structure InterpolatedFrame where
  tick : ℕ
  serverTime : Option ℚ
  snakes : List InterpolatedSnake
  food : List FoodState
  /-- The buffer ran dry, and this frame is the newest one held. -/
  stale : Bool

structure SnapshotBuffer where
  /-- Ordered by server time, oldest first. -/
  snapshots : List Snapshot
  maxSize : ℕ

def createSnapshotBuffer (maxSize : ℕ) : SnapshotBuffer := ⟨[], maxSize⟩

/-! ### Arrivals -/

/-- Backwards from an index, past what is later. -/
def insertionIndex (snapshots : List Snapshot) (serverTime : ℕ) : ℕ → ℕ
  | 0 => 0
  | index + 1 =>
      if snapshots[index]?.any (serverTime < ·.serverTime) then
        insertionIndex snapshots serverTime index
      else index + 1

/-- Inserts in server-time order and evicts the oldest; a duplicate is dropped. -/
def pushSnapshot (buffer : SnapshotBuffer) (snapshot : Snapshot) : SnapshotBuffer :=
  let index := insertionIndex buffer.snapshots snapshot.serverTime buffer.snapshots.length
  if 0 < index ∧ buffer.snapshots[index - 1]?.any (·.serverTime = snapshot.serverTime) then buffer
  else
    let snapshots := buffer.snapshots.insertIdx index snapshot
    { buffer with snapshots := snapshots.drop (snapshots.length - buffer.maxSize) }

/-- The buffer after some arrivals. -/
def received (maxSize : ℕ) (arrivals : List Snapshot) : SnapshotBuffer :=
  arrivals.foldl pushSnapshot (createSnapshotBuffer maxSize)

/-! ### Frames -/

/-- A quotient by zero is not finite. -/
def divide (a b : ℚ) : Option ℚ := if b = 0 then none else some (nearest (a / b))

def lerp (a b t : ℚ) : ℚ := nearest (a + nearest (nearest (b - a) * t))

/-- Interpolates angles the short way round the circle. -/
def lerpAngle (a b t : ℚ) : ℚ :=
  -- the remainder of two doubles is exact
  let delta := remainder (nearest (b - a)) (PI * 2)
  let delta := if PI < delta then nearest (delta - PI * 2) else delta
  let delta := if delta < -PI then nearest (delta + PI * 2) else delta
  nearest (a + nearest (delta * t))

/-- A snake as it is in a snapshot. -/
def verbatim (snake : SnakeState) : InterpolatedSnake :=
  ⟨snake.id, snake.nickname, snake.points, snake.angle, some snake.radius, some snake.mass,
    snake.boosting, snake.isBot⟩

def toFrame (snapshot : Snapshot) (stale : Bool) : InterpolatedFrame :=
  ⟨snapshot.tick, some snapshot.serverTime, snapshot.snakes.map verbatim, snapshot.food, stale⟩

/-- The `Map` by id, where the last snake of an id is. -/
def byId (snapshot : Snapshot) (id : String) : Option SnakeState :=
  snapshot.snakes.reverse.find? (·.id = id)

def blendPoint (a b : Position) (t : Option ℚ) : Position := do
  let a ← a
  let b ← b
  let t ← t
  some ⟨lerp a.x b.x t, lerp a.y b.y t⟩

/-- The shared points are blended; the tail comes from the newer snapshot. -/
def blendPoints (source target : List Position) (t : Option ℚ) : List Position :=
  let shared := min source.length target.length
  List.zipWith (blendPoint · · t) (source.take shared) (target.take shared) ++ target.drop shared

def blendSnake (older : Snapshot) (t : Option ℚ) (target : SnakeState) : InterpolatedSnake :=
  match byId older target.id with
  | none => verbatim target
  | some source =>
      { id := target.id
        nickname := target.nickname
        points := blendPoints source.points target.points t
        angle := do return lerpAngle (← source.angle) (← target.angle) (← t)
        radius := t.map (lerp source.radius target.radius)
        mass := t.map (lerp source.mass target.mass)
        boosting := target.boosting
        isBot := target.isBot }

/-- Blends two snapshots; food does not move. -/
def blend (older newer : Snapshot) (t : Option ℚ) : InterpolatedFrame where
  tick := newer.tick
  serverTime := t.map (lerp older.serverTime newer.serverTime)
  snakes := newer.snakes.map (blendSnake older t)
  food := newer.food
  stale := false

/-- The first two neighbours with the time between them. -/
def straddling (renderTime : ℚ) : List Snapshot → Option (Snapshot × Snapshot)
  | a :: b :: rest =>
      if a.serverTime ≤ renderTime ∧ renderTime ≤ b.serverTime then some (a, b)
      else straddling renderTime (b :: rest)
  | _ => none

/-- Samples the buffer; none is an empty one. -/
def sampleAt (buffer : SnapshotBuffer) (renderTime : ℚ) : Option InterpolatedFrame := do
  let newest ← buffer.snapshots.getLast?
  let oldest ← buffer.snapshots.head?
  if buffer.snapshots.length = 1 ∨ newest.serverTime ≤ renderTime then
    some (toFrame newest true)
  else if renderTime ≤ oldest.serverTime then some (toFrame oldest false)
  else
    let (older, newer) := (straddling renderTime buffer.snapshots).getD (oldest, newest)
    let span := nearest (newer.serverTime - older.serverTime)
    let t := if span ≤ 0 then some 1 else divide (nearest (renderTime - older.serverTime)) span
    some (blend older newer t)

/-! ### The times that are held -/

namespace SnapshotBuffer

def times (buffer : SnapshotBuffer) : List ℕ := buffer.snapshots.map (·.serverTime)

/-- The buffer holds the latest of the times that were seen, in order. -/
structure Holds (buffer : SnapshotBuffer) (seen : Finset ℕ) : Prop where
  ordered : buffer.times.Pairwise (· < ·)
  latest : buffer.times.toFinset = largest buffer.maxSize seen

/-- The index is within the list. -/
theorem insertionIndex_le (snapshots : List Snapshot) (time n : ℕ) :
    insertionIndex snapshots time n ≤ n := by
  induction n with
  | zero => exact le_refl 0
  | succ n ih =>
      unfold insertionIndex
      split_ifs
      · exact ih.trans (Nat.le_succ n)
      · exact le_refl _

/-- What the search passes is later. -/
theorem lt_of_insertionIndex {snapshots : List Snapshot} {time n i : ℕ} {s : Snapshot}
    (hi : insertionIndex snapshots time n ≤ i) (hin : i < n) (hs : snapshots[i]? = some s) :
    time < s.serverTime := by
  induction n with
  | zero => cases hin
  | succ n ih =>
      unfold insertionIndex at hi
      split_ifs at hi with hlater
      · rcases Nat.lt_succ_iff_lt_or_eq.mp hin with hin | rfl
        · exact ih hi hin
        · rw [hs] at hlater
          exact of_decide_eq_true hlater
      · omega

/-- What it stops at is not. -/
theorem le_of_insertionIndex {snapshots : List Snapshot} {time n : ℕ} {s : Snapshot}
    (hpos : 0 < insertionIndex snapshots time n)
    (hs : snapshots[insertionIndex snapshots time n - 1]? = some s) : s.serverTime ≤ time := by
  induction n with
  | zero => cases hpos
  | succ n ih =>
      unfold insertionIndex at hpos hs
      split_ifs at hpos hs with hlater
      · exact ih hpos hs
      · rw [Nat.add_sub_cancel] at hs
        rw [hs] at hlater
        simpa using hlater

/-- What stands after the index is later. -/
theorem lt_of_mem_drop {snapshots : List Snapshot} {time : ℕ} {s : Snapshot}
    (hs : s ∈ snapshots.drop (insertionIndex snapshots time snapshots.length)) :
    time < s.serverTime := by
  obtain ⟨i, hi⟩ := List.mem_iff_getElem?.mp hs
  rw [List.getElem?_drop] at hi
  exact lt_of_insertionIndex (Nat.le_add_right _ i) (List.getElem?_eq_some_iff.mp hi).1 hi

/-- What is before a time that is not held is earlier. -/
theorem lt_of_mem_take {snapshots : List Snapshot} {time : ℕ} {s : Snapshot}
    (h : (snapshots.map (·.serverTime)).Pairwise (· < ·))
    (hnew : ¬(0 < insertionIndex snapshots time snapshots.length ∧
      snapshots[insertionIndex snapshots time snapshots.length - 1]?.any (·.serverTime = time)))
    (hs : s ∈ snapshots.take (insertionIndex snapshots time snapshots.length)) :
    s.serverTime < time := by
  obtain ⟨i, hi⟩ := List.mem_iff_getElem?.mp hs
  rw [List.getElem?_take] at hi
  split_ifs at hi with hindex
  obtain ⟨hlast, rfl⟩ := List.getElem?_eq_some_iff.mp hi
  have hindexle := insertionIndex_le snapshots time snapshots.length
  have hle := @le_of_insertionIndex snapshots time snapshots.length
  set index := insertionIndex snapshots time snapshots.length
  have hstop : snapshots[index - 1].serverTime < time := by
    refine lt_of_le_of_ne (hle (by omega) (List.getElem?_eq_getElem (by omega))) fun heq =>
      hnew ⟨by omega, ?_⟩
    rw [List.getElem?_eq_getElem (by omega)]
    exact decide_eq_true heq
  rcases Nat.lt_or_ge i (index - 1) with hbefore | hsame
  · have hlt := List.pairwise_iff_getElem.mp h i (index - 1) (by simpa using hlast)
      (by simp; omega) hbefore
    simp only [List.getElem_map] at hlt
    exact hlt.trans hstop
  · obtain rfl : i = index - 1 := by omega
    exact hstop

theorem insertIdx_eq {α : Type*} (a : α) : ∀ (l : List α) (i : ℕ), i ≤ l.length →
    l.insertIdx i a = l.take i ++ a :: l.drop i
  | _, 0, _ => rfl
  | b :: l, i + 1, h => by
      rw [List.insertIdx_succ_cons, insertIdx_eq a l i (Nat.le_of_succ_le_succ h)]
      rfl

theorem Holds.create (maxSize : ℕ) : (createSnapshotBuffer maxSize).Holds ∅ :=
  ⟨List.Pairwise.nil, rfl⟩

/-- The size of a buffer is its own. -/
theorem pushSnapshot_maxSize (buffer : SnapshotBuffer) (snapshot : Snapshot) :
    (pushSnapshot buffer snapshot).maxSize = buffer.maxSize := by
  unfold pushSnapshot
  dsimp only
  split_ifs <;> rfl

/-- An arrival: its time is one more that was seen. -/
theorem Holds.push {buffer : SnapshotBuffer} {seen : Finset ℕ} (h : buffer.Holds seen)
    (snapshot : Snapshot) :
    (pushSnapshot buffer snapshot).Holds (insert snapshot.serverTime seen) := by
  unfold pushSnapshot
  dsimp only
  split_ifs with hdup
  · -- A duplicate is among the times that are held.
    obtain ⟨held, hheld, htime⟩ := (Option.any_eq_true _ _).mp hdup.2
    have hmem : snapshot.serverTime ∈ largest buffer.maxSize seen := by
      rw [← h.latest, List.mem_toFinset, ← of_decide_eq_true htime]
      exact List.mem_map_of_mem (List.mem_of_getElem? hheld)
    exact ⟨h.ordered, h.latest.trans (largest_insert_of_mem hmem).symm⟩
  · have hbefore := fun s => lt_of_mem_take (s := s) h.ordered hdup
    have hafter := fun s => @lt_of_mem_drop buffer.snapshots snapshot.serverTime s
    have hinsert := insertIdx_eq snapshot buffer.snapshots _
      (insertionIndex_le buffer.snapshots snapshot.serverTime buffer.snapshots.length)
    set index := insertionIndex buffer.snapshots snapshot.serverTime buffer.snapshots.length
    have hsplit : buffer.snapshots = buffer.snapshots.take index ++ buffer.snapshots.drop index :=
      (List.take_append_drop index buffer.snapshots).symm
    have hordered : ((buffer.snapshots.insertIdx index snapshot).map (·.serverTime)).Pairwise
        (· < ·) := by
      have htimes := List.pairwise_map.mp h.ordered
      rw [hsplit, List.pairwise_append] at htimes
      obtain ⟨htake, hdrop, hacross⟩ := htimes
      rw [List.pairwise_map, hinsert, List.pairwise_append, List.pairwise_cons]
      refine ⟨htake, ⟨hafter, hdrop⟩, fun a ha b hb => ?_⟩
      rcases List.mem_cons.mp hb with rfl | hb
      · exact hbefore a ha
      · exact hacross a ha b hb
    have hset : ((buffer.snapshots.insertIdx index snapshot).map (·.serverTime)).toFinset =
        insert snapshot.serverTime buffer.times.toFinset := by
      have hperm : (buffer.snapshots.insertIdx index snapshot).Perm
          (snapshot :: buffer.snapshots) := by
        rw [hinsert]
        conv_rhs => rw [hsplit]
        exact List.perm_middle
      rw [List.toFinset_eq_of_perm _ _ (hperm.map _), List.map_cons, List.toFinset_cons]
      rfl
    refine ⟨?_, ?_⟩
    · unfold times
      rw [List.map_drop]
      exact hordered.sublist (List.drop_sublist _ _)
    · unfold times
      rw [List.map_drop, ← List.length_map (·.serverTime), toFinset_drop hordered, hset, h.latest,
        largest_insert]

/-- **A buffer holds the latest of what arrived**, in any order of arrival. -/
theorem Holds.received (maxSize : ℕ) (arrivals : List Snapshot) :
    (received maxSize arrivals).Holds (arrivals.map (·.serverTime)).toFinset ∧
      (received maxSize arrivals).maxSize = maxSize := by
  have hfold : ∀ (arrivals : List Snapshot) (buffer : SnapshotBuffer) (seen : Finset ℕ),
      buffer.Holds seen → (arrivals.foldl pushSnapshot buffer).Holds
        (seen ∪ (arrivals.map (·.serverTime)).toFinset) ∧
          (arrivals.foldl pushSnapshot buffer).maxSize = buffer.maxSize := by
    intro arrivals
    induction arrivals with
    | nil => exact fun buffer seen h => ⟨by simpa using h, rfl⟩
    | cons snapshot arrivals ih =>
        intro buffer seen h
        obtain ⟨hholds, hsize⟩ := ih _ _ (h.push snapshot)
        refine ⟨?_, hsize.trans (pushSnapshot_maxSize buffer snapshot)⟩
        rw [Finset.insert_union, ← Finset.union_insert, ← List.toFinset_cons] at hholds
        exact hholds
  have hall := hfold arrivals _ _ (Holds.create maxSize)
  rwa [Finset.empty_union] at hall

end SnapshotBuffer

/-! ### What a blend is -/

/-- Between two numbers, but for the rounding. -/
def Near (a b t q : ℚ) : Prop :=
  |q - ((1 - t) * a + t * b)| ≤ max |a| |b| / 2 ^ 50 + 2 ^ (-1073 : ℤ)

/-- The least number that a rounding can miss by. -/
theorem least_pos : (0 : ℚ) < 2 ^ (-1075 : ℤ) := zpow_pos two_pos _

/-- The smallest quantum is far below what matters. -/
theorem least_small : (2 : ℚ) ^ (-1075 : ℤ) ≤ 1 / 2 ^ 60 := by
  have h : (2 : ℚ) ^ (-1075 : ℤ) ≤ 2 ^ (-60 : ℤ) := zpow_le_zpow_right₀ one_le_two (by norm_num)
  exact h.trans_eq (by norm_num)

/-- Three roundings, each of a number of the size of the ends. -/
theorem lerp_near (a b : ℚ) {t : ℚ} (h₀ : 0 ≤ t) (h₁ : t ≤ 1) : Near a b t (lerp a b t) := by
  have hleast : (2 : ℚ) ^ (-1073 : ℤ) = 4 * 2 ^ (-1075 : ℤ) := by
    rw [show (-1073 : ℤ) = 2 + -1075 by norm_num, zpow_add₀ two_ne_zero]
    norm_num
  have hspan := Double.nearest_error (b - a)
  have hpart := Double.nearest_error (nearest (b - a) * t)
  have hsum := Double.nearest_error (a + nearest (nearest (b - a) * t))
  have hpos := least_pos
  unfold Near lerp
  rw [hleast]
  generalize (2 : ℚ) ^ (-1075 : ℤ) = e at *
  generalize nearest (b - a) = d at *
  generalize nearest (d * t) = p at *
  have ha : |a| ≤ max |a| |b| := le_max_left _ _
  have hb : |b| ≤ max |a| |b| := le_max_right _ _
  set m := max |a| |b|
  have hm : 0 ≤ m := (abs_nonneg a).trans ha
  have hwidth : |b - a| ≤ 2 * m := (abs_sub b a).trans (by linarith)
  have hd : |d| ≤ |b - a| + |d - (b - a)| := by
    have h := abs_add_le (b - a) (d - (b - a))
    rwa [add_sub_cancel] at h
  have hdt : |d * t| ≤ |d| := by
    rw [abs_mul, abs_of_nonneg h₀]
    exact mul_le_of_le_one_right (abs_nonneg d) h₁
  have hdrift : |(d - (b - a)) * t| ≤ |d - (b - a)| := by
    rw [abs_mul, abs_of_nonneg h₀]
    exact mul_le_of_le_one_right (abs_nonneg _) h₁
  -- the exact blend is no larger than its ends
  have hexact : |(1 - t) * a + t * b| ≤ m := by
    have hla := mul_le_mul_of_nonneg_left ha (sub_nonneg.mpr h₁)
    have hlb := mul_le_mul_of_nonneg_left hb h₀
    calc |(1 - t) * a + t * b| ≤ |(1 - t) * a| + |t * b| := abs_add_le _ _
      _ = (1 - t) * |a| + t * |b| := by
          rw [abs_mul, abs_mul, abs_of_nonneg h₀, abs_of_nonneg (sub_nonneg.mpr h₁)]
      _ ≤ m := by linarith
  have hmoved : |a + p - ((1 - t) * a + t * b)| ≤ |p - d * t| + |(d - (b - a)) * t| := by
    refine le_of_eq_of_le (congrArg _ ?_) (abs_add_le _ _)
    ring
  have hsize : |a + p| ≤ m + |a + p - ((1 - t) * a + t * b)| := by
    have h := abs_add_le ((1 - t) * a + t * b) (a + p - ((1 - t) * a + t * b))
    rw [add_sub_cancel] at h
    linarith
  refine (abs_sub_le _ (a + p) _).trans ?_
  linarith

/-- The part of the way, of two roundings and a third. -/
theorem divide_close {x d : ℚ} (h₀ : 0 ≤ x) (hx : x ≤ d) (hd : 1 ≤ d) :
    ∃ t, divide (nearest x) (nearest d) = some t ∧ 0 ≤ t ∧ t ≤ 1 ∧ |d * t - x| ≤ d / 2 ^ 51 := by
  have hone : IsDouble 1 := by exact_mod_cast Double.isDouble_natCast (n := 1) (by norm_num)
  have hd' : 1 ≤ nearest d := hone.le_nearest hd
  have hpos : 0 < nearest d := one_pos.trans_le hd'
  have hx' : nearest x ≤ nearest d := Double.nearest_mono hx
  have hx₀ := Double.nearest_nonneg h₀
  have hratio₀ : 0 ≤ nearest x / nearest d := div_nonneg hx₀ hpos.le
  have hratio : nearest x / nearest d ≤ 1 := (div_le_one hpos).mpr hx'
  refine ⟨_, if_neg hpos.ne', Double.nearest_nonneg hratio₀, hone.nearest_le hratio, ?_⟩
  have hxe := Double.nearest_error x
  have hde := Double.nearest_relative hd
  have hte := Double.nearest_error (nearest x / nearest d)
  have hsmall := least_small
  have hleast := least_pos
  generalize (2 : ℚ) ^ (-1075 : ℤ) = e at *
  rw [abs_of_nonneg h₀] at hxe
  rw [abs_of_nonneg hratio₀] at hte
  generalize nearest (nearest x / nearest d) = t at *
  generalize nearest x = x' at *
  generalize nearest d = d' at *
  obtain ⟨hde₁, hde₂⟩ := abs_le.mp hde
  -- the quotient, against that of the numbers themselves
  have hquotient : |d * (x' / d') - x| ≤ d * (2 / 2 ^ 53 + e) * (1 + 2 / 2 ^ 53) := by
    have hcross : |d * x' - x * d'| ≤ d * (d * (2 / 2 ^ 53 + e)) := by
      have hsplit : d * x' - x * d' = d * (x' - x) - x * (d' - d) := by ring
      have h₁ : |d * (x' - x)| ≤ d * (x / 2 ^ 53 + e) := by
        rw [abs_mul, abs_of_nonneg (by linarith)]
        exact mul_le_mul_of_nonneg_left hxe (by linarith)
      have h₂ : |x * (d' - d)| ≤ x * (d / 2 ^ 53) := by
        rw [abs_mul, abs_of_nonneg h₀]
        exact mul_le_mul_of_nonneg_left hde h₀
      have h₃ : d * x ≤ d * d := mul_le_mul_of_nonneg_left hx (by linarith)
      have h₄ : d ≤ d * d := le_mul_of_one_le_left (by linarith) hd
      have h₅ : d * e ≤ d * d * e := mul_le_mul_of_nonneg_right h₄ hleast.le
      calc |d * x' - x * d'| ≤ |d * (x' - x)| + |x * (d' - d)| := by
            rw [hsplit]
            exact abs_sub _ _
        _ ≤ d * (d * (2 / 2 ^ 53 + e)) := by linarith
    have hscaled : d * (x' / d') - x = (d * x' - x * d') / d' := by
      field_simp
    rw [hscaled, abs_div, abs_of_pos hpos, div_le_iff₀ hpos]
    refine hcross.trans ?_
    have hwide : d ≤ (1 + 2 / 2 ^ 53) * d' := by linarith
    have hfactor : 0 ≤ d * (2 / 2 ^ 53 + e) := by positivity
    calc d * (d * (2 / 2 ^ 53 + e)) = d * (2 / 2 ^ 53 + e) * d := by ring
      _ ≤ d * (2 / 2 ^ 53 + e) * ((1 + 2 / 2 ^ 53) * d') := mul_le_mul_of_nonneg_left hwide hfactor
      _ = d * (2 / 2 ^ 53 + e) * (1 + 2 / 2 ^ 53) * d' := by ring
  have hrounded : |d * t - d * (x' / d')| ≤ d * (1 / 2 ^ 53 + e) := by
    rw [← mul_sub, abs_mul, abs_of_nonneg (by linarith)]
    exact mul_le_mul_of_nonneg_left (by linarith) (by linarith)
  have hslack : d * e ≤ d * (1 / 2 ^ 60) := mul_le_mul_of_nonneg_left hsmall (by linarith)
  refine (abs_sub_le _ (d * (x' / d')) _).trans ?_
  linarith

/-- Where the ends are close to each other, for their size, the roundings do not show. -/
theorem lerp_exact {a b r t : ℚ} (hr : IsDouble r) (hab : 1 ≤ b - a) (hclose : 32 * (b - a) ≤ r)
    (h₀ : 0 ≤ t) (h₁ : t ≤ 1) (ht : |(b - a) * t - (r - a)| ≤ (b - a) / 2 ^ 51) :
    lerp a b t = r := by
  have hspan := Double.nearest_relative hab
  have hpart := Double.nearest_error (nearest (b - a) * t)
  have hsmall := least_small
  refine Double.nearest_near hr (by linarith) ?_
  generalize (2 : ℚ) ^ (-1075 : ℤ) = e at *
  generalize nearest (b - a) = d at *
  generalize nearest (d * t) = p at *
  obtain ⟨hspan₁, hspan₂⟩ := abs_le.mp hspan
  have hdt : |d * t| ≤ d := by
    rw [abs_of_nonneg (mul_nonneg (by linarith) h₀)]
    exact mul_le_of_le_one_right (by linarith) h₁
  have hdrift : |(d - (b - a)) * t| ≤ |d - (b - a)| := by
    rw [abs_mul, abs_of_nonneg h₀]
    exact mul_le_of_le_one_right (abs_nonneg _) h₁
  calc |a + p - r| = |(p - d * t) + (d - (b - a)) * t + ((b - a) * t - (r - a))| := by
        congr 1
        ring
    _ ≤ |p - d * t| + |(d - (b - a)) * t| + |(b - a) * t - (r - a)| := abs_add_three _ _ _
    _ ≤ r / 2 ^ 55 := by linarith

/-- An angle on the short way from one to another, but for the rounding. -/
def NearArc (a b t q : ℚ) : Prop :=
  ∃ (delta : ℚ) (turns : ℤ), |delta| ≤ PI ∧
    |delta - (b - a - turns * (PI * 2))| ≤ (max |a| |b| + 4) / 2 ^ 50 ∧
    |q - (a + delta * t)| ≤ (max |a| |b| + 4) / 2 ^ 50

theorem isDouble_PI : IsDouble PI := by
  have h := Double.nearest_of_grid (n := 884279719003555) (e := -48) (by omega) (by norm_num)
  rwa [show ((884279719003555 : ℤ) : ℚ) * 2 ^ (-48 : ℤ) = PI by norm_num [PI]] at h

theorem PI_bounds : 3 < PI ∧ PI < 4 := by norm_num [PI]

/-- The remainder is off by whole turns, and below one. -/
theorem remainder_turns (x : ℚ) {y : ℚ} (hy : 0 < y) :
    ∃ turns : ℤ, remainder x y = x - turns * y ∧ |remainder x y| < y := by
  unfold remainder
  split_ifs with h
  · have hle := Int.floor_le (x / y)
    have hlt := Int.lt_floor_add_one (x / y)
    rw [le_div_iff₀ hy] at hle
    rw [div_lt_iff₀ hy] at hlt
    exact ⟨⌊x / y⌋, by ring, by rw [abs_lt]; constructor <;> linarith⟩
  · have hle := Int.le_ceil (x / y)
    have hlt := Int.ceil_lt_add_one (x / y)
    rw [div_le_iff₀ hy] at hle
    rw [← sub_lt_iff_lt_add, lt_div_iff₀ hy] at hlt
    exact ⟨⌈x / y⌉, by ring, by rw [abs_lt]; constructor <;> linarith⟩

/-- The short way, of a difference within a turn. -/
def shortWay (delta : ℚ) : ℚ :=
  let delta := if PI < delta then nearest (delta - PI * 2) else delta
  if delta < -PI then nearest (delta + PI * 2) else delta

/-- The short way differs from the difference by whole turns, up to rounding. -/
theorem shortWay_near {delta : ℚ} (h : |delta| < PI * 2) : |shortWay delta| ≤ PI ∧
    ∃ turns : ℤ, |shortWay delta - (delta - turns * (PI * 2))| ≤ 1 / 2 ^ 50 := by
  obtain ⟨hpi₃, hpi₄⟩ := PI_bounds
  obtain ⟨hbelow, habove⟩ := abs_lt.mp h
  have hneg : IsDouble (-PI) := by
    rw [IsDouble, Double.nearest_neg, isDouble_PI]
  have hzero : IsDouble 0 := Double.nearest_zero
  have hsmall := least_small
  -- what is left of a turn is rounded by the spacing of a number below 4
  have hleft : ∀ x : ℚ, |x| ≤ PI → |nearest x - x| ≤ 1 / 2 ^ 50 := fun x hx => by
    have herror := Double.nearest_error x
    linarith
  unfold shortWay
  dsimp only
  split_ifs with h₁ h₂ h₃
  · have hstay : -PI ≤ nearest (delta - PI * 2) := hneg.le_nearest (by linarith)
    exact absurd h₂ (not_lt.mpr hstay)
  · refine ⟨abs_le.mpr ⟨hneg.le_nearest (by linarith), ?_⟩, 1, ?_⟩
    · exact (hzero.nearest_le (by linarith)).trans (by linarith)
    · rw [Int.cast_one, one_mul]
      exact hleft _ (abs_le.mpr ⟨by linarith, by linarith⟩)
  · refine ⟨abs_le.mpr ⟨?_, isDouble_PI.nearest_le (by linarith)⟩, -1, ?_⟩
    · exact le_trans (by linarith) (hzero.le_nearest (by linarith))
    · rw [show delta - ((-1 : ℤ) : ℚ) * (PI * 2) = delta + PI * 2 by push_cast; ring]
      exact hleft _ (abs_le.mpr ⟨by linarith, by linarith⟩)
  · refine ⟨abs_le.mpr ⟨not_lt.mp h₃, not_lt.mp h₁⟩, 0, ?_⟩
    rw [Int.cast_zero, zero_mul, sub_zero, sub_self, abs_zero]
    positivity

/-- An angle on the way lies on the shorter arc, up to rounding. -/
theorem lerpAngle_near (a b : ℚ) {t : ℚ} (h₀ : 0 ≤ t) (h₁ : t ≤ 1) :
    NearArc a b t (lerpAngle a b t) := by
  obtain ⟨hpi₃, hpi₄⟩ := PI_bounds
  obtain ⟨turns, hturns, hlt⟩ := remainder_turns (nearest (b - a)) (y := PI * 2) (by linarith)
  obtain ⟨hshort, more, hmore⟩ := shortWay_near hlt
  have hangle : lerpAngle a b t =
      nearest (a + nearest (shortWay (remainder (nearest (b - a)) (PI * 2)) * t)) := rfl
  rw [hangle]
  refine ⟨shortWay (remainder (nearest (b - a)) (PI * 2)), turns + more, hshort, ?_, ?_⟩
  · have hspan := Double.nearest_error (b - a)
    have hwidth : |b - a| ≤ 2 * max |a| |b| :=
      (abs_sub b a).trans (by linarith [le_max_left |a| |b|, le_max_right |a| |b|])
    have hsmall := least_small
    have hm : 0 ≤ max |a| |b| := (abs_nonneg a).trans (le_max_left _ _)
    generalize shortWay (remainder (nearest (b - a)) (PI * 2)) = delta at *
    generalize remainder (nearest (b - a)) (PI * 2) = left at *
    have hsplit : delta - (b - a - ((turns + more : ℤ) : ℚ) * (PI * 2)) =
        (delta - (left - more * (PI * 2))) + (nearest (b - a) - (b - a)) := by
      rw [hturns]
      push_cast
      ring
    rw [hsplit]
    refine (abs_add_le _ _).trans ?_
    linarith
  · generalize shortWay (remainder (nearest (b - a)) (PI * 2)) = delta at *
    have hpart := Double.nearest_error (delta * t)
    have hsum := Double.nearest_error (a + nearest (delta * t))
    have hsmall := least_small
    have hdt : |delta * t| ≤ PI := by
      rw [abs_mul, abs_of_nonneg h₀]
      exact (mul_le_of_le_one_right (abs_nonneg delta) h₁).trans hshort
    generalize nearest (delta * t) = p at *
    have ha : |a| ≤ max |a| |b| := le_max_left _ _
    have hsize : |a + p| ≤ |a| + |delta * t| + |p - delta * t| := by
      rw [show a + p = a + delta * t + (p - delta * t) by ring]
      exact abs_add_three _ _ _
    have hmoved : |a + p - (a + delta * t)| = |p - delta * t| := by
      rw [add_sub_add_left_eq_sub]
    refine (abs_sub_le _ (a + p) _).trans ?_
    rw [hmoved]
    have ha₀ := abs_nonneg a
    linarith

/-- The point is on the segment between two, at a part of the way, but for the rounding; what is
not a number stays so. -/
def NearSegment (a b : Position) (t : ℚ) (p : Position) : Prop :=
  match a, b with
  | some a, some b => ∃ q, p = some q ∧ Near a.x b.x t q.x ∧ Near a.y b.y t q.y
  | _, _ => p = none

/-- A point on the way lies on the segment, up to rounding. -/
theorem blendPoint_near (a b : Position) {t : ℚ} (h₀ : 0 ≤ t) (h₁ : t ≤ 1) :
    NearSegment a b t (blendPoint a b (some t)) := by
  cases a with
  | none => rfl
  | some a =>
      cases b with
      | none => rfl
      | some b => exact ⟨_, rfl, lerp_near _ _ h₀ h₁, lerp_near _ _ h₀ h₁⟩

/-- A snake that both snapshots have: a part of the way between the two, and the rest of its tail
as it is in the newer. -/
structure Mixed (source : SnakeState) (t : ℚ) (target : SnakeState) (drawn : InterpolatedSnake) :
    Prop where
  same : drawn.id = target.id ∧ drawn.nickname = target.nickname ∧
    drawn.boosting = target.boosting ∧ drawn.isBot = target.isBot
  length : drawn.points.length = target.points.length
  shared : ∀ (i : ℕ) (a b : Position), source.points[i]? = some a → target.points[i]? = some b →
    ∃ p, drawn.points[i]? = some p ∧ NearSegment a b t p
  tail : ∀ i, source.points.length ≤ i → drawn.points[i]? = target.points[i]?
  angle : ∀ a b, source.angle = some a → target.angle = some b →
    ∃ q, drawn.angle = some q ∧ NearArc a b t q
  radius : ∃ q, drawn.radius = some q ∧ Near source.radius target.radius t q
  mass : ∃ q, drawn.mass = some q ∧ Near source.mass target.mass t q

/-- A snake of a blend; one that the older snapshot has not is as it is in the newer. -/
def Blended (older : Snapshot) (t : ℚ) (target : SnakeState) (drawn : InterpolatedSnake) : Prop :=
  match byId older target.id with
  | none => drawn = verbatim target
  | some source => Mixed source t target drawn

/-- A point of both bodies is blended. -/
theorem blendPoints_shared {source target : List Position} {t : Option ℚ} {i : ℕ}
    {a b : Position} (ha : source[i]? = some a) (hb : target[i]? = some b) :
    (blendPoints source target t)[i]? = some (blendPoint a b t) := by
  obtain ⟨hi, -⟩ := List.getElem?_eq_some_iff.mp ha
  obtain ⟨hi', -⟩ := List.getElem?_eq_some_iff.mp hb
  unfold blendPoints
  dsimp only
  rw [List.getElem?_append_left (by simp; omega), List.getElem?_zipWith,
    List.getElem?_take_of_lt (by omega), List.getElem?_take_of_lt (by omega), ha, hb]

/-- A point of the later body alone is drawn as it is. -/
theorem blendPoints_tail {source target : List Position} {t : Option ℚ} {i : ℕ}
    (hi : source.length ≤ i) : (blendPoints source target t)[i]? = target[i]? := by
  unfold blendPoints
  dsimp only
  rw [List.getElem?_append_right (by simp; omega), List.getElem?_drop]
  simp only [List.length_zipWith, List.length_take]
  rcases le_or_gt target.length i with hpast | hpast
  · rw [List.getElem?_eq_none (by omega), List.getElem?_eq_none hpast]
  · congr 1
    omega

/-- As many points are drawn as the later body has. -/
theorem blendPoints_length (source target : List Position) (t : Option ℚ) :
    (blendPoints source target t).length = target.length := by
  unfold blendPoints
  simp only [List.length_append, List.length_zipWith, List.length_take, List.length_drop]
  omega

/-- A snake is blended point by point, with its angle, radius and mass. -/
theorem blended_blendSnake (older : Snapshot) (target : SnakeState) {t : ℚ} (h₀ : 0 ≤ t)
    (h₁ : t ≤ 1) : Blended older t target (blendSnake older (some t) target) := by
  unfold blendSnake Blended
  cases byId older target.id with
  | none => rfl
  | some source =>
      refine ⟨⟨rfl, rfl, rfl, rfl⟩, blendPoints_length _ _ _, fun i a b ha hb => ?_,
        fun i hi => blendPoints_tail hi, fun a b ha hb => ?_,
        ⟨_, rfl, lerp_near _ _ h₀ h₁⟩, ⟨_, rfl, lerp_near _ _ h₀ h₁⟩⟩
      · exact ⟨_, blendPoints_shared ha hb, blendPoint_near a b h₀ h₁⟩
      · refine ⟨_, ?_, lerpAngle_near a b h₀ h₁⟩
        dsimp only
        rw [ha, hb]
        rfl

/-! ### The frame of a time -/

/-- The scan finds its interval. -/
theorem straddling_of_between {renderTime : ℚ} : ∀ {snapshots : List Snapshot}
    {oldest newest : Snapshot}, (snapshots.map (·.serverTime)).Pairwise (· < ·) →
    snapshots.head? = some oldest → snapshots.getLast? = some newest →
    oldest.serverTime ≤ renderTime → renderTime < newest.serverTime →
    ∃ (i : ℕ) (older newer : Snapshot), straddling renderTime snapshots = some (older, newer) ∧
      snapshots[i]? = some older ∧ snapshots[i + 1]? = some newer ∧
      older.serverTime ≤ renderTime ∧ renderTime ≤ newer.serverTime ∧
      older.serverTime < newer.serverTime
  | [], _, _, _, hhead, _, _, _ => by cases hhead
  | [a], oldest, newest, _, hhead, hlast, hle, hlt => by
      obtain rfl : a = oldest := Option.some.inj hhead
      obtain rfl : a = newest := Option.some.inj hlast
      exact absurd hlt (not_lt.mpr hle)
  | a :: b :: rest, oldest, newest, hordered, hhead, hlast, hle, hlt => by
      obtain rfl : a = oldest := Option.some.inj hhead
      obtain ⟨ha, hrest⟩ := List.pairwise_cons.mp hordered
      have hab : a.serverTime < b.serverTime := ha _ List.mem_cons_self
      unfold straddling
      split_ifs with hbetween
      · exact ⟨0, a, b, rfl, rfl, rfl, hbetween.1, hbetween.2, hab⟩
      · have hb : b.serverTime ≤ renderTime := by
          by_contra hb
          exact hbetween ⟨hle, (not_le.mp hb).le⟩
        obtain ⟨i, older, newer, hfound, holder, hnewer, h⟩ :=
          straddling_of_between hrest rfl (by rwa [List.getLast?_cons_cons] at hlast) hb hlt
        exact ⟨i + 1, older, newer, hfound, holder, hnewer, h⟩

/-- The frame of a blend: of two neighbours that straddle the time, the part of the way that the
time is.  Its own time is the time that is rendered but for the rounding, and exactly so where the
neighbours are close to each other for their age. -/
structure Between (older newer : Snapshot) (renderTime t : ℚ) (frame : InterpolatedFrame) :
    Prop where
  straddle : older.serverTime ≤ renderTime ∧ renderTime ≤ newer.serverTime
  part : 0 ≤ t ∧ t ≤ 1 ∧
    |t - (renderTime - older.serverTime) / (newer.serverTime - older.serverTime)| ≤ 1 / 2 ^ 51
  time : ∃ time, frame.serverTime = some time ∧ |time - renderTime| ≤ newer.serverTime / 2 ^ 49 ∧
    (IsDouble renderTime → 32 * (newer.serverTime - older.serverTime : ℚ) ≤ renderTime →
      time = renderTime)
  snakes : List.Forall₂ (Blended older t) newer.snakes frame.snakes
  rest : frame.tick = newer.tick ∧ frame.food = newer.food ∧ frame.stale = false

/-- The frame is the nearest end of the buffer, or between two neighbours. -/
inductive Samples (buffer : SnapshotBuffer) (renderTime : ℚ) : InterpolatedFrame → Prop where
  | newest {s : Snapshot} (hlast : buffer.snapshots.getLast? = some s)
      (hlate : buffer.snapshots = [s] ∨ s.serverTime ≤ renderTime) :
      Samples buffer renderTime (toFrame s true)
  | oldest {s : Snapshot} (hhead : buffer.snapshots.head? = some s)
      (hearly : renderTime ≤ s.serverTime) : Samples buffer renderTime (toFrame s false)
  | between {i : ℕ} {older newer : Snapshot} {t : ℚ} {frame : InterpolatedFrame}
      (holder : buffer.snapshots[i]? = some older) (hnewer : buffer.snapshots[i + 1]? = some newer)
      (hbetween : Between older newer renderTime t frame) : Samples buffer renderTime frame

/-- The blend of two neighbours is between them. -/
theorem between_blend {older newer : Snapshot} {renderTime : ℚ}
    (hle : older.serverTime ≤ renderTime) (hge : renderTime ≤ newer.serverTime)
    (hlt : older.serverTime < newer.serverTime) :
    ∃ t, (if nearest ((newer.serverTime : ℚ) - older.serverTime) ≤ 0 then some 1
        else divide (nearest (renderTime - older.serverTime))
          (nearest ((newer.serverTime : ℚ) - older.serverTime))) = some t ∧
      Between older newer renderTime t (blend older newer (some t)) := by
  have hspan : (1 : ℚ) ≤ newer.serverTime - older.serverTime := by
    have : (older.serverTime : ℚ) + 1 ≤ newer.serverTime := by exact_mod_cast hlt
    linarith
  have holder₀ : (0 : ℚ) ≤ older.serverTime := Nat.cast_nonneg _
  obtain ⟨t, ht, h₀, h₁, hpart⟩ := divide_close (sub_nonneg.mpr hle)
    (sub_le_sub_right hge (older.serverTime : ℚ)) hspan
  have hone : IsDouble 1 := by exact_mod_cast Double.isDouble_natCast (n := 1) (by norm_num)
  have hpos : ¬ nearest ((newer.serverTime : ℚ) - older.serverTime) ≤ 0 :=
    not_le.mpr (one_pos.trans_le (hone.le_nearest hspan))
  refine ⟨t, (if_neg hpos).trans ht, ⟨hle, hge⟩, ⟨h₀, h₁, ?_⟩, ⟨_, rfl, ?_, ?_⟩, ?_,
    ⟨rfl, rfl, rfl⟩⟩
  · have hpos : (0 : ℚ) < newer.serverTime - older.serverTime := by linarith
    rw [← mul_le_mul_iff_right₀ hpos, ← abs_of_pos hpos, ← abs_mul, abs_of_pos hpos, mul_sub,
      mul_div_cancel₀ _ hpos.ne']
    linarith
  · have hnear := lerp_near older.serverTime newer.serverTime h₀ h₁
    have hsize : max |(older.serverTime : ℚ)| |(newer.serverTime : ℚ)| = newer.serverTime := by
      rw [abs_of_nonneg holder₀, abs_of_nonneg (Nat.cast_nonneg _), max_eq_right (by linarith)]
    unfold Near at hnear
    rw [hsize] at hnear
    have hleast : (2 : ℚ) ^ (-1073 : ℤ) ≤ 1 / 2 ^ 60 :=
      (zpow_le_zpow_right₀ one_le_two (by norm_num : (-1073 : ℤ) ≤ -60)).trans_eq (by norm_num)
    have hexact : |(1 - t) * older.serverTime + t * newer.serverTime - renderTime| ≤
        ((newer.serverTime : ℚ) - older.serverTime) / 2 ^ 51 := by
      refine le_of_eq_of_le (congrArg _ ?_) hpart
      ring
    refine (abs_sub_le _ ((1 - t) * older.serverTime + t * newer.serverTime) _).trans ?_
    linarith
  · exact fun hr hclose => lerp_exact hr hspan hclose h₀ h₁ hpart
  · exact List.forall₂_map_right_iff.mpr (List.forall₂_same.mpr
      fun target _ => blended_blendSnake older target h₀ h₁)

/-- **A sample is drawn between the two snapshots that straddle its time.**. -/
theorem sampleAt_sound {buffer : SnapshotBuffer} (h : buffer.times.Pairwise (· < ·))
    (hne : buffer.snapshots ≠ []) (renderTime : ℚ) :
    ∃ frame, sampleAt buffer renderTime = some frame ∧ Samples buffer renderTime frame := by
  obtain ⟨newest, hlast⟩ : ∃ newest, buffer.snapshots.getLast? = some newest :=
    ⟨_, List.getLast?_eq_some_getLast hne⟩
  obtain ⟨oldest, hhead⟩ : ∃ oldest, buffer.snapshots.head? = some oldest :=
    ⟨_, List.head?_eq_some_head hne⟩
  unfold sampleAt
  rw [hlast, hhead]
  dsimp only [Option.bind_eq_bind, Option.bind_some]
  by_cases hnewest : buffer.snapshots.length = 1 ∨ (newest.serverTime : ℚ) ≤ renderTime
  · rw [if_pos hnewest]
    refine ⟨_, rfl, .newest hlast (hnewest.imp_left fun hone => ?_)⟩
    -- the one snapshot is both ends
    obtain ⟨s, hs⟩ := List.length_eq_one_iff.mp hone
    rw [hs] at hlast ⊢
    obtain rfl : s = newest := Option.some.inj hlast
    rfl
  rw [if_neg hnewest]
  by_cases holdest : renderTime ≤ oldest.serverTime
  · rw [if_pos holdest]
    exact ⟨_, rfl, .oldest hhead holdest⟩
  · rw [if_neg holdest]
    obtain ⟨i, older, newer, hfound, holder, hnewer, hle, hge, hlt⟩ :=
      straddling_of_between h hhead hlast (not_le.mp holdest).le
        (not_le.mp fun hle => hnewest (.inr hle))
    obtain ⟨t, ht, hbetween⟩ := between_blend hle hge hlt
    rw [hfound, Option.getD_some]
    dsimp only
    rw [ht]
    exact ⟨_, rfl, .between holder hnewer hbetween⟩

/-- **Buffering is in order of time, whatever order snapshots arrive in**: the buffer holds the
latest distinct times that were seen, as many as it has room for.  A frame that is sampled from it
is its nearest end, or a blend of the two neighbours that straddle the time that is rendered: each
of their numbers a part of the way, and its own time that time, but for the rounding. -/
theorem buffer_sound (maxSize : ℕ) (hsize : 1 ≤ maxSize) :
    (∀ arrivals : List Snapshot, (received maxSize arrivals).times.Pairwise (· < ·) ∧
      (received maxSize arrivals).times.toFinset =
        largest maxSize (arrivals.map (·.serverTime)).toFinset) ∧
    (∀ arrivals arrivals' : List Snapshot,
      (arrivals.map (·.serverTime)).toFinset = (arrivals'.map (·.serverTime)).toFinset →
        (received maxSize arrivals).times = (received maxSize arrivals').times) ∧
    ∀ (arrivals : List Snapshot) (renderTime : ℚ), arrivals ≠ [] →
      ∃ frame, sampleAt (received maxSize arrivals) renderTime = some frame ∧
        Samples (received maxSize arrivals) renderTime frame := by
  have hholds : ∀ arrivals : List Snapshot, (received maxSize arrivals).times.Pairwise (· < ·) ∧
      (received maxSize arrivals).times.toFinset =
        largest maxSize (arrivals.map (·.serverTime)).toFinset := by
    intro arrivals
    obtain ⟨h, hmax⟩ := SnapshotBuffer.Holds.received maxSize arrivals
    have hlatest := h.latest
    rw [hmax] at hlatest
    exact ⟨h.ordered, hlatest⟩
  refine ⟨hholds, fun arrivals arrivals' hset => ?_, fun arrivals renderTime hne => ?_⟩
  · refine eq_of_toFinset (hholds arrivals).1 (hholds arrivals').1 ?_
    rw [(hholds arrivals).2, (hholds arrivals').2, hset]
  · refine sampleAt_sound (hholds arrivals).1 (fun hempty => ?_) renderTime
    have hlatest := (hholds arrivals).2
    rw [SnapshotBuffer.times, hempty] at hlatest
    refine absurd hlatest.symm (largest_nonempty hsize ?_).ne_empty
    exact List.toFinset_nonempty_iff _ |>.mpr (mt List.map_eq_nil_iff.mp hne)

/-- A snapshot of one snake, at a time and a place. -/
def seenAt (serverTime : ℕ) (x : ℚ) : Snapshot :=
  ⟨0, serverTime, 0, [⟨"a", "a", [some ⟨x, 0⟩], some 0, 10, 8, false, none, false⟩], [], [], []⟩

/-- Snapshots out of order, one of them after the eviction of its neighbour. -/
def lateArrivals : List Snapshot := [seenAt 30 3, seenAt 10 1, seenAt 40 4, seenAt 20 2]

theorem buffer_sound_late :
    (received 2 lateArrivals).times = [30, 40] ∧
    (received 2 lateArrivals).times = (received 2 lateArrivals.reverse).times ∧
    ∃ frame, sampleAt (received 2 lateArrivals) 35 = some frame ∧
      Samples (received 2 lateArrivals) 35 frame := by
  obtain ⟨-, hset, hsample⟩ := buffer_sound 2 (by omega)
  exact ⟨by decide, hset _ _ (by decide), hsample _ 35 (List.cons_ne_nil _ _)⟩

/-- Between 0 and 49, the frame that is rendered at 1 is of a bit before. -/
theorem sampling_rounds :
    (sampleAt (received 2 [seenAt 0 0, seenAt 49 1]) 1).map (·.serverTime) =
      some (some (9007199254740991 / 9007199254740992)) ∧
    (9007199254740991 / 9007199254740992 : ℚ) ≠ 1 := by
  refine ⟨?_, by norm_num⟩
  decide +kernel

end SnakeArena.Web
