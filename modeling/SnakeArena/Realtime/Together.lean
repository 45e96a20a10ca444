import SnakeArena.Realtime.Survival

/-!
# Realtime — knocked out together

Those who go out for the first time in one tick of a room.  `buildResult` has score, kills and id
for two of them, but the counter of a room has no ties (`filter_standings`): they stand in the
reverse of the order in which the tick recorded them.

* `ranked_by_merit_iff`: they are ordered by merit where the tick records the lesser first.
-/

namespace SnakeArena.Realtime
open SnakeArena.Library SnakeArena.Worker

/-! ### Who goes out together -/

/-- A player who is out, with the figures of that moment. -/
structure Knockout where
  playerId : ℕ
  figures : Figures
deriving DecidableEq

/-- The higher score, the more kills, the lesser id. -/
def Knockout.outranks (a b : Knockout) : Prop :=
  b.figures.score < a.figures.score ∨ a.figures.score = b.figures.score ∧
    (b.figures.kills < a.figures.kills ∨ a.figures.kills = b.figures.kills ∧
      a.playerId ≤ b.playerId)

instance : DecidableRel Knockout.outranks := fun a b => by
  unfold Knockout.outranks
  infer_instance

instance : Std.Total Knockout.outranks where
  total a b := by
    unfold Knockout.outranks
    omega

instance : IsTrans Knockout Knockout.outranks where
  trans a b c hab hbc := by
    unfold Knockout.outranks at *
    omega

instance : Std.Antisymm Knockout.outranks where
  antisymm a b hab hba := by
    obtain ⟨a, ⟨score, kills⟩⟩ := a
    obtain ⟨b, ⟨score', kills'⟩⟩ := b
    simp only [Knockout.outranks] at hab hba
    obtain rfl : a = b := by omega
    obtain rfl : score = score' := by omega
    obtain rfl : kills = kills' := by omega
    rfl

namespace LiveRoom

/-- Who goes out for the first time in a tick, in the order that the room records them: the deaths
as the collision pass visits the snakes, and then the seats whose grace window is over. -/
def knockouts (graceMs : ℕ) (room : LiveRoom) : RoomEvent → List Knockout
  | .tick nowMs motion =>
      let first := (room.goesOut graceMs (.tick nowMs motion)).filter fun playerId =>
        (room.eliminations.get playerId).isNone
      first.reverse.dedup.reverse.map fun playerId =>
        ⟨playerId, ((room.tick graceMs nowMs motion).finalScores.get playerId).getD ⟨0, 0⟩⟩
  | _ => []

/-- Those of each tick of a run. -/
def ties (graceMs : ℕ) (room : LiveRoom) : List RoomEvent → List (List Knockout)
  | [] => []
  | e :: es => room.knockouts graceMs e :: ties graceMs (room.after graceMs e) es

end LiveRoom

/-! ### The order of the record -/

section Lists
variable {α : Type*}

theorem dedup_filter [DecidableEq α] (p : α → Bool) (l : List α) :
    (l.filter p).dedup = l.dedup.filter p := by
  induction l with
  | nil => rfl
  | cons a l ih =>
      by_cases ha : p a = true
      · rw [List.filter_cons_of_pos ha]
        by_cases hmem : a ∈ l
        · rw [List.dedup_cons_of_mem (List.mem_filter.mpr ⟨hmem, ha⟩),
            List.dedup_cons_of_mem hmem, ih]
        · rw [List.dedup_cons_of_notMem fun h => hmem (List.mem_filter.mp h).1,
            List.dedup_cons_of_notMem hmem, List.filter_cons_of_pos ha, ih]
      · rw [List.filter_cons_of_neg ha, ih]
        by_cases hmem : a ∈ l
        · rw [List.dedup_cons_of_mem hmem]
        · rw [List.dedup_cons_of_notMem hmem, List.filter_cons_of_neg ha]

/-- Of everything that comes first somewhere, what comes first in the middle. -/
theorem filter_dedup_reverse [DecidableEq α] {before between after first : List α}
    (hfirst : first = between.filter (· ∉ before)) :
    (before ++ (between ++ after)).reverse.dedup.filter (· ∈ first) = first.reverse.dedup := by
  have hbefore : before.reverse.filter (· ∈ first) = [] := by
    refine List.filter_eq_nil_iff.mpr fun a ha => ?_
    rw [hfirst, decide_eq_true_eq, List.mem_filter, decide_eq_true_eq]
    exact fun h => h.2 (List.mem_reverse.mp ha)
  have hbetween : between.reverse.filter (· ∈ first) = first.reverse := by
    rw [List.filter_reverse, hfirst]
    refine congrArg List.reverse (List.filter_congr fun a ha => ?_)
    rw [decide_eq_decide, List.mem_filter, decide_eq_true_eq]
    exact and_iff_right ha
  rw [← dedup_filter, List.reverse_append, List.reverse_append, List.filter_append,
    List.filter_append, hbefore, hbetween, List.append_nil, List.Subset.dedup_append_right]
  intro a ha
  exact List.mem_reverse.mpr (of_decide_eq_true (List.mem_filter.mp ha).2)

/-- Of one key each, a list is known from its keys. -/
theorem eq_of_map_eq {β : Type*} {key : α → β} {l l' : List α} (hperm : l.Perm l')
    (hnodup : (l.map key).Nodup) (h : l.map key = l'.map key) : l = l' := by
  refine List.ext_getElem hperm.length_eq fun i hi hi' => ?_
  refine List.inj_on_of_nodup_map hnodup (List.getElem_mem hi)
    (hperm.mem_iff.mpr (List.getElem_mem hi')) ?_
  have hkey := congrArg (·[i]?) h
  simpa only [List.getElem?_map, List.getElem?_eq_getElem hi, List.getElem?_eq_getElem hi',
    Option.map_some, Option.some.injEq] using hkey

end Lists

/-- What is sorted backwards is in the order of its reverse. -/
theorem reverse_eq_insertionSort_iff {α : Type*} {r : α → α → Prop} [DecidableRel r] [Std.Total r]
    [IsTrans α r] [Std.Antisymm r] (l : List α) :
    l.reverse = l.insertionSort r ↔ l.Pairwise fun a b => r b a := by
  rw [← List.pairwise_reverse]
  constructor
  · intro h
    rw [h]
    exact List.pairwise_insertionSort r l
  · intro h
    exact ((List.reverse_perm l).trans (List.perm_insertionSort r l).symm).eq_of_pairwise
      (fun a b _ _ hab hba => Std.Antisymm.antisymm a b hab hba) h (List.pairwise_insertionSort r l)

namespace LiveRoom
variable {room : LiveRoom} {sat out : List ℕ} {graceMs : ℕ}

/-- Of a tick, the ids are of those who go out and were not out before. -/
theorem knockouts_ids (h : room.Tracks sat out) (graceMs : ℕ) (e : RoomEvent) :
    (∃ first, first = (room.goesOut graceMs e).filter (· ∉ out) ∧
      ((room.knockouts graceMs e).map (·.playerId)).reverse = first.reverse.dedup) ∨
      room.knockouts graceMs e = [] := by
  cases e with
  | tick nowMs motion =>
      refine .inl ⟨_, rfl, ?_⟩
      have hfirst : (room.goesOut graceMs (.tick nowMs motion)).filter (fun playerId =>
          (room.eliminations.get playerId).isNone) =
          (room.goesOut graceMs (.tick nowMs motion)).filter (· ∉ out) := by
        refine List.filter_congr fun p _ => ?_
        rw [Bool.eq_iff_iff, decide_eq_true_eq, ← h.eliminated, Option.isNone_iff_eq_none,
          Option.not_isSome_iff_eq_none]
      rw [knockouts, List.map_map, hfirst, List.map_reverse, List.reverse_reverse]
      exact List.map_id' _
  | join | leave | disconnect | respawn | drain | close => exact .inr rfl

/-- **Ties are in the reverse of the order in which a tick recorded them.** -/
theorem filter_outs (graceMs : ℕ) (es : List RoomEvent) : ∀ {room : LiveRoom} {sat out : List ℕ},
    room.Tracks sat out → ∀ tied ∈ room.ties graceMs es,
      ((out ++ room.outs graceMs es).reverse.dedup.filter (· ∈ tied.map (·.playerId)) =
        (tied.map (·.playerId)).reverse ∧
      ∀ p ∈ tied.map (·.playerId), p ∈ out ++ room.outs graceMs es) := by
  induction es with
  | nil => exact fun _ tied htied => absurd htied List.not_mem_nil
  | cons e es ih =>
      intro room sat out h tied htied
      rw [ties, List.mem_cons] at htied
      rw [outs]
      rcases htied with rfl | htied
      · rcases knockouts_ids h graceMs e with ⟨first, hfirst, hids⟩ | hnone
        · have hmem : ∀ p, p ∈ (room.knockouts graceMs e).map (·.playerId) ↔ p ∈ first := by
            intro p
            rw [← List.mem_reverse, hids, List.mem_dedup, List.mem_reverse]
          refine ⟨?_, fun p hp => ?_⟩
          · rw [hids, ← filter_dedup_reverse hfirst]
            exact List.filter_congr fun p _ => decide_eq_decide.mpr (hmem p)
          · rw [hmem, hfirst] at hp
            exact List.mem_append_right _ (List.mem_append_left _ (List.mem_filter.mp hp).1)
        · rw [hnone]
          exact ⟨by simp, fun p hp => absurd hp List.not_mem_nil⟩
      · have hrest := ih (after_tracks h graceMs e) tied htied
        rwa [List.append_assoc] at hrest

end LiveRoom

section Runs
variable (graceMs : ℕ) (roomId : String) (gameId : Option ℕ) (es : List RoomEvent)

theorem filter_standings {tied : List Knockout}
    (htied : tied ∈ (LiveRoom.opened roomId gameId).ties graceMs es) :
    (((LiveRoom.opened roomId gameId).play graceMs es).standings.map (·.playerId)).filter
      (· ∈ tied.map (·.playerId)) = (tied.map (·.playerId)).reverse := by
  have h := LiveRoom.play_tracks graceMs es (LiveRoom.opened_tracks roomId gameId)
  obtain ⟨hfilter, hout⟩ := LiveRoom.filter_outs graceMs es
    (LiveRoom.opened_tracks roomId gameId) tied htied
  obtain ⟨survivors, hstandings, hsurvivors⟩ := Room.standings_order h
  have hnone : survivors.filter (· ∈ tied.map (·.playerId)) = [] := by
    refine List.filter_eq_nil_iff.mpr fun p hp hmem => ?_
    have hnot := (List.mem_filter.mp (hsurvivors.mem_iff.mp hp)).2
    rw [decide_eq_true_eq] at hnot hmem
    exact hnot (hout p hmem)
  rw [hstandings, List.filter_append, hnone, List.nil_append]
  exact hfilter

/-- Nobody goes out twice in one tick. -/
theorem tied_nodup {tied : List Knockout}
    (htied : tied ∈ (LiveRoom.opened roomId gameId).ties graceMs es) :
    (tied.map (·.playerId)).Nodup := by
  rw [← List.nodup_reverse, ← (LiveRoom.filter_outs graceMs es
    (LiveRoom.opened_tracks roomId gameId) tied htied).1]
  exact (List.nodup_dedup _).filter _

/-- **Those who are knocked out together are ranked by merit** exactly where the tick recorded the
lesser of each two first. -/
theorem ranked_by_merit_iff (nodeId : String) (now game : ℕ) :
    (∀ tied ∈ (LiveRoom.opened roomId gameId).ties graceMs es,
      ((((LiveRoom.opened roomId gameId).play graceMs es).buildResult nodeId now game).standings.map
        (·.playerId)).filter (· ∈ tied.map (·.playerId)) =
          (tied.insertionSort Knockout.outranks).map (·.playerId)) ↔
      ∀ tied ∈ (LiveRoom.opened roomId gameId).ties graceMs es,
        tied.Pairwise fun earlier later => later.outranks earlier := by
  refine forall₂_congr fun tied htied => ?_
  have hfilter := filter_standings graceMs roomId gameId es htied
  change (((LiveRoom.opened roomId gameId).play graceMs es).standings.map _).filter _ = _ ↔ _
  rw [hfilter, ← reverse_eq_insertionSort_iff, ← List.map_reverse]
  refine ⟨fun hids => ?_, fun h => by rw [h]⟩
  refine eq_of_map_eq ((List.reverse_perm tied).trans (List.perm_insertionSort _ tied).symm) ?_ hids
  rw [List.map_reverse, List.nodup_reverse]
  exact tied_nodup graceMs roomId gameId es htied

end Runs

/-- A tick in which everybody leaves the world, player 1 with the higher score. -/
def everyone : Motion := ⟨fun p => if p = 1 then 50 else 10, fun _ => true, fun _ => [], 5000⟩

/-- Player 1 spawned first and so is visited first: the higher score is ranked below. -/
theorem ranked_by_visit : ¬ ∀ (graceMs : ℕ) (roomId : String) (gameId : Option ℕ)
    (es : List RoomEvent) (nodeId : String) (now game : ℕ),
    ∀ tied ∈ (LiveRoom.opened roomId gameId).ties graceMs es,
      ((((LiveRoom.opened roomId gameId).play graceMs es).buildResult nodeId now game).standings.map
        (·.playerId)).filter (· ∈ tied.map (·.playerId)) =
          (tied.insertionSort Knockout.outranks).map (·.playerId) := fun h => by
  have := h 30000 "duel" (some 3) [.join 1, .join 2, .tick 0 everyone] "node-1" 0 3
    [⟨1, ⟨50, 0⟩⟩, ⟨2, ⟨10, 0⟩⟩] (by decide)
  revert this
  decide

end SnakeArena.Realtime
