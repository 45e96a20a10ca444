import SnakeArena.Protocol.Vantage
import SnakeArena.Realtime.Broadcast

/-!
# Web — the snapshot handler

`game/engine.ts` decodes a snapshot about the point that the camera shows.  The room encoded it
about the head of the viewer's snake, or about the middle of the world (`viewOrigin`), and neither
tells the other.

* `sees_world_iff`: the positions that a client has are those of the world, to the quarter unit,
  where the camera is at that point, or nothing is in view.
-/

namespace SnakeArena.Web
open SnakeArena.Library SnakeArena.Game SnakeArena.Protocol SnakeArena.Realtime
open Borsh Buffers

/-- The hot path is a buffer; the other form only appears in development. -/
inductive SnapshotPayload where
  | buffer (bytes : Bytes)
  | json (snapshot : Snapshot)

/-- What the handler takes the snapshot for. -/
def onSnapshot (camera : Vec) : SnapshotPayload → Except RangeError Snapshot
  | .buffer payload => decodeSnapshot payload camera
  | .json payload => .ok payload

/-! ### Seeing the world -/

/-- The client has `q` for `p`: within the window, to the nearest quarter unit from the origin. -/
def Shows (origin p q : Position) : Prop :=
  ∀ o ∈ origin, ∀ v ∈ p, InWindow o v → q = some (toQuarter o v)

/-- What the client has, record by record, is what was sent. -/
structure Sees (origin : Position) (sent seen : Snapshot) : Prop where
  snakes : List.Forall₂ (fun snake snake' => List.Forall₂ (Shows origin) snake.points snake'.points)
    sent.snakes seen.snakes
  food : List.Forall₂ (fun food food' => Shows origin food.position food'.position)
    sent.food seen.food

/-- Every position of a snapshot. -/
def positions (snapshot : Snapshot) : List Position :=
  snapshot.snakes.flatMap (·.points) ++ snapshot.food.map (·.position)

/-- Seen from elsewhere, no position within the window is where it is. -/
theorem shows_seenPoint_iff {origin : Position} {camera : Vec} {p : Position} :
    Shows origin p (seenPoint origin camera p) ↔
      origin = some camera ∨ ∀ o ∈ origin, ∀ v ∈ p, ¬ InWindow o v := by
  constructor
  · intro h
    by_contra hcon
    push Not at hcon
    obtain ⟨hne, o, rfl, v, rfl, hwindow⟩ := hcon
    have hseen := h o rfl v rfl hwindow
    rw [seenPoint_window camera hwindow, Option.some.injEq] at hseen
    have hx := congrArg Vec.x hseen
    have hy := congrArg Vec.y hseen
    dsimp only at hx hy
    refine hne (congrArg some ?_)
    obtain ⟨ox, oy⟩ := o
    obtain ⟨cx, cy⟩ := camera
    dsimp only at hx hy
    congr 1 <;> linarith
  · rintro (rfl | hnone) o ho v hv hwindow
    · obtain rfl := Option.mem_some_iff.mp ho
      obtain rfl := Option.mem_def.mp hv
      rw [seenPoint_window camera hwindow, sub_self, sub_self, add_zero, add_zero]
    · exact absurd hwindow (hnone o ho v hv)

/-- The records of a client show the world where each position does. -/
theorem sees_iff {origin : Position} {camera : Vec} {sent seen : Snapshot}
    (hsnakes : seen.snakes = sent.snakes.map (seenSnake origin camera))
    (hfood : seen.food = sent.food.map (seenFood origin camera)) :
    Sees origin sent seen ↔ ∀ p ∈ positions sent, Shows origin p (seenPoint origin camera p) := by
  have hpoints : ∀ points : List Position,
      List.Forall₂ (Shows origin) points (points.map (seenPoint origin camera)) ↔
        ∀ p ∈ points, Shows origin p (seenPoint origin camera p) := fun points => by
    rw [List.forall₂_map_right_iff, List.forall₂_same]
  constructor
  · intro h p hp
    have hs := h.snakes
    have hf := h.food
    rw [hsnakes, List.forall₂_map_right_iff, List.forall₂_same] at hs
    rw [hfood, List.forall₂_map_right_iff, List.forall₂_same] at hf
    rcases List.mem_append.mp hp with hp | hp
    · obtain ⟨snake, hsnake, hp⟩ := List.mem_flatMap.mp hp
      exact (hpoints snake.points).mp (hs snake hsnake) p hp
    · obtain ⟨food, hmem, rfl⟩ := List.mem_map.mp hp
      exact hf food hmem
  · intro h
    constructor
    · rw [hsnakes, List.forall₂_map_right_iff, List.forall₂_same]
      exact fun snake hsnake => (hpoints snake.points).mpr fun p hp =>
        h p (List.mem_append_left _ (List.mem_flatMap.mpr ⟨snake, hsnake, hp⟩))
    · rw [hfood, List.forall₂_map_right_iff, List.forall₂_same]
      exact fun food hmem => h _ (List.mem_append_right _ (List.mem_map_of_mem hmem))

/-! ### What a viewer sees -/

section
variable (uuid : ℕ → String) (world : WorldState) (recentlyRemoved : List ℕ) (seat : Viewer)

theorem nickname_fits {nickname : String} (h : nickname.length ≤ 16) :
    (Utf8.encode nickname.toList).length ≤ 255 := by
  have hunits : Utf8.utf16Length nickname.toList ≤ nickname.toList.length • 2 := by
    rw [Utf8.utf16Length, ← List.length_map (f := Utf8.units)]
    refine List.sum_le_card_nsmul _ 2 fun n hn => ?_
    obtain ⟨c, -, rfl⟩ := List.mem_map.mp hn
    unfold Utf8.units
    split_ifs <;> omega
  have hencode := Utf8.length_encode nickname.toList
  rw [smul_eq_mul, String.length_toList] at hunits
  omega

theorem snapshotFor_fits (h : ∀ snake ∈ world.snakes.values, snake.nickname.length ≤ 16) :
    ∀ snake ∈ (snapshotFor uuid world recentlyRemoved seat).snakes, FitsSnake snake := by
  intro snake hsnake
  obtain ⟨entity, hentity, rfl⟩ := List.mem_map.mp hsnake
  refine ⟨nickname_fits (h entity (List.mem_filter.mp hentity).1), ?_⟩
  have hpoints : (toSnakeState uuid entity).points.length = min entity.spineLength 120 := by
    rw [toSnakeState, List.length_map, List.length_range]
  omega

/-- **Clients see the server's world** where the camera is at the point that the room encodes about,
or no position in view can be told. -/
theorem sees_world_iff (camera : Vec)
    (hnickname : ∀ snake ∈ world.snakes.values, snake.nickname.length ≤ 16) :
    (∃ bytes seen, snapshotMessage uuid world recentlyRemoved seat = .ok bytes ∧
      onSnapshot camera (.buffer bytes) = .ok seen ∧
      Sees (viewOrigin world seat.playerId) (snapshotFor uuid world recentlyRemoved seat) seen) ↔
    ((snapshotFor uuid world recentlyRemoved seat).snakes.length ≤ 65535 ∧
      (snapshotFor uuid world recentlyRemoved seat).food.length ≤ 65535) ∧
    (viewOrigin world seat.playerId = some camera ∨
      ∀ p ∈ positions (snapshotFor uuid world recentlyRemoved seat),
        ∀ o ∈ viewOrigin world seat.playerId, ∀ v ∈ p, ¬ InWindow o v) := by
  have hfits := snapshotFor_fits uuid world recentlyRemoved seat hnickname
  generalize hsent : snapshotFor uuid world recentlyRemoved seat = sent at hfits ⊢
  generalize horigin : viewOrigin world seat.playerId = origin
  have hmessage : snapshotMessage uuid world recentlyRemoved seat =
      .ok (snapshotBytes sent ⟨origin, false⟩) := by
    rw [snapshotMessage, hsent, horigin, encodeSnapshot_eq]
  -- what is seen of the records, once the counts fit
  have hshown : sent.snakes.length ≤ 65535 → sent.food.length ≤ 65535 → ∃ seen,
      onSnapshot camera (.buffer (snapshotBytes sent ⟨origin, false⟩)) = .ok seen ∧
        (Sees origin sent seen ↔
          origin = some camera ∨ ∀ p ∈ positions sent, ∀ o ∈ origin, ∀ v ∈ p, ¬ InWindow o v) := by
    intro hsnakes hfood
    obtain ⟨seen, hseen, hsnakes, hfood⟩ :=
      decode_records ⟨origin, false⟩ camera hsnakes hfood hfits
    refine ⟨seen, hseen, ?_⟩
    rw [sees_iff hsnakes hfood]
    simp only [shows_seenPoint_iff]
    by_cases heq : origin = some camera <;> simp [heq]
  constructor
  · rintro ⟨bytes, seen, hbytes, hseen, hsees⟩
    obtain rfl := Except.ok.inj (hmessage.symm.trans hbytes)
    obtain ⟨hcount, hcount'⟩ := decode_counts ⟨origin, false⟩ camera hseen
    have hsnakes := hsees.snakes.length_eq
    have hfood := hsees.food.length_eq
    have hle : sent.snakes.length ≤ 65535 := by omega
    have hle' : sent.food.length ≤ 65535 := by omega
    obtain ⟨seen', hseen', hiff⟩ := hshown hle hle'
    obtain rfl := Except.ok.inj (hseen.symm.trans hseen')
    exact ⟨⟨hle, hle'⟩, hiff.mp hsees⟩
  · rintro ⟨⟨hle, hle'⟩, hplace⟩
    obtain ⟨seen, hseen, hiff⟩ := hshown hle hle'
    exact ⟨_, seen, hmessage, hseen, hiff.mpr hplace⟩

end

/-- Player 1 has just spawned at (1000, 0). -/
def spawned : WorldState where
  tick := 1
  elapsedMs := 33
  snakes := .set .empty 7
    (.fresh ⟨fun _ => 3, fun _ => 1, fun _ => 0, fun _ _ => 0⟩ 7 1 "alice" false
    0 ⟨1000, 0⟩ 0)
  food := .empty
  playerIndex := .set .empty 1 7
  pendingInputs := .empty
  nextEntityId := 8
  radius := 3000
  random := 0

theorem spawned_nickname : ∀ snake ∈ spawned.snakes.values, snake.nickname.length ≤ 16 := by
  intro snake hsnake
  obtain rfl := List.mem_singleton.mp hsnake
  decide

theorem sees_world_followed : ∃ bytes seen,
    snapshotMessage (fun _ => aliceId) spawned [] ⟨1, createAoiView⟩ = .ok bytes ∧
      onSnapshot ⟨1000, 0⟩ (.buffer bytes) = .ok seen ∧
      Sees (viewOrigin spawned 1) (snapshotFor (fun _ => aliceId) spawned [] ⟨1, createAoiView⟩)
        seen :=
  (sees_world_iff (fun _ => aliceId) spawned [] ⟨1, createAoiView⟩ ⟨1000, 0⟩ spawned_nickname).mpr
    ⟨by decide +kernel, .inl (by decide +kernel)⟩

/-- The camera is still where it was created: the head of the viewer's own snake is a thousand units
off. -/
theorem sees_world_created : ¬ ∀ (uuid : ℕ → String) (world : WorldState)
    (recentlyRemoved : List ℕ) (seat : Viewer) (camera : Vec),
    (∀ snake ∈ world.snakes.values, snake.nickname.length ≤ 16) → ∃ bytes seen,
      snapshotMessage uuid world recentlyRemoved seat = .ok bytes ∧
        onSnapshot camera (.buffer bytes) = .ok seen ∧
        Sees (viewOrigin world seat.playerId)
          (snapshotFor uuid world recentlyRemoved seat) seen := by
  intro hclaim
  obtain ⟨bytes, seen, hbytes, hseen, hsees⟩ :=
    hclaim (fun _ => aliceId) spawned [] ⟨1, createAoiView⟩ ⟨0, 0⟩ spawned_nickname
  rw [snapshotMessage, encodeSnapshot_eq] at hbytes
  obtain rfl := Except.ok.inj hbytes
  obtain ⟨seen', hseen', hsnakes, hfood⟩ := decode_records
    ⟨viewOrigin spawned 1, false⟩ ⟨0, 0⟩ (by decide +kernel) (by decide +kernel)
    (snapshotFor_fits (fun _ => aliceId) spawned [] ⟨1, createAoiView⟩ spawned_nickname)
  obtain rfl := Except.ok.inj (hseen.symm.trans hseen')
  have hshows := (sees_iff hsnakes hfood).mp hsees (some ⟨1000, 0⟩) (by decide +kernel)
  rcases shows_seenPoint_iff.mp hshows with heq | hnone
  · exact absurd heq (by decide +kernel)
  · refine hnone ⟨1000, 0⟩ (by decide +kernel) ⟨1000, 0⟩ rfl ⟨?_, ?_⟩ <;>
      norm_num [POSITION_RANGE, POSITION_SCALE]

end SnakeArena.Web
