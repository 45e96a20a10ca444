import SnakeArena.Game.Drops
import SnakeArena.Game.Inputs
import SnakeArena.Realtime.PlayRoom

/-!
# Realtime — what is left of a snake

A run of a room, and beside it what each scattering of a snake has left (`Drop`).  A snake is
scattered when it dies and when its player is removed, so that one that lies dead when its player
leaves, or is evicted, is scattered twice; one that is respawned over is not.  No more than six
tenths of a snake are left, in any run, exactly when no player is removed while their snake lies
dead (`scattered_once`).
-/

namespace SnakeArena.Realtime
open SnakeArena.Library SnakeArena.Game

/-- What happens in a started room. -/
inductive RoomAct where
  | addPlayer (playerId socketId : ℕ) (nickname : String)
  | markDisconnected (playerId nowMs : ℕ)
  | removePlayer (playerId : ℕ)
  | setShadowbanned (playerId : ℕ) (value : Bool)
  | applyInput (playerId : ℕ) (command : InputCommand)
  | respawn (playerId : ℕ)
  | tick (nowMs : ℕ)
  | drain
  | close

namespace PlayRoom

def after (config : RoomConfig) (maths : Maths) (room : PlayRoom) : RoomAct → PlayRoom
  | .addPlayer playerId socketId nickname => room.addPlayer maths playerId socketId nickname
  | .markDisconnected playerId nowMs => room.markDisconnected playerId nowMs
  | .removePlayer playerId => room.removePlayer config maths playerId
  | .setShadowbanned playerId value => room.setShadowbanned playerId value
  | .applyInput playerId command => room.applyInput playerId command
  | .respawn playerId => room.respawn config maths playerId
  | .tick nowMs => room.tick config maths nowMs
  | .drain => room.drain
  | .close => room.close

end PlayRoom

/-- A room, and what has been dropped in it. -/
structure Remains where
  room : PlayRoom
  drops : List Drop

namespace Remains
variable (config : RoomConfig) (maths : Maths)

def remove (l : Remains) (playerId : ℕ) : Remains :=
  match l.room.seats.get playerId with
  | none => l
  | some _ =>
      { room := l.room.removePlayer config maths playerId
        drops := l.drops ++ despawnDrops config.game maths l.room.world playerId }

/-- The player's disconnect has expired. -/
def Expired (room : PlayRoom) (nowMs playerId : ℕ) : Prop :=
  ∃ disconnectedAtMs, (room.seats.get playerId).bind (·.disconnectedAtMs) = some disconnectedAtMs ∧
    disconnectedAtMs + config.graceMs ≤ nowMs

def evictOne (nowMs : ℕ) (l : Remains) (playerId : ℕ) : Remains :=
  match (l.room.seats.get playerId).bind (·.disconnectedAtMs) with
  | none => l
  | some disconnectedAtMs =>
      if disconnectedAtMs + config.graceMs ≤ nowMs then l.remove config maths playerId else l

/-- After the step of a tick, before anyone is evicted. -/
def stepped (l : Remains) : Remains where
  room := { l.room with world := (step config.game maths l.room.world).1 }
  drops := l.drops ++ stepDrops config.game maths l.room.world

def tick (l : Remains) (nowMs : ℕ) : Remains :=
  if l.room.status = .active ∨ l.room.status = .draining then
    l.room.seats.keys.foldl (evictOne config maths nowMs) (l.stepped config maths)
  else l

def after (l : Remains) : RoomAct → Remains
  | .removePlayer playerId => l.remove config maths playerId
  | .tick nowMs => l.tick config maths nowMs
  | act => { l with room := l.room.after config maths act }

def Step (l : Remains) (act : RoomAct) (l' : Remains) : Prop := l.after config maths act = l'

/-- Of no snake more than six tenths of its mass is dropped, when it died or when it left. -/
def Bounded (l : Remains) : Prop :=
  ∀ d ∈ l.drops, ((l.drops.filter (·.snake = d.snake)).map (·.dropped)).sum ≤ d.mass * (6 / 10)

instance (l : Remains) : Decidable l.Bounded := inferInstanceAs (Decidable (∀ d ∈ _, _))

/-- A player who is removed has no snake that lies dead. -/
def CleanOne (l : Remains) (playerId : ℕ) : Prop :=
  (l.room.seats.get playerId).isSome = true → ∀ id s,
    l.room.world.playerIndex.get playerId = some id → l.room.world.snakes.get id = some s →
      s.alive = true

/-- None of those who are evicted, each when it is their turn. -/
def CleanAll (nowMs : ℕ) : List ℕ → Remains → Prop
  | [], _ => True
  | playerId :: playerIds, l => (Expired config l.room nowMs playerId → l.CleanOne playerId) ∧
      CleanAll nowMs playerIds (l.evictOne config maths nowMs playerId)

/-- No player is removed while their snake lies dead. -/
def Clean (l : Remains) : RoomAct → Prop
  | .removePlayer playerId => l.CleanOne playerId
  | .tick nowMs => (l.room.status = .active ∨ l.room.status = .draining) →
      CleanAll config maths nowMs l.room.seats.keys (l.stepped config maths)
  | _ => True

end Remains

/-! ### Six tenths, once -/

/-- Of no snake more than six tenths are dropped exactly when each is scattered once. -/
theorem bounded_iff {l : Remains} (hwhole : ∀ d ∈ l.drops, d.Whole) :
    l.Bounded ↔ (l.drops.map (·.snake)).Nodup := by
  constructor
  · intro h
    rw [List.nodup_iff_count_le_one]
    intro id
    by_cases hmem : id ∈ l.drops.map (·.snake)
    · obtain ⟨d, hd, rfl⟩ := List.mem_map.mp hmem
      have hfilter : d ∈ l.drops.filter (·.snake = d.snake) := by simpa using hd
      have hperm := List.perm_cons_erase hfilter
      have hsum := (hperm.map (·.dropped)).sum_eq
      rw [List.map_cons, List.sum_cons, (hwhole d hd).2] at hsum
      have hrest := h d hd
      -- what else is dropped of it is positive
      cases hothers : (l.drops.filter (·.snake = d.snake)).erase d with
      | nil =>
          rw [hothers] at hperm
          rw [List.count_eq_countP, List.countP_map, List.countP_eq_length_filter]
          exact hperm.length_eq.le
      | cons d' others =>
          have hpos : ∀ d ∈ d' :: others, 0 < d.dropped := fun e he => by
            obtain ⟨hmass, hdropped⟩ :=
              hwhole e (List.mem_filter.mp (List.mem_of_mem_erase (hothers ▸ he))).1
            rw [hdropped]
            linarith
          have := List.sum_pos ((d' :: others).map (·.dropped)) (List.forall_mem_map.mpr hpos)
            (by simp)
          rw [hothers] at hsum
          linarith
    · rw [List.count_eq_zero.mpr hmem]
      exact Nat.zero_le 1
  · intro hnodup d hd
    have hfilter : l.drops.filter (·.snake = d.snake) = [d] := by
      obtain ⟨before, after, heq⟩ := List.append_of_mem hd
      rw [heq, List.map_append, List.map_cons, List.nodup_append, List.nodup_cons] at hnodup
      obtain ⟨-, ⟨hafter, -⟩, hbefore⟩ := hnodup
      have hbefore' : before.filter (·.snake = d.snake) = [] :=
        List.filter_eq_nil_iff.mpr fun e he => by
          simpa using hbefore _ (List.mem_map_of_mem he) _ (.head _)
      have hafter' : after.filter (·.snake = d.snake) = [] :=
        List.filter_eq_nil_iff.mpr fun e he => by
          simpa using fun h => hafter (List.mem_map.mpr ⟨e, he, h⟩)
      rw [heq, List.filter_append, List.filter_cons_of_pos (by simp), hbefore', hafter',
        List.nil_append]
    rw [hfilter, List.map_singleton, List.sum_singleton, (hwhole d hd).2]

/-! ### The world of a room -/

section Worlds
variable {game : SimulationConfig} {maths : Maths} {w w' w'' : WorldState} {ds : List Drop}
  {playerId : ℕ}

/-- Every drop is whole and of an id given out, and whoever lies dead has been scattered. -/
structure Logged (maths : Maths) (w : WorldState) (ds : List Drop) : Prop where
  sound : w.Sound maths
  whole : ∀ d ∈ ds, d.Whole
  issued : ∀ d ∈ ds, d.snake < w.nextEntityId
  dead : ∀ id s, w.snakes.get id = some s → s.alive = false → id ∈ ds.map (·.snake)

/-- Nobody has been scattered twice, and the living not at all. -/
structure Once (w : WorldState) (ds : List Drop) : Prop where
  nodup : (ds.map (·.snake)).Nodup
  living : ∀ id, lives w id = true → id ∉ ds.map (·.snake)

/-- Nobody dies: the snakes were there before, or have just come. -/
structure Quiet (w w' : WorldState) : Prop where
  nextEntityId : w.nextEntityId ≤ w'.nextEntityId
  snakes : ∀ id s, w'.snakes.get id = some s →
    w.snakes.get id = some s ∨ w.nextEntityId ≤ id ∧ s.alive = true

theorem Quiet.refl (w : WorldState) : Quiet w w := ⟨le_rfl, fun _ _ => .inl⟩

/-- What two quiet steps leave. -/
theorem Quiet.trans (h : Quiet w w') (h' : Quiet w' w'') : Quiet w w'' where
  nextEntityId := h.nextEntityId.trans h'.nextEntityId
  snakes id s hs := by
    rcases h'.snakes id s hs with hs | ⟨hle, halive⟩
    · exact h.snakes id s hs
    · exact .inr ⟨h.nextEntityId.trans hle, halive⟩

/-- A spawn adds nothing to what is left of the dead. -/
theorem quiet_spawnSnake (w : WorldState) (playerId : ℕ) (nickname : String) (isBot : Bool) :
    Quiet w (spawnSnake maths w playerId nickname isBot) := by
  obtain ⟨-, h⟩ | ⟨-, position, angle, random, h⟩ :=
    WorldState.spawnSnake_cases maths w playerId nickname isBot
  · rw [h]
    exact .refl w
  · rw [h]
    refine ⟨Nat.le_succ _, fun id s hs => ?_⟩
    dsimp only at hs
    rw [OrderedMap.get_set] at hs
    split at hs
    next hid =>
      obtain rfl := Option.some.inj hs
      exact .inr ⟨hid.ge, rfl⟩
    · exact .inl hs

/-- Nor does a despawn, without its mass. -/
theorem quiet_despawnSnake (w : WorldState) (playerId : ℕ) (scatter : Bool) :
    Quiet w (despawnSnake maths game w playerId scatter) := by
  obtain h | ⟨id, v, -, hfeeds, h⟩ := WorldState.despawnSnake_cases maths game w playerId scatter
  · rw [h]
    exact .refl w
  · rw [h]
    refine ⟨hfeeds.nextEntityId, fun id' s hs => .inl ?_⟩
    dsimp only at hs
    rw [OrderedMap.get_delete] at hs
    split at hs
    · cases hs
    · exact (hfeeds.snakes_eq id').symm.trans hs

/-- Nor does an input. -/
theorem quiet_enqueueInput (w : WorldState) (playerId : ℕ) (command : InputCommand) :
    Quiet w (enqueueInput w playerId command) := by
  unfold enqueueInput
  split
  · exact .refl w
  · exact ⟨le_rfl, fun _ _ => .inl⟩

/-- What was scattered was scattered of the dead. -/
theorem Logged.quiet (h : Logged maths w ds) (hq : Quiet w w') (hsound : w'.Sound maths) :
    Logged maths w' ds where
  sound := hsound
  whole := h.whole
  issued d hd := (h.issued d hd).trans_le hq.nextEntityId
  dead id s hs hdead := by
    rcases hq.snakes id s hs with hs | ⟨-, halive⟩
    · exact h.dead id s hs hdead
    · rw [hdead] at halive
      cases halive

/-- What was scattered once stays so. -/
theorem Once.quiet (h : Once w ds) (hlogged : Logged maths w ds) (hq : Quiet w w') :
    Once w' ds where
  nodup := h.nodup
  living id hid hmem := by
    obtain ⟨s, hs, halive⟩ := (Option.any_eq_true _ _).mp hid
    rcases hq.snakes id s hs with hs | ⟨hle, -⟩
    · exact h.living id ((Option.any_eq_true _ _).mpr ⟨s, hs, halive⟩) hmem
    · obtain ⟨d, hd, rfl⟩ := List.mem_map.mp hmem
      exact absurd (hlogged.issued d hd) hle.not_gt

/-- The dead of a step are scattered in it. -/
theorem Logged.step (h : Logged maths w ds) (game : SimulationConfig) :
    Logged maths (step game maths w).1 (ds ++ stepDrops game maths w) := by
  obtain ⟨-, hwhole, hfell, -⟩ := step_falls game h.sound
  have hevolves := @WorldState.step_evolves maths game w
  refine ⟨h.sound.step game, List.forall_mem_append.mpr ⟨h.whole, hwhole⟩,
    List.forall_mem_append.mpr ⟨fun d hd => (h.issued d hd).trans_le hevolves.nextEntityId,
      fun d hd => ?_⟩, fun id s' hs' hdead => ?_⟩
  · have hlives := ((hfell d.snake).mp (List.mem_map_of_mem hd)).1
    obtain ⟨s, hs, -⟩ := (Option.any_eq_true _ _).mp hlives
    exact (h.sound.snakes _ s hs).2.1.trans_le hevolves.nextEntityId
  · rw [List.map_append, List.mem_append]
    obtain ⟨s, hs, -⟩ := hevolves.back hs'
    cases halive : s.alive with
    | false => exact .inl (h.dead id s hs halive)
    | true =>
        refine .inr ((hfell id).mpr ⟨(Option.any_eq_true _ _).mpr ⟨s, hs, halive⟩, ?_⟩)
        rw [lives, hs', Option.any_some, hdead]

/-- **A step scatters each of its dead once.**. -/
theorem Once.step (h : Once w ds) (hw : w.Sound maths) (game : SimulationConfig) :
    Once (step game maths w).1 (ds ++ stepDrops game maths w) := by
  obtain ⟨hnodup, -, hfell, hlived⟩ := step_falls game hw
  constructor
  · rw [List.map_append]
    refine h.nodup.append hnodup fun id hid hnew => ?_
    exact h.living id ((hfell id).mp hnew).1 hid
  · intro id hid
    rw [List.map_append, List.mem_append]
    rintro (hold | hnew)
    · exact h.living id (hlived id hid) hold
    · rw [((hfell id).mp hnew).2] at hid
      cases hid

/-- A player who has a snake leaves the drop of it. -/
theorem despawnDrops_cases (game : SimulationConfig) (hw : w.Sound maths) (playerId : ℕ) :
    w.playerIndex.get playerId = none ∧ despawnDrops game maths w playerId = [] ∨
      ∃ id s d, w.playerIndex.get playerId = some id ∧ w.snakes.get id = some s ∧
        despawnDrops game maths w playerId = [d] ∧ d.snake = id ∧ d.Whole ∧
        lives (despawnSnake maths game w playerId true) id = false := by
  unfold despawnDrops
  cases hid : w.playerIndex.get playerId with
  | none => exact .inl ⟨rfl, rfl⟩
  | some id =>
      obtain ⟨s, hs, -⟩ := hw.entry hid
      obtain ⟨hown, -, hsound⟩ := hw.snakes id s hs
      refine .inr ⟨id, s, dropOf game maths w s, rfl, hs, ?_, hown,
        dropOf_whole (issued_of_sound hw) hsound.mass, ?_⟩
      · rw [Option.bind_some, hs]
      · unfold despawnSnake lives
        rw [hid]
        dsimp only
        rw [OrderedMap.get_delete, if_pos rfl]
        rfl

/-- A despawn scatters, and is logged. -/
theorem Logged.despawn (h : Logged maths w ds) (game : SimulationConfig) (playerId : ℕ) :
    Logged maths (despawnSnake maths game w playerId true)
      (ds ++ despawnDrops game maths w playerId) := by
  have hquiet := h.quiet (quiet_despawnSnake w playerId true)
    (h.sound.despawnSnake game playerId true)
  obtain ⟨-, heq⟩ | ⟨id, s, d, -, hs, heq, rfl, hwhole, -⟩ :=
    despawnDrops_cases game h.sound playerId
  · rwa [heq, List.append_nil]
  · rw [heq]
    refine ⟨hquiet.sound, List.forall_mem_append.mpr ⟨h.whole, by simpa using hwhole⟩,
      List.forall_mem_append.mpr ⟨hquiet.issued, ?_⟩, fun id s hs hdead => ?_⟩
    · simpa using (h.sound.snakes d.snake s hs).2.1.trans_le
        (quiet_despawnSnake w playerId true).nextEntityId
    · rw [List.map_append]
      exact List.mem_append_left _ (hquiet.dead id s hs hdead)

/-- It scatters for the first time if the snake was alive. -/
theorem Once.despawn (h : Once w ds) (hlogged : Logged maths w ds) (game : SimulationConfig)
    (hclean : ∀ id s, w.playerIndex.get playerId = some id → w.snakes.get id = some s →
      s.alive = true) :
    Once (despawnSnake maths game w playerId true) (ds ++ despawnDrops game maths w playerId) := by
  have hquiet := h.quiet hlogged (@quiet_despawnSnake game maths w playerId true)
  obtain ⟨-, heq⟩ | ⟨id, s, d, hid, hs, heq, rfl, -, hgone⟩ :=
    despawnDrops_cases game hlogged.sound playerId
  · rwa [heq, List.append_nil]
  · rw [heq]
    have halive : lives w d.snake = true :=
      (Option.any_eq_true _ _).mpr ⟨s, hs, hclean d.snake s hid hs⟩
    constructor
    · rw [List.map_append]
      exact h.nodup.append (List.nodup_singleton _)
        (List.disjoint_singleton.mpr (h.living _ halive))
    · intro id' hid'
      rw [List.map_append, List.mem_append, List.map_singleton, List.mem_singleton]
      rintro (hold | rfl)
      · exact hquiet.living id' hid' hold
      · rw [hgone] at hid'
        cases hid'

/-- One that lies dead is scattered again. -/
theorem Logged.clean (h : Logged maths w ds) (game : SimulationConfig)
    (hnodup : ((ds ++ despawnDrops game maths w playerId).map (·.snake)).Nodup) :
    ∀ id s, w.playerIndex.get playerId = some id → w.snakes.get id = some s →
      s.alive = true := by
  intro id s hid hs
  obtain ⟨hnone, -⟩ | ⟨id', s', d, hid', hs', heq, rfl, -, -⟩ :=
    despawnDrops_cases game h.sound playerId
  · rw [hnone] at hid
    cases hid
  · obtain rfl := Option.some.inj (hid'.symm.trans hid)
    rw [heq, List.map_append, List.map_singleton, List.nodup_append] at hnodup
    by_contra hdead
    exact hnodup.2.2 _ (h.dead d.snake s hs (by simpa using hdead)) _ (.head _) rfl

end Worlds

/-! ### The room -/

namespace Remains

/-- What an operation notes: if nobody was scattered twice before, nobody is exactly when it is
clean. -/
structure Notes (maths : Maths) (l l' : Remains) (clean : Prop) : Prop where
  logged : Logged maths l'.room.world l'.drops
  grown : ∃ ds, l'.drops = l.drops ++ ds
  once : Once l.room.world l.drops → clean → Once l'.room.world l'.drops
  clean : (l'.drops.map (·.snake)).Nodup → clean

variable {config : RoomConfig} {maths : Maths} {l l' l'' : Remains} {clean clean' : Prop}

/-- What two steps note, one after the other. -/
theorem Notes.trans (h : Notes maths l l' clean) (h' : Notes maths l' l'' clean') :
    Notes maths l l'' (clean ∧ clean') where
  logged := h'.logged
  grown := by
    obtain ⟨ds, hds⟩ := h.grown
    obtain ⟨ds', hds'⟩ := h'.grown
    exact ⟨ds ++ ds', by rw [hds', hds, List.append_assoc]⟩
  once honce hclean := h'.once (h.once honce hclean.1) hclean.2
  clean hnodup := by
    refine ⟨h.clean ?_, h'.clean hnodup⟩
    obtain ⟨ds', hds'⟩ := h'.grown
    rw [hds', List.map_append] at hnodup
    exact hnodup.of_append_left

/-- Nobody is scattered, and nobody dies. -/
theorem notes_quiet {room : PlayRoom} (h : Logged maths l.room.world l.drops)
    (hquiet : Quiet l.room.world room.world) (hsound : room.world.Sound maths) :
    Notes maths l { l with room } True where
  logged := h.quiet hquiet hsound
  grown := ⟨[], (List.append_nil _).symm⟩
  once honce _ := honce.quiet h hquiet
  clean _ := trivial

/-- A step that scatters nothing. -/
theorem notes_refl (h : Logged maths l.room.world l.drops) (hclean : clean) :
    Notes maths l l clean :=
  ⟨h, ⟨[], (List.append_nil _).symm⟩, fun honce _ => honce, fun _ => hclean⟩

/-- A player is removed, with the mass of their snake. -/
theorem notes_remove (config : RoomConfig) (h : Logged maths l.room.world l.drops)
    (playerId : ℕ) : Notes maths l (l.remove config maths playerId) (l.CleanOne playerId) := by
  unfold remove PlayRoom.removePlayer CleanOne
  cases hseat : l.room.seats.get playerId with
  | none => exact notes_refl h nofun
  | some seat =>
      exact ⟨h.despawn config.game playerId, ⟨_, rfl⟩,
        fun honce hclean => honce.despawn h config.game (hclean rfl),
        fun hnodup _ => h.clean config.game hnodup⟩

/-- One seat of the evictions. -/
theorem notes_evictOne (config : RoomConfig) (h : Logged maths l.room.world l.drops)
    (nowMs playerId : ℕ) : Notes maths l (l.evictOne config maths nowMs playerId)
      (Expired config l.room nowMs playerId → l.CleanOne playerId) := by
  unfold evictOne Expired
  split
  next hnone =>
    rw [hnone]
    exact notes_refl h (by rintro ⟨_, ⟨⟩, _⟩)
  next disconnectedAtMs hsome =>
    rw [hsome]
    split_ifs with hexpired
    · obtain ⟨hlogged, hgrown, honce, hclean⟩ := notes_remove config h playerId
      exact ⟨hlogged, hgrown, fun hl hc => honce hl (hc ⟨_, rfl, hexpired⟩),
        fun hnodup _ => hclean hnodup⟩
    · refine notes_refl h ?_
      rintro ⟨_, ⟨⟩, hle⟩
      exact absurd hle hexpired

/-- The loop over the seats. -/
theorem notes_evicts (config : RoomConfig) (nowMs : ℕ) (playerIds : List ℕ) : ∀ {l : Remains},
    Logged maths l.room.world l.drops →
      Notes maths l (playerIds.foldl (evictOne config maths nowMs) l)
        (CleanAll config maths nowMs playerIds l) := by
  induction playerIds with
  | nil => exact fun h => notes_refl h trivial
  | cons playerId playerIds ih =>
      intro l h
      have hone := notes_evictOne config h nowMs playerId
      exact hone.trans (ih hone.logged)

/-- A step of the world, and then the evictions. -/
theorem notes_tick (config : RoomConfig) (h : Logged maths l.room.world l.drops) (nowMs : ℕ) :
    Notes maths l (l.tick config maths nowMs) (l.Clean config maths (.tick nowMs)) := by
  unfold tick Clean
  split_ifs with hrunning
  · have hstepped : Notes maths l (l.stepped config maths) True :=
      ⟨h.step config.game, ⟨_, rfl⟩, fun honce _ => honce.step h.sound config.game,
        fun _ => trivial⟩
    obtain ⟨hlogged, hgrown, honce, hclean⟩ :=
      hstepped.trans (notes_evicts config nowMs l.room.seats.keys hstepped.logged)
    exact ⟨hlogged, hgrown, fun hl hc => honce hl ⟨trivial, hc hrunning⟩,
      fun hnodup _ => (hclean hnodup).2⟩
  · exact notes_refl h fun hr => absurd hr hrunning

/-- **One step.**  Only removing a player, and a tick, scatter anyone. -/
theorem notes_after (config : RoomConfig) (h : Logged maths l.room.world l.drops) (act : RoomAct) :
    Notes maths l (l.after config maths act) (l.Clean config maths act) := by
  cases act with
  | addPlayer playerId socketId nickname =>
      refine notes_quiet h ?_ ?_ <;> unfold PlayRoom.after PlayRoom.addPlayer <;>
        dsimp only <;> split
      · exact .refl _
      · exact quiet_spawnSnake _ _ _ _
      · exact h.sound
      · exact h.sound.spawnSnake playerId nickname false
  | markDisconnected playerId nowMs => exact notes_quiet h (.refl _) h.sound
  | removePlayer playerId => exact notes_remove config h playerId
  | setShadowbanned playerId value => exact notes_quiet h (.refl _) h.sound
  | applyInput playerId command =>
      refine notes_quiet h ?_ ?_ <;> unfold PlayRoom.after PlayRoom.applyInput <;>
        dsimp only <;> split
      · exact .refl _
      · split_ifs
        · exact .refl _
        · exact quiet_enqueueInput _ _ _
      · exact h.sound
      · split_ifs
        · exact h.sound
        · exact h.sound.enqueueInput playerId command
  | respawn playerId =>
      refine notes_quiet h ?_ ?_ <;> unfold PlayRoom.after PlayRoom.respawn <;> dsimp only <;> split
      · exact .refl _
      · exact (quiet_despawnSnake _ _ _).trans (quiet_spawnSnake _ _ _ _)
      · exact h.sound
      · exact (h.sound.despawnSnake config.game playerId false).spawnSnake playerId _ false
  | tick nowMs => exact notes_tick config h nowMs
  | drain => exact notes_quiet h (.refl _) h.sound
  | close => exact notes_quiet h (.refl _) h.sound

/-- **Any run** is clean when nobody is scattered twice. -/
theorem notes_run (h : Logged maths l.room.world l.drops) {acts : List RoomAct}
    (hrun : Run (Step config maths) l acts l') :
    Notes maths l l' (Run (Guarded (Step config maths) (Clean config maths)) l acts l') := by
  induction hrun with
  | nil l => exact notes_refl h (.nil l)
  | @cons l l₁ l' act acts hstep _ ih =>
      obtain rfl : l.after config maths act = l₁ := hstep
      have hone := notes_after config h act
      obtain ⟨hlogged, hgrown, honce, hclean⟩ := hone.trans (ih hone.logged)
      refine ⟨hlogged, hgrown, fun hl hguarded => honce hl ?_, fun hnodup => ?_⟩
      · obtain _ | ⟨⟨rfl, hact⟩, hrest⟩ := hguarded
        exact ⟨hact, hrest⟩
      · obtain ⟨hact, hrest⟩ := hclean hnodup
        exact .cons ⟨rfl, hact⟩ hrest

/-! ### The room of the notes -/

/-- What is noted is beside the room. -/
theorem remove_room (config : RoomConfig) (maths : Maths) (l : Remains) (playerId : ℕ) :
    (l.remove config maths playerId).room = l.room.removePlayer config maths playerId := by
  unfold remove PlayRoom.removePlayer
  cases l.room.seats.get playerId <;> rfl

/-- Noting what is dropped changes nothing. -/
theorem after_room (config : RoomConfig) (maths : Maths) (act : RoomAct) (l : Remains) :
    (l.after config maths act).room = l.room.after config maths act := by
  cases act with
  | removePlayer playerId => exact remove_room config maths l playerId
  | tick nowMs =>
      unfold after PlayRoom.after tick PlayRoom.tick PlayRoom.evictExpiredDisconnects
      dsimp only
      split_ifs
      · refine (@List.foldl_hom _ _ _ Remains.room (evictOne config maths nowMs) _
          l.room.seats.keys (l.stepped config maths) fun l playerId => ?_).symm
        unfold evictOne
        cases (l.room.seats.get playerId).bind (·.disconnectedAtMs) with
        | none => rfl
        | some disconnectedAtMs =>
            dsimp only
            split_ifs
            · exact (remove_room config maths l playerId).symm
            · rfl
      · rfl
  | _ => rfl

/-- **The notes of a run are of the room that the code plays.**. -/
theorem room_of_run {acts : List RoomAct} (h : Run (Step config maths) l acts l') :
    l'.room = acts.foldl (PlayRoom.after config maths) l.room := by
  induction h with
  | nil => rfl
  | cons hstep _ ih =>
      rw [ih, ← hstep, after_room]
      rfl

end Remains

/-- Nobody is there yet. -/
theorem createWorld_snakes (game : SimulationConfig) (maths : Maths) (id : EntityId) :
    (createWorld game maths).snakes.get id = none := by
  unfold createWorld
  exact (WorldState.feeds_spawnFoods _ _).snakes_eq id

/-- A room that has been started, where nothing has been dropped. -/
def Remains.started (config : RoomConfig) (maths : Maths) : Remains :=
  ⟨.started config maths, []⟩

/-- **Six tenths, once.**  In a run of a room no more than six tenths of any snake, in exact masses,
are dropped over its whole life exactly when no player is removed, by leaving or by an eviction,
while their snake lies dead. -/
theorem scattered_once (config : RoomConfig) (maths : Maths) {acts : List RoomAct} {l : Remains}
    (h : Run (Remains.Step config maths) (.started config maths) acts l) :
    l.room = acts.foldl (PlayRoom.after config maths) (.started config maths) ∧
      (l.Bounded ↔ Run (Guarded (Remains.Step config maths) (Remains.Clean config maths))
        (.started config maths) acts l) := by
  have hlogged : Logged maths (createWorld config.game maths) [] := by
    refine ⟨WorldState.sound_createWorld config.game, nofun, nofun, fun id s hs => ?_⟩
    rw [createWorld_snakes] at hs
    cases hs
  have honce : Once (createWorld config.game maths) [] := ⟨.nil, fun _ _ => List.not_mem_nil⟩
  have hnotes := Remains.notes_run hlogged h
  refine ⟨Remains.room_of_run h, ?_⟩
  rw [bounded_iff hnotes.logged.whole]
  exact ⟨hnotes.clean, fun hrun => (hnotes.once honce hrun).nodup⟩

/-! ### A snake that is scattered twice -/

/-- An arena no snake fits into. -/
def pit : RoomConfig := ⟨narrow, 60, 10, 15000⟩

/-- The room after the acts. -/
def played (acts : List RoomAct) : Remains :=
  acts.foldl (Remains.after pit rounded) (.started pit rounded)

theorem run_played (acts : List RoomAct) :
    Run (Remains.Step pit rounded) (.started pit rounded) acts (played acts) := by
  unfold played
  generalize Remains.started pit rounded = l
  induction acts generalizing l with
  | nil => exact .nil l
  | cons act acts ih => exact .cons rfl (ih _)

/-- The snake dies, and lies there. -/
theorem scattered_once_died : (played [.addPlayer 1 7 "a", .tick 0]).drops.length = 1 ∧
    Run (Guarded (Remains.Step pit rounded) (Remains.Clean pit rounded)) (.started pit rounded)
      [.addPlayer 1 7 "a", .tick 0] (played [.addPlayer 1 7 "a", .tick 0]) :=
  ⟨by decide +kernel, (scattered_once pit rounded (run_played _)).2.mp (by decide +kernel)⟩

/-- The player leaves, and the snake that lies dead is scattered again. -/
theorem scattered_twice : ¬∀ acts l,
    Run (Remains.Step pit rounded) (.started pit rounded) acts l → l.Bounded := by
  intro h
  have hbounded := h [.addPlayer 1 7 "a", .tick 0, .removePlayer 1] _ (run_played _)
  exact absurd hbounded (by decide +kernel)

end SnakeArena.Realtime
