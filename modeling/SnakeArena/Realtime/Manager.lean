import SnakeArena.Realtime.Survival

/-!
# Realtime — the manager of the rooms

`rooms/room-manager.ts`: the rooms of a node, their tick loop, the hand-off of a decided match to
settlement, and the reaping of rooms that drained.  A tick is one synchronous block.  The
hand-off is not awaited: it is a write of the result and then an addition to the settle queue,
whose replies come at any later time and may be failures.

The mark that keeps a slow write from being started twice is set before the write, and the same
tick reaps a room that has emptied.  `reaped_saved` says when the result is safe by then.
-/

namespace SnakeArena.Realtime
open SnakeArena.Library SnakeArena.Worker

structure NodeConfig where
  nodeId : String
  maxRoomsPerNode : ℕ
  maxPlayersPerRoom : ℕ
  reconnectGraceMs : ℕ

/-- A room object.  A room reaped and opened again under its id is another object. -/
structure Hosted where
  object : ℕ
  room : LiveRoom

/-- Where the promise of a hand-off stands. -/
inductive Stage where
  /-- `match:result` is being set. -/
  | writing
  /-- It is set, and the game is being added to `settle:pending`. -/
  | queueing
  | reported
  | failed
deriving DecidableEq

structure Attempt where
  object : ℕ
  result : MatchResultReport
  stage : Stage
deriving DecidableEq

structure RoomManager where
  /-- By `roomId`, in the order they were opened. -/
  rooms : List Hosted
  /-- How many rooms were ever opened. -/
  opened : ℕ
  attempts : List Attempt

namespace RoomManager

def new : RoomManager := ⟨[], 0, []⟩

/-- Both writes of some attempt of the room have succeeded. -/
def Saved (m : RoomManager) (object : ℕ) : Prop :=
  ∃ attempt ∈ m.attempts, attempt.object = object ∧ attempt.stage = .reported

instance (m : RoomManager) (object : ℕ) : Decidable (m.Saved object) := by
  unfold Saved; infer_instance

/-- A room object changed in place. -/
def modify (m : RoomManager) (object : ℕ) (f : LiveRoom → LiveRoom) : RoomManager :=
  { m with
    rooms := m.rooms.map fun h => if h.object = object then { h with room := f h.room } else h }

/-- The room, created on first join; none is a node at its cap.  The first ticket that carries a
game supplies it. -/
def ensureRoom (config : NodeConfig) (m : RoomManager) (roomId : String) (gameId : Option ℕ) :
    Option (RoomManager × Hosted) :=
  match m.rooms.find? (·.room.roomId = roomId) with
  | some existing =>
      if existing.room.gameId.isNone && gameId.isSome then
        some (m.modify existing.object (·.withGame gameId),
          { existing with room := existing.room.withGame gameId })
      else some (m, existing)
  | none =>
      if config.maxRoomsPerNode ≤ m.rooms.length then none
      else
        let room : Hosted := ⟨m.opened, LiveRoom.opened roomId gameId⟩
        some ({ m with rooms := m.rooms ++ [room], opened := m.opened + 1 }, room)

/-- The connection handler. -/
def connect (config : NodeConfig) (m : RoomManager) (roomId : String) (gameId : Option ℕ)
    (playerId : ℕ) : RoomManager :=
  match m.ensureRoom config roomId gameId with
  | none => m
  | some (m, h) =>
      if h.room.status = .draining ∨ h.room.status = .closed then m
      else if config.maxPlayersPerRoom ≤ h.room.seats.length ∧ playerId ∉ h.room.seats then m
      else m.modify h.object (·.addPlayer playerId)

/-! ### The tick loop -/

/-- Every room ticks once; each with its own motion. -/
def tickRooms (config : NodeConfig) (now : ℕ) (m : RoomManager) (motions : ℕ → Motion) :
    RoomManager :=
  { m with
    rooms := m.rooms.map fun h =>
      { h with room := h.room.tick config.reconnectGraceMs now (motions h.object) } }

/-- The players are told first. -/
def announce (room : LiveRoom) : LiveRoom :=
  if room.announced then room else room.markAnnounced.drain

/-- One room of `reportFinishedMatches`: the room, and the hand-off it starts. -/
def reportRoom (config : NodeConfig) (now : ℕ) (h : Hosted) : Hosted × List Attempt :=
  if ¬h.room.isResolved then (h, [])
  else
    let room := announce h.room
    if ¬room.hasResult then ({ h with room }, [])
    else
      match room.gameId with
      | none => ({ h with room }, [])
      | some gameId =>
          ({ h with room := room.markReported },
            [⟨h.object, room.buildResult config.nodeId now gameId, .writing⟩])

def reportFinishedMatches (config : NodeConfig) (now : ℕ) (m : RoomManager) : RoomManager :=
  { m with
    rooms := m.rooms.map fun h => (reportRoom config now h).1
    attempts := m.attempts ++ m.rooms.flatMap fun h => (reportRoom config now h).2 }

/-- A room that `reapEmptyRooms` closes. -/
def reapable (h : Hosted) : Bool := h.room.seats = [] && h.room.status = .draining

def reapEmptyRooms (m : RoomManager) : RoomManager :=
  { m with rooms := m.rooms.filter fun h => ¬reapable h }

/-- The rooms of a tick after their steps, one for each motion. -/
def ticked (config : NodeConfig) (now : ℕ) (m : RoomManager) (motions : List (ℕ → Motion)) :
    RoomManager :=
  motions.foldl (tickRooms config now) m

def runTick (config : NodeConfig) (m : RoomManager) (now : ℕ) (motions : List (ℕ → Motion)) :
    RoomManager :=
  ((m.ticked config now motions).reportFinishedMatches config now).reapEmptyRooms

/-! ### Replies -/

/-- The reply to the pending write of an attempt. -/
def reply (m : RoomManager) (index : ℕ) (ok : Bool) : RoomManager :=
  match m.attempts[index]? with
  | none => m
  | some attempt =>
      let settle stage := { m with attempts := m.attempts.set index { attempt with stage } }
      match attempt.stage, ok with
      | .writing, true => settle .queueing
      | .queueing, true => settle .reported
      | .writing, false => (settle .failed).modify attempt.object (·.unmarkReported)
      | .queueing, false => (settle .failed).modify attempt.object (·.unmarkReported)
      | _, _ => m

/-- What happens to a node. -/
inductive Event where
  | connect (roomId : String) (gameId : Option ℕ) (playerId : ℕ)
  | leave (object playerId : ℕ)
  | disconnect (object playerId nowMs : ℕ)
  | respawn (object playerId : ℕ)
  | runTick (now : ℕ) (motions : List (ℕ → Motion))
  | reply (index : ℕ) (ok : Bool)
  /-- The first loop of `drainAll`. -/
  | drainRooms
  /-- Its last loop. -/
  | closeRooms

def after (config : NodeConfig) (m : RoomManager) : Event → RoomManager
  | .connect roomId gameId playerId => m.connect config roomId gameId playerId
  | .leave object playerId => m.modify object (·.removePlayer playerId)
  | .disconnect object playerId nowMs => m.modify object (·.markDisconnected playerId nowMs)
  | .respawn object playerId => m.modify object (·.respawn playerId)
  | .runTick now motions => m.runTick config now motions
  | .reply index ok => m.reply index ok
  | .drainRooms => { m with rooms := m.rooms.map fun h => { h with room := h.room.drain } }
  | .closeRooms => { m with rooms := [] }

def play (config : NodeConfig) (m : RoomManager) : List Event → RoomManager
  | [] => m
  | e :: es => play config (m.after config e) es

end RoomManager

/-! ### A room that was announced has drained -/

namespace LiveRoom

/-- Whether the players were told, and the status. -/
def flags (room : LiveRoom) : Bool × RoomStatus := (room.announced, room.status)

/-- A loop of steps that leave the flags. -/
theorem foldl_flags {α : Type*} {f : LiveRoom → α → LiveRoom}
    (hf : ∀ room a, (f room a).flags = room.flags) (l : List α) :
    ∀ room, (l.foldl f room).flags = room.flags := by
  induction l with
  | nil => exact fun _ => rfl
  | cons a l ih => exact fun room => (ih (f room a)).trans (hf room a)

theorem flags_spawnSnake (room : LiveRoom) (p : ℕ) : (room.spawnSnake p).flags = room.flags := by
  unfold spawnSnake
  split <;> rfl

theorem flags_addPlayer (room : LiveRoom) (p : ℕ) : (room.addPlayer p).flags = room.flags := by
  unfold addPlayer
  split
  · rfl
  · exact flags_spawnSnake _ p

theorem flags_markDisconnected (room : LiveRoom) (p nowMs : ℕ) :
    (room.markDisconnected p nowMs).flags = room.flags := by
  unfold markDisconnected
  split <;> rfl

theorem flags_removePlayer (room : LiveRoom) (p : ℕ) :
    (room.removePlayer p).flags = room.flags := by
  unfold removePlayer
  split <;> rfl

theorem flags_respawn (room : LiveRoom) (p : ℕ) : (room.respawn p).flags = room.flags := by
  unfold respawn
  split
  · exact flags_spawnSnake _ p
  · rfl

/-- A collision leaves the flags of the match. -/
theorem flags_collide (motion : Motion) (room : LiveRoom) (p : ℕ) :
    (collide motion room p).1.flags = room.flags := by
  unfold collide
  split
  · rfl
  split
  · rfl
  split
  · rfl
  split <;> rfl

theorem flags_detect (motion : Motion) (order : List ℕ) : ∀ room : LiveRoom,
    (detectCollisions motion room order).1.flags = room.flags := by
  induction order with
  | nil => exact fun _ => rfl
  | cons p rest ih => exact fun room => (ih _).trans (flags_collide motion room p)

theorem flags_deaths (deaths : List DeathEvent) (room : LiveRoom) :
    (deaths.foldl die room).flags = room.flags :=
  @foldl_flags DeathEvent die (fun _ _ => rfl) deaths room

/-- A tick of the room leaves them too. -/
theorem flags_tick (room : LiveRoom) (graceMs nowMs : ℕ) (motion : Motion) :
    (room.tick graceMs nowMs motion).flags = room.flags := by
  unfold tick
  split
  · rfl
  · have hstep : (room.step motion).1.flags = room.flags :=
      flags_detect motion room.order (room.moveSnakes motion)
    refine (foldl_flags (fun room p => ?_) _ _).trans
      ((flags_deaths _ _).trans hstep)
    split
    · exact flags_removePlayer room p
    · rfl

/-- A room whose players were told accepts nobody any more. -/
def Told (room : LiveRoom) : Prop := room.announced = true → room.status ≠ .active

/-- What the room was told is in its flags. -/
theorem Told.of_flags {room room' : LiveRoom} (h : room.Told) (e : room'.flags = room.flags) :
    room'.Told := by
  obtain ⟨ha, hs⟩ := Prod.mk.inj e
  unfold Told
  rw [ha, hs]
  exact h

end LiveRoom

namespace RoomManager
variable {config : NodeConfig} {m : RoomManager} {now : ℕ} {h : Hosted}

def AllTold (m : RoomManager) : Prop := ∀ h ∈ m.rooms, h.room.Told

/-- Every room is mapped so. -/
theorem AllTold.map (hm : m.AllTold) {f : Hosted → Hosted}
    (hf : ∀ h, h.room.Told → (f h).room.Told) : AllTold { m with rooms := m.rooms.map f } := by
  intro h hh
  obtain ⟨h₀, h₀m, rfl⟩ := List.mem_map.mp hh
  exact hf h₀ (hm h₀ h₀m)

/-- One room is changed, and not in its flags. -/
theorem AllTold.modify (hm : m.AllTold) (object : ℕ) {f : LiveRoom → LiveRoom}
    (hf : ∀ room, (f room).flags = room.flags) : (m.modify object f).AllTold :=
  hm.map fun h ht => by
    split
    · exact ht.of_flags (hf h.room)
    · exact ht

/-- A connection is to a room that was told, or to a new one. -/
theorem AllTold.connect (hm : m.AllTold) (roomId : String) (gameId : Option ℕ) (playerId : ℕ) :
    (m.connect config roomId gameId playerId).AllTold := by
  have hensure : ∀ m' h', m.ensureRoom config roomId gameId = some (m', h') → m'.AllTold := by
    intro m' h' e
    unfold ensureRoom at e
    split at e
    · split at e
      · obtain ⟨rfl, -⟩ := Prod.mk.inj (Option.some.inj e)
        exact hm.modify _ fun _ => rfl
      · obtain ⟨rfl, -⟩ := Prod.mk.inj (Option.some.inj e)
        exact hm
    · simp only [Option.ite_none_left_eq_some] at e
      obtain ⟨rfl, -⟩ := Prod.mk.inj (Option.some.inj e.2)
      intro h hh
      obtain hh | hh := List.mem_append.mp hh
      · exact hm h hh
      · obtain rfl := List.mem_singleton.mp hh
        exact nofun
  unfold RoomManager.connect
  split
  · exact hm
  next m' h' e =>
      have hm' := hensure m' h' e
      split
      · exact hm'
      split
      · exact hm'
      · exact hm'.modify _ fun room => LiveRoom.flags_addPlayer room playerId

/-- A match that is announced drains its room. -/
theorem announce_told {room : LiveRoom} (ht : room.Told) (hr : room.isResolved = true) :
    (announce room).status = .draining := by
  unfold announce
  cases ha : room.announced with
  | true =>
      have hrunning : room.running = true := (Bool.and_eq_true_iff.mp hr).1
      simpa [LiveRoom.running, ht ha] using hrunning
  | false => rfl

/-- It stays resolved. -/
theorem announce_resolved {room : LiveRoom} (hr : room.isResolved = true) :
    (announce room).isResolved = true := by
  unfold announce
  split
  · exact hr
  · exact (Bool.and_eq_true_iff.mp hr).2

/-- The announcement is not in the record. -/
theorem announce_record (room : LiveRoom) : (announce room).toRoom = room.toRoom := by
  unfold announce
  split <;> rfl

/-- What the tick does to a room that is not resolved, and to one that is. -/
theorem reportRoom_cases (config : NodeConfig) (now : ℕ) (h : Hosted) :
    h.room.isResolved = false ∧ reportRoom config now h = (h, []) ∨
      h.room.isResolved = true ∧
        ((reportRoom config now h).1.room = announce h.room ∧ (reportRoom config now h).2 = [] ∨
          (reportRoom config now h).1.room = (announce h.room).markReported ∧
            ∃ result, (reportRoom config now h).2 = [⟨h.object, result, .writing⟩]) := by
  unfold reportRoom
  cases hr : h.room.isResolved with
  | false => exact .inl ⟨rfl, rfl⟩
  | true =>
      refine .inr ⟨rfl, ?_⟩
      simp only [not_true_eq_false, if_false]
      split
      · exact .inl ⟨rfl, rfl⟩
      split
      · exact .inl ⟨rfl, rfl⟩
      · exact .inr ⟨rfl, _, rfl⟩

theorem reportRoom_object (config : NodeConfig) (now : ℕ) (h : Hosted) :
    (reportRoom config now h).1.object = h.object := by
  unfold reportRoom
  split
  · rfl
  dsimp only
  split
  · rfl
  split <;> rfl

/-- Whoever is resolved is told and drains; the seats and the game stay. -/
theorem reportRoom_room (config : NodeConfig) (now : ℕ) {h : Hosted} (ht : h.room.Told) :
    (reportRoom config now h).1.room.seats = h.room.seats ∧
      (reportRoom config now h).1.room.gameId = h.room.gameId ∧
      (reportRoom config now h).1.room.isResolved = h.room.isResolved ∧
      (reportRoom config now h).1.room.Told ∧
      (h.room.isResolved = true → (reportRoom config now h).1.room.status = .draining) := by
  obtain ⟨hr, e⟩ | ⟨hr, ⟨e, -⟩ | ⟨e, -⟩⟩ := reportRoom_cases config now h
  · rw [e]
    exact ⟨rfl, rfl, rfl, ht, fun h => nomatch hr.symm.trans h⟩
  · have hdraining := announce_told ht hr
    rw [e]
    refine ⟨by rw [announce_record], by rw [announce_record], by rw [announce_resolved hr, hr],
      fun _ => by rw [hdraining]; exact nofun, fun _ => hdraining⟩
  · have hdraining := announce_told ht hr
    have hseats : (announce h.room).seats = h.room.seats := by rw [announce_record]
    have hgame : (announce h.room).gameId = h.room.gameId := by rw [announce_record]
    rw [e]
    refine ⟨hseats, hgame, ?_, fun _ => ?_, fun _ => hdraining⟩
    · rw [hr]
      exact announce_resolved hr
    · change (announce h.room).status ≠ .active
      rw [hdraining]
      exact nofun

/-- A tick of every room. -/
theorem AllTold.tickRooms (hm : m.AllTold) (motions : ℕ → Motion) :
    (m.tickRooms config now motions).AllTold :=
  hm.map fun h ht => ht.of_flags (h.room.flags_tick config.reconnectGraceMs now (motions h.object))

/-- Any number of ticks. -/
theorem AllTold.ticked (motions : List (ℕ → Motion)) : ∀ {m : RoomManager}, m.AllTold →
    (m.ticked config now motions).AllTold := by
  induction motions with
  | nil => exact fun hm => hm
  | cons motion motions ih => exact fun hm => ih (hm.tickRooms motion)

/-- A tick reports nothing. -/
theorem ticked_attempts (motions : List (ℕ → Motion)) : ∀ m : RoomManager,
    (m.ticked config now motions).attempts = m.attempts := by
  induction motions with
  | nil => exact fun _ => rfl
  | cons motion motions ih => exact fun m => ih (m.tickRooms config now motion)

/-- The reports go out for rooms that were told. -/
theorem AllTold.report (hm : m.AllTold) : (m.reportFinishedMatches config now).AllTold := by
  intro h hh
  obtain ⟨h₀, h₀m, rfl⟩ := List.mem_map.mp hh
  exact (reportRoom_room config now (hm h₀ h₀m)).2.2.2.1

/-- An answer to a report. -/
theorem AllTold.reply (hm : m.AllTold) (index : ℕ) (ok : Bool) : (m.reply index ok).AllTold := by
  unfold RoomManager.reply
  split
  · exact hm
  next attempt _ =>
      have hset : ∀ attempts, AllTold { m with attempts } := fun _ => hm
      dsimp only
      split
      · exact hset _
      · exact hset _
      · exact (hset _).modify _ fun _ => rfl
      · exact (hset _).modify _ fun _ => rfl
      · exact hm

/-- The step of the invariant. -/
theorem AllTold.after (hm : m.AllTold) (e : Event) : (m.after config e).AllTold := by
  cases e with
  | connect roomId gameId playerId => exact hm.connect roomId gameId playerId
  | leave object playerId => exact hm.modify object fun room => room.flags_removePlayer playerId
  | disconnect object playerId nowMs =>
      exact hm.modify object fun room => room.flags_markDisconnected playerId nowMs
  | respawn object playerId => exact hm.modify object fun room => room.flags_respawn playerId
  | runTick now motions =>
      exact fun h hh => (hm.ticked motions).report h (List.mem_filter.mp hh).1
  | reply index ok => exact hm.reply index ok
  | drainRooms => exact hm.map fun h _ _ => nofun
  | closeRooms => exact nofun

/-- **Every event keeps it.**. -/
theorem AllTold.play (es : List Event) : ∀ {m : RoomManager}, m.AllTold →
    (m.play config es).AllTold := by
  induction es with
  | nil => exact fun hm => hm
  | cons e es ih => exact fun hm => ih (hm.after e)

/-! ### What is safe when a room is reaped -/

/-- A tick starts hand-offs; it completes none. -/
theorem saved_report (object : ℕ) :
    (m.reportFinishedMatches config now).Saved object ↔ m.Saved object := by
  refine ⟨?_, fun ⟨attempt, hmem, h⟩ => ⟨attempt, List.mem_append_left _ hmem, h⟩⟩
  rintro ⟨attempt, hmem, hobject, hstage⟩
  obtain hmem | hmem := List.mem_append.mp hmem
  · exact ⟨attempt, hmem, hobject, hstage⟩
  · obtain ⟨h, -, hmem⟩ := List.mem_flatMap.mp hmem
    obtain ⟨-, e⟩ | ⟨-, ⟨-, e⟩ | ⟨-, result, e⟩⟩ := reportRoom_cases config now h
    · rw [e] at hmem
      cases hmem
    · rw [e] at hmem
      cases hmem
    · rw [e] at hmem
      obtain rfl := List.mem_singleton.mp hmem
      cases hstage

/-- **When a decided result is safe.**  In any run of a node, whatever a tick reaps of a decided
match with a game has been written and queued, exactly when no room of such a match has lost its
last seat before that. -/
theorem reaped_saved (config : NodeConfig) (es : List Event) (now : ℕ)
    (motions : List (ℕ → Motion)) :
    (∀ h ∈ (((new.play config es).ticked config now motions).reportFinishedMatches
      config now).rooms,
        reapable h = true → h.room.gameId.isSome = true → h.room.isResolved = true →
          (((new.play config es).ticked config now motions).reportFinishedMatches config now).Saved
            h.object) ↔
      ∀ h ∈ ((new.play config es).ticked config now motions).rooms,
        h.room.gameId.isSome = true → h.room.isResolved = true → h.room.seats = [] →
          (new.play config es).Saved h.object := by
  have hnew : AllTold new := nofun
  have htold : ((new.play config es).ticked config now motions).AllTold :=
    (hnew.play es).ticked motions
  have hsaved : ∀ object, ((new.play config es).ticked config now motions).Saved object ↔
      (new.play config es).Saved object := fun object => by
    rw [Saved, ticked_attempts, ← Saved]
  constructor
  · intro hsafe h hh hgame hresolved hempty
    obtain ⟨hseats, hgameId, hsame, -, hdraining⟩ := reportRoom_room config now (htold h hh)
    have := hsafe _ (List.mem_map_of_mem hh)
      (by simp [reapable, hseats, hempty, hdraining hresolved])
      (hgameId ▸ hgame) (hsame ▸ hresolved)
    rwa [reportRoom_object, saved_report, hsaved] at this
  · intro hsafe h hh hreap hgame hresolved
    obtain ⟨h₀, h₀m, rfl⟩ := List.mem_map.mp hh
    obtain ⟨hseats, hgameId, hsame, -, -⟩ := reportRoom_room config now (htold h₀ h₀m)
    rw [reportRoom_object, saved_report, hsaved]
    refine hsafe h₀ h₀m (hgameId ▸ hgame) (hsame ▸ hresolved) ?_
    rw [reapable, Bool.and_eq_true, decide_eq_true_iff] at hreap
    exact hseats ▸ hreap.1

/-- One player of a match for game 3 leaves, and a tick starts the hand-off. -/
def decided : List Event :=
  [.connect "duel" (some 3) 1, .connect "duel" (some 3) 2, .leave 0 2, .runTick 0 []]

def node : NodeConfig := ⟨"node-1", 10, 8, 30000⟩

/-- Both replies come before the winner leaves, and the next tick reaps a room that is saved. -/
example : (((new.play node (decided ++ [.reply 0 true, .reply 0 true, .leave 0 1])).ticked node 1 []
    ).reportFinishedMatches node 1).rooms.all (fun h => reapable h && decide
      ((new.play node
        (decided ++ [.reply 0 true, .reply 0 true, .leave 0 1])).Saved h.object)) = true := by
  decide

/-- The winner leaves while the result is being written: the next tick reaps the room, and the
write fails after it. -/
theorem reaped_unsaved : ¬ ∀ (config : NodeConfig) (es : List Event) (now : ℕ)
    (motions : List (ℕ → Motion)),
    ∀ h ∈ (((new.play config es).ticked config now motions).reportFinishedMatches config now).rooms,
      reapable h = true → h.room.gameId.isSome = true → h.room.isResolved = true →
        (((new.play config es).ticked config now motions).reportFinishedMatches config now).Saved
          h.object := fun hclaim => by
  have hall := hclaim node (decided ++ [.leave 0 1]) 1 []
  have hroom : (((new.play node (decided ++ [.leave 0 1])).ticked node 1 []).reportFinishedMatches
      node 1).rooms.any (fun h => reapable h && h.room.gameId.isSome && h.room.isResolved &&
        !decide ((((new.play node (decided ++ [.leave 0 1])).ticked node 1 []
          ).reportFinishedMatches node 1).Saved h.object)) = true := by
    decide
  obtain ⟨h, hh, htest⟩ := List.any_eq_true.mp hroom
  simp only [Bool.and_eq_true, Bool.not_eq_true', decide_eq_false_iff_not] at htest
  obtain ⟨⟨⟨hreap, hgame⟩, hresolved⟩, hunsaved⟩ := htest
  exact hunsaved (hall h hh hreap hgame hresolved)

end RoomManager

end SnakeArena.Realtime
