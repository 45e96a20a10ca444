import SnakeArena.Realtime.Survival
import SnakeArena.Library.Runs

/-!
# Realtime — the sockets of a room

`io/handlers/connection.ts`: a player has any number of sockets, and the seat names the one that
connected last.  The server hears that a socket has closed at any later time, also when the player
is back on another.

The handler of `disconnect` marks the seat of the player, whatever socket it names.  A seat is
marked only while its socket is closed if the handler runs while that is so (`Heeds`), and no
longer otherwise (`connected_kept`).
-/

namespace SnakeArena.Realtime
open SnakeArena.Library

/-- A room, and the sockets of its players. -/
structure Station where
  room : LiveRoom
  /-- `seat.socketId`, of the seats. -/
  socketId : Table ℕ ℕ
  /-- The player of each socket whose handlers are wired, until it closes. -/
  sockets : Table ℕ ℕ
  /-- The id of the next socket. -/
  connected : ℕ
  /-- Who gave up the seat since they last connected, or lost it with the room. -/
  left : List ℕ

inductive SocketEvent where
  | connection (playerId : ℕ)
  | disconnect (socket nowMs : ℕ)
  | leave (socket nowMs : ℕ)
  | respawn (socket : ℕ)
  | tick (nowMs : ℕ) (motion : Motion)
  | drain
  | close

namespace Station

def opened (roomId : String) (gameId : Option ℕ) : Station :=
  ⟨LiveRoom.opened roomId gameId, .empty, .empty, 0, []⟩

/-- A socket that the room does not take is disconnected before its handlers are wired. -/
def connection (maxPlayers : ℕ) (s : Station) (playerId : ℕ) : Station :=
  if s.room.status = .draining ∨ s.room.status = .closed ∨
      maxPlayers ≤ s.room.seats.length ∧ playerId ∉ s.room.seats then
    { s with connected := s.connected + 1 }
  else
    { s with
      room := s.room.addPlayer playerId
      socketId := s.socketId.upd playerId s.connected
      sockets := s.sockets.upd s.connected playerId
      connected := s.connected + 1
      left := s.left.filter (· ≠ playerId) }

def disconnect (s : Station) (socket nowMs : ℕ) : Option Station :=
  (s.sockets.get socket).map fun playerId =>
    { s with
      room := s.room.markDisconnected playerId nowMs
      sockets := s.sockets.del socket }

/-- The server closes the socket of a player who leaves. -/
def leave (s : Station) (socket nowMs : ℕ) : Option Station :=
  (s.sockets.get socket).bind fun playerId =>
    { s with
      room := s.room.removePlayer playerId
      left := playerId :: s.left }.disconnect socket nowMs

def after (graceMs maxPlayers : ℕ) (s : Station) : SocketEvent → Option Station
  | .connection playerId => some (s.connection maxPlayers playerId)
  | .disconnect socket nowMs => s.disconnect socket nowMs
  | .leave socket nowMs => s.leave socket nowMs
  | .respawn socket =>
      (s.sockets.get socket).map fun playerId => { s with room := s.room.respawn playerId }
  | .tick nowMs motion => some { s with room := s.room.tick graceMs nowMs motion }
  | .drain => some { s with room := s.room.drain }
  | .close => some { s with room := s.room.close, left := s.left ++ s.room.seats }

/-- The sockets that get a snapshot. -/
def broadcastSnapshots (s : Station) : List ℕ :=
  (s.room.seats.filter fun playerId => (s.room.disconnectedAtMs.get playerId).isNone).filterMap
    s.socketId.get

/-- A seat is marked disconnected only while the socket it names is closed. -/
def Attended (s : Station) : Prop :=
  ∀ p ∈ s.room.seats, (s.room.disconnectedAtMs.get p).isSome = true →
    ∀ socket, s.socketId.get p = some socket → s.sockets.get socket = none

/-- The close of a socket is heard while the seat of its player names it, or one that is closed. -/
def Heeds (s : Station) : SocketEvent → Prop
  | .disconnect socket _ =>
      match s.sockets.get socket with
      | none => True
      | some p =>
          match s.socketId.get p with
          | none => True
          | some named =>
              p ∈ s.room.seats → named = socket ∨ s.sockets.get named = none
  | _ => True

instance (s : Station) : DecidablePred s.Heeds := fun e => by
  unfold Heeds
  split
  · split
    · infer_instance
    · split <;> infer_instance
  · infer_instance

/-- One event of the room. -/
def Step (graceMs maxPlayers : ℕ) (s : Station) (e : SocketEvent) (s' : Station) : Prop :=
  s.after graceMs maxPlayers e = some s'

end Station

/-! ### What a tick leaves -/

namespace LiveRoom
variable {room room' : LiveRoom} {p : ℕ}

/-- Only seats that were marked went, and no mark is new. -/
structure Evicts (room room' : LiveRoom) : Prop where
  seats : ∀ p ∈ room'.seats, p ∈ room.seats
  marks : ∀ p, (room'.disconnectedAtMs.get p).isSome = true →
    (room.disconnectedAtMs.get p).isSome = true
  stays : ∀ p ∈ room.seats, room.disconnectedAtMs.get p = none → p ∈ room'.seats

theorem Evicts.refl (room : LiveRoom) : Evicts room room :=
  ⟨fun _ => id, fun _ => id, fun _ h _ => h⟩

theorem Evicts.trans {room₁ : LiveRoom} (h : Evicts room room₁) (h' : Evicts room₁ room') :
    Evicts room room' := by
  refine ⟨fun p hp => h.seats p (h'.seats p hp), fun p hp => h.marks p (h'.marks p hp),
    fun p hp hnone => h'.stays p (h.stays p hp hnone) ?_⟩
  by_contra hmark
  have := h.marks p (Option.isSome_iff_ne_none.mpr hmark)
  rw [hnone] at this
  cases this

theorem Evicts.of_eq (hseats : room'.seats = room.seats)
    (hmarks : room'.disconnectedAtMs = room.disconnectedAtMs) : Evicts room room' :=
  ⟨fun _ h => hseats ▸ h, fun _ h => hmarks ▸ h, fun _ h _ => hseats ▸ h⟩

theorem evicts_remove (hp : p ∈ room.seats) (hmark : (room.disconnectedAtMs.get p).isSome = true) :
    Evicts room (room.removePlayer p) := by
  obtain ⟨hseats, hmarks, -⟩ := removePlayer_of_mem hp
  refine ⟨fun q hq => ?_, fun q hq => ?_, fun q hq hnone => ?_⟩
  · rw [hseats] at hq
    exact List.mem_of_mem_filter hq
  · rw [hmarks, Table.get_del] at hq
    split at hq
    · cases hq
    · exact hq
  · rw [hseats, List.mem_filter]
    refine ⟨hq, decide_eq_true fun e => ?_⟩
    rw [← e, hnone] at hmark
    cases hmark

/-- Each seat of the loop that is still there and has expired goes. -/
theorem evicts_loop (graceMs nowMs : ℕ) (seats : List ℕ) : ∀ room : LiveRoom,
    Evicts room (seats.foldl (fun room p =>
      if room.expired graceMs nowMs p then room.removePlayer p else room) room) := by
  induction seats with
  | nil => exact Evicts.refl
  | cons p rest ih =>
      intro room
      rw [List.foldl_cons]
      by_cases hexpired : room.expired graceMs nowMs p = true
      · rw [if_pos hexpired]
        refine Evicts.trans ?_ (ih _)
        by_cases hp : p ∈ room.seats
        · refine evicts_remove hp ?_
          unfold expired at hexpired
          split at hexpired
          · cases hexpired
          next h => rw [h]; rfl
        · rw [removePlayer, if_neg hp]
          exact .refl room
      · rw [if_neg hexpired]
        exact ih room

theorem tick_evicts (room : LiveRoom) (graceMs nowMs : ℕ) (motion : Motion) :
    Evicts room (room.tick graceMs nowMs motion) := by
  unfold tick
  split
  · exact .refl room
  · obtain ⟨hsweeps, -⟩ := sweeps_step room motion
    obtain ⟨hseats, -, hdisconnected, -⟩ := deaths_seats (room.step motion).2 (room.step motion).1
    exact (Evicts.of_eq (hseats.trans hsweeps.seats)
      (hdisconnected.trans hsweeps.disconnected)).trans (evicts_loop graceMs nowMs _ _)

end LiveRoom

/-! ### What every event keeps -/

namespace Station
variable {graceMs maxPlayers : ℕ} {s s' : Station} {e : SocketEvent}

/-- A seat names the socket its player connected last, and a player whose socket is open has a
seat, unless they left. -/
structure Seated (s : Station) : Prop where
  seated : ∀ p k, s.socketId.get p = some k → (s.sockets.get k).isSome = true → p ∉ s.left →
    p ∈ s.room.seats
  named : ∀ p k, s.socketId.get p = some k → k < s.connected
  wired : ∀ k p, s.sockets.get k = some p → k < s.connected
  own : ∀ p q k, s.socketId.get p = some k → s.sockets.get k = some q → q = p
  names : ∀ p ∈ s.room.seats, (s.socketId.get p).isSome = true

theorem addPlayer_seats (room : LiveRoom) (p q : ℕ) :
    q ∈ (room.addPlayer p).seats ↔ q ∈ room.seats ∨ q = p := by
  by_cases hp : p ∈ room.seats
  · rw [LiveRoom.addPlayer, if_pos hp]
    exact ⟨.inl, fun h => h.elim id fun e => e ▸ hp⟩
  · rw [(LiveRoom.addPlayer_record hp).1, List.mem_append, List.mem_singleton]

theorem spawnSnake_frame (room : LiveRoom) (p : ℕ) :
    (room.spawnSnake p).seats = room.seats ∧
      (room.spawnSnake p).disconnectedAtMs = room.disconnectedAtMs := by
  unfold LiveRoom.spawnSnake
  split <;> exact ⟨rfl, rfl⟩

theorem addPlayer_marks (room : LiveRoom) (p : ℕ) :
    (room.addPlayer p).disconnectedAtMs = room.disconnectedAtMs.del p := by
  unfold LiveRoom.addPlayer
  split
  · rfl
  · exact (spawnSnake_frame _ p).2

theorem markDisconnected_seats (room : LiveRoom) (p nowMs : ℕ) :
    (room.markDisconnected p nowMs).seats = room.seats := by
  unfold LiveRoom.markDisconnected
  split <;> rfl

theorem removePlayer_seats (room : LiveRoom) (p q : ℕ) :
    q ∈ (room.removePlayer p).seats ↔ q ∈ room.seats ∧ q ≠ p := by
  by_cases hp : p ∈ room.seats
  · rw [(LiveRoom.removePlayer_of_mem hp).1, List.mem_filter, decide_eq_true_eq]
  · rw [LiveRoom.removePlayer, if_neg hp]
    exact ⟨fun h => ⟨h, fun e => hp (e ▸ h)⟩, And.left⟩

theorem respawn_seats (room : LiveRoom) (p : ℕ) :
    (room.respawn p).seats = room.seats ∧
      (room.respawn p).disconnectedAtMs = room.disconnectedAtMs := by
  unfold LiveRoom.respawn
  split
  · exact spawnSnake_frame (room.despawnSnake p) p
  · exact ⟨rfl, rfl⟩

/-- A socket closes, and the room loses no seat but of who left. -/
theorem Seated.closes (hs : s.Seated) {room : LiveRoom} {left : List ℕ} (socket : ℕ)
    (hseats : ∀ p ∈ room.seats, p ∈ s.room.seats)
    (hstays : ∀ p ∈ s.room.seats, p ∉ left → p ∈ room.seats) (hleft : ∀ p ∈ s.left, p ∈ left) :
    { s with room, left, sockets := s.sockets.del socket }.Seated := by
  have hopen : ∀ {k p}, (s.sockets.del socket).get k = some p → s.sockets.get k = some p := by
    intro k p h
    rw [Table.get_del] at h
    split at h
    · cases h
    · exact h
  refine ⟨fun p k hk hsome hp => ?_, hs.named, fun k p h => hs.wired k p (hopen h),
    fun p q k hk h => hs.own p q k hk (hopen h), fun p hp => hs.names p (hseats p hp)⟩
  obtain ⟨q, hq⟩ := Option.isSome_iff_exists.mp hsome
  refine hstays p (hs.seated p k hk ?_ fun h => hp (hleft p h)) hp
  rw [hopen hq]
  rfl

theorem Seated.connection (hs : s.Seated) (maxPlayers p : ℕ) :
    (s.connection maxPlayers p).Seated := by
  unfold Station.connection
  split
  · exact ⟨hs.seated, fun q k h => (hs.named q k h).trans (Nat.lt_succ_self _),
      fun k q h => (hs.wired k q h).trans (Nat.lt_succ_self _), hs.own, hs.names⟩
  · have hnamed : ∀ q k, (s.socketId.upd p s.connected).get q = some k →
        q = p ∧ k = s.connected ∨ q ≠ p ∧ s.socketId.get q = some k := by
      intro q k h
      rw [Table.get_upd] at h
      split at h
      next e => exact .inl ⟨e, (Option.some.inj h).symm⟩
      next e => exact .inr ⟨e, h⟩
    have hwired : ∀ k q, (s.sockets.upd s.connected p).get k = some q →
        k = s.connected ∧ q = p ∨ k ≠ s.connected ∧ s.sockets.get k = some q := by
      intro k q h
      rw [Table.get_upd] at h
      split at h
      next e => exact .inl ⟨e, (Option.some.inj h).symm⟩
      next e => exact .inr ⟨e, h⟩
    refine ⟨fun q k hk hsome hq => ?_, fun q k hk => ?_, fun k q hk => ?_,
      fun q q' k hk hq' => ?_, fun q hq => ?_⟩
    · rw [addPlayer_seats]
      rcases hnamed q k hk with ⟨rfl, -⟩ | ⟨hne, hk⟩
      · exact .inr rfl
      · refine .inl (hs.seated q k hk ?_ fun hleft =>
          hq (List.mem_filter.mpr ⟨hleft, by simpa using hne⟩))
        rwa [Table.get_upd_other (hs.named q k hk).ne] at hsome
    · rcases hnamed q k hk with ⟨-, rfl⟩ | ⟨-, hk⟩
      · exact Nat.lt_succ_self _
      · exact (hs.named q k hk).trans (Nat.lt_succ_self _)
    · rcases hwired k q hk with ⟨rfl, -⟩ | ⟨-, hk⟩
      · exact Nat.lt_succ_self _
      · exact (hs.wired k q hk).trans (Nat.lt_succ_self _)
    · rcases hnamed q k hk with ⟨rfl, rfl⟩ | ⟨-, hk⟩
      · exact Option.some.inj ((Table.get_upd_same _ _ _).symm.trans hq') |>.symm
      · rcases hwired k q' hq' with ⟨rfl, -⟩ | ⟨-, hq'⟩
        · exact absurd rfl (hs.named q _ hk).ne
        · exact hs.own q q' k hk hq'
    · rw [addPlayer_seats] at hq
      by_cases e : q = p
      · subst e
        rw [Table.get_upd_same]
        rfl
      · rw [Table.get_upd_other e]
        exact hs.names q (hq.resolve_right e)

theorem Seated.after (hs : s.Seated) (ha : s.Attended) (h : s.Step graceMs maxPlayers e s') :
    s'.Seated := by
  cases e with
  | connection p =>
      obtain rfl := Option.some.inj h
      exact hs.connection maxPlayers p
  | disconnect socket nowMs =>
      obtain ⟨p, hp, rfl⟩ := Option.map_eq_some_iff.mp h
      refine hs.closes socket (fun q hq => ?_) (fun q hq _ => ?_) fun _ => id
      · rwa [markDisconnected_seats] at hq
      · rwa [markDisconnected_seats]
  | leave socket nowMs =>
      obtain ⟨p, hp, h⟩ := Option.bind_eq_some_iff.mp h
      obtain ⟨q, hq, rfl⟩ := Option.map_eq_some_iff.mp h
      refine hs.closes socket (fun p' hp' => ?_) (fun p' hp' hleft => ?_) fun _ =>
        List.mem_cons_of_mem _
      · rw [markDisconnected_seats, removePlayer_seats] at hp'
        exact hp'.1
      · rw [markDisconnected_seats, removePlayer_seats]
        exact ⟨hp', fun e => hleft (e ▸ List.mem_cons_self)⟩
  | respawn socket =>
      obtain ⟨p, hp, rfl⟩ := Option.map_eq_some_iff.mp h
      refine ⟨fun q k hk hopen hq => ?_, hs.named, hs.wired, hs.own, fun q hq => hs.names q ?_⟩
      · rw [(respawn_seats _ _).1]
        exact hs.seated q k hk hopen hq
      · rwa [(respawn_seats _ _).1] at hq
  | tick nowMs motion =>
      obtain rfl := Option.some.inj h
      have hevicts := s.room.tick_evicts graceMs nowMs motion
      refine ⟨fun q k hk hopen hq => ?_, hs.named, hs.wired, hs.own,
        fun q hq => hs.names q (hevicts.seats q hq)⟩
      have hseat := hs.seated q k hk hopen hq
      refine hevicts.stays q hseat ?_
      -- a seat whose socket is open is not marked
      by_contra hmark
      have hclosed := ha q hseat (Option.isSome_iff_ne_none.mpr hmark) k hk
      rw [hclosed] at hopen
      cases hopen
  | drain =>
      obtain rfl := Option.some.inj h
      exact ⟨hs.seated, hs.named, hs.wired, hs.own, hs.names⟩
  | close =>
      obtain rfl := Option.some.inj h
      refine ⟨fun q k hk hopen hq => ?_, hs.named, hs.wired, hs.own, nofun⟩
      rw [List.mem_append, not_or] at hq
      exact absurd (hs.seated q k hk hopen hq.1) hq.2

/-- Who is on another socket that is open is marked by the close of this one. -/
theorem attended_disconnect {socket nowMs : ℕ} (ha : s.Attended)
    (h : s.disconnect socket nowMs = some s') :
    s'.Attended ↔ s.Heeds (.disconnect socket nowMs) := by
  obtain ⟨p, hp, rfl⟩ := Option.map_eq_some_iff.mp h
  have hmarks : ∀ q, q ≠ p → ((s.room.markDisconnected p nowMs).disconnectedAtMs.get q) =
      s.room.disconnectedAtMs.get q := by
    intro q hne
    unfold LiveRoom.markDisconnected
    split
    · exact Table.get_upd_other hne
    · rfl
  have hclosed : ∀ k, (s.sockets.del socket).get k = none ↔
      k = socket ∨ s.sockets.get k = none := by
    intro k
    rw [Table.get_del]
    split
    case isTrue e => exact iff_of_true rfl (.inl e)
    case isFalse e => exact ⟨.inr, fun h => h.resolve_left e⟩
  simp only [Heeds, hp]
  constructor
  · intro hattended
    split
    · trivial
    next named hnamed =>
        intro hseat
        refine (hclosed named).mp (hattended p ?_ ?_ named hnamed)
        · rwa [markDisconnected_seats]
        · unfold LiveRoom.markDisconnected
          rw [if_pos hseat, Table.get_upd_same]
          rfl
  · intro hheeds q hq hmark k hk
    rw [markDisconnected_seats] at hq
    rw [hclosed]
    by_cases e : q = p
    · subst e
      have hk' : s.socketId.get q = some k := hk
      simp only [hk'] at hheeds
      exact hheeds hq
    · rw [hmarks q e] at hmark
      exact .inr (ha q hq hmark k hk)

/-- A step leaves every mark on a seat whose socket is closed, exactly when it meets the
condition. -/
theorem attended_after (hs : s.Seated) (ha : s.Attended) (h : s.Step graceMs maxPlayers e s') :
    s'.Attended ↔ s.Heeds e := by
  cases e with
  | disconnect socket nowMs => exact attended_disconnect ha h
  | connection p =>
      obtain rfl := Option.some.inj h
      refine iff_of_true ?_ trivial
      unfold Station.connection
      split
      · exact ha
      · intro q hq hmark k hk
        rw [addPlayer_marks, Table.get_del] at hmark
        by_cases e : q = p
        · rw [if_pos e] at hmark
          cases hmark
        · rw [if_neg e] at hmark
          rw [addPlayer_seats] at hq
          have hk' : s.socketId.get q = some k := (Table.get_upd_other e).symm.trans hk
          exact (Table.get_upd_other (hs.named q k hk').ne).trans
            (ha q (hq.resolve_right e) hmark k hk')
  | leave socket nowMs =>
      obtain ⟨p, hp, h⟩ := Option.bind_eq_some_iff.mp h
      refine iff_of_true ((attended_disconnect ?_ h).mpr ?_) trivial
      · intro q hq hmark k hk
        rw [removePlayer_seats] at hq
        refine ha q hq.1 ?_ k hk
        by_cases hseat : p ∈ s.room.seats
        · rw [(LiveRoom.removePlayer_of_mem hseat).2.1, Table.get_del_other hq.2] at hmark
          exact hmark
        · rwa [LiveRoom.removePlayer, if_neg hseat] at hmark
      · simp only [Heeds, hp]
        split
        · trivial
        · intro hseat
          rw [removePlayer_seats] at hseat
          exact absurd rfl hseat.2
  | respawn socket =>
      obtain ⟨p, hp, rfl⟩ := Option.map_eq_some_iff.mp h
      refine iff_of_true (fun q hq hmark => ?_) trivial
      rw [(respawn_seats _ _).1] at hq
      rw [(respawn_seats _ _).2] at hmark
      exact ha q hq hmark
  | tick nowMs motion =>
      obtain rfl := Option.some.inj h
      have hevicts := s.room.tick_evicts graceMs nowMs motion
      exact iff_of_true (fun q hq hmark =>
        ha q (hevicts.seats q hq) (hevicts.marks q hmark)) trivial
  | drain =>
      obtain rfl := Option.some.inj h
      exact iff_of_true ha trivial
  | close =>
      obtain rfl := Option.some.inj h
      exact iff_of_true (by rintro _ ⟨⟩) trivial

theorem opened_seated (roomId : String) (gameId : Option ℕ) :
    (opened roomId gameId).Seated ∧ (opened roomId gameId).Attended := by
  refine ⟨⟨?_, ?_, ?_, ?_, nofun⟩, nofun⟩ <;> simp [opened]

/-- **A connected player is not evicted**, in every run where the close of a socket is heard while
the seat of its player names it, or one that is closed.  A seat is marked only while its socket is
closed, who is on an open socket has a seat, gets snapshots and is evicted by no tick; and a step
that does not meet the condition marks the seat of a player whose socket is open. -/
theorem connected_kept {roomId : String} {gameId : Option ℕ}
    (hs : Reachable (Guarded (Step graceMs maxPlayers) Heeds) (· = opened roomId gameId) s) :
    s.Attended ∧
    (∀ p socket, s.socketId.get p = some socket → (s.sockets.get socket).isSome = true →
      p ∉ s.left → p ∈ s.room.seats ∧ socket ∈ s.broadcastSnapshots ∧
        ∀ nowMs motion, p ∈ (s.room.tick graceMs nowMs motion).seats) ∧
    ∀ e s', s.Step graceMs maxPlayers e s' → (s'.Attended ↔ s.Heeds e) := by
  obtain ⟨hseated, hattended⟩ : s.Seated ∧ s.Attended := by
    refine hs.invariant (fun s h => h ▸ opened_seated roomId gameId) ?_
    intro s e s' ⟨hseated, hattended⟩ ⟨h, hheeds⟩
    exact ⟨hseated.after hattended h, (attended_after hseated hattended h).mpr hheeds⟩
  refine ⟨hattended, fun p socket hsocket hopen hleft => ?_, fun e s' h =>
    attended_after hseated hattended h⟩
  have hseat := hseated.seated p socket hsocket hopen hleft
  have hmark : s.room.disconnectedAtMs.get p = none := by
    by_contra hmark
    have hclosed := hattended p hseat (Option.isSome_iff_ne_none.mpr hmark) socket hsocket
    rw [hclosed] at hopen
    cases hopen
  refine ⟨hseat, ?_, fun nowMs motion =>
    (s.room.tick_evicts graceMs nowMs motion).stays p hseat hmark⟩
  refine List.mem_filterMap.mpr ⟨p, List.mem_filter.mpr ⟨hseat, ?_⟩, hsocket⟩
  rw [hmark]
  rfl

/-- Player 7 drops, and comes back on another socket. -/
theorem connected_kept_back : ∃ s : Station, s.socketId.get 7 = some 1 ∧
    7 ∈ s.room.seats ∧ 1 ∈ s.broadcastSnapshots := by
  have run : (follow (after 30000 8) Heeds (opened "m" none)
      [.connection 7, .disconnect 0 1000, .connection 7]).any (fun s =>
        decide (s.socketId.get 7 = some 1 ∧ (s.sockets.get 1).isSome = true ∧ 7 ∉ s.left)) =
          true := by
    decide
  obtain ⟨s, hs, htest⟩ := (Option.any_eq_true _ _).mp run
  obtain ⟨hsocket, hopen, hleft⟩ := of_decide_eq_true htest
  obtain ⟨hseat, hsnapshots, -⟩ :=
    (connected_kept ⟨_, _, rfl, run_of_follow hs⟩).2.1 7 1 hsocket hopen hleft
  exact ⟨s, hsocket, hseat, hsnapshots⟩

/-- The close of a socket is heard when the player is back on another: the seat is marked, and the
tick at the end of the grace window takes it. -/
theorem connected_kept_stale : ¬ ∀ (graceMs maxPlayers : ℕ) (roomId : String) (gameId : Option ℕ)
    (s : Station), Reachable (Step graceMs maxPlayers) (· = opened roomId gameId) s →
      s.Attended ∧ ∀ p socket, s.socketId.get p = some socket →
        (s.sockets.get socket).isSome = true → p ∉ s.left → p ∈ s.room.seats := by
  intro hclaim
  have run : (follow (after 30000 8) (fun _ _ => True) (opened "m" none)
      [.connection 7, .connection 7, .disconnect 0 1000,
        .tick 31000 ⟨fun _ => 0, fun _ => false, fun _ => [], 50⟩]).any (fun s =>
          decide (s.socketId.get 7 = some 1 ∧ (s.sockets.get 1).isSome = true ∧ 7 ∉ s.left ∧
            7 ∉ s.room.seats)) = true := by
    decide
  obtain ⟨s, hs, htest⟩ := (Option.any_eq_true _ _).mp run
  obtain ⟨hsocket, hopen, hleft, hseat⟩ := of_decide_eq_true htest
  exact hseat ((hclaim 30000 8 "m" none s ⟨_, _, rfl, (run_of_follow hs).of_guarded⟩).2 7 1
    hsocket hopen hleft)

end Station

end SnakeArena.Realtime
