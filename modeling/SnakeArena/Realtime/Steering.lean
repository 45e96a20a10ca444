import SnakeArena.Library.Runs
import SnakeArena.Realtime.PlayRoom

/-!
# Realtime — steering through reconnects

One player's page, its sockets, and the room that others play in too.  The page counts its
commands (`input-controller.ts`, `poll`) and goes on counting on a new socket, with what it had
buffered or without; a reload counts from 1 again.  What a socket carries arrives in order while it
is open, and the server hears of its end at any time.

Three numbers have three lives: the count of a page, the guard of a socket, and the number that
the snake has acknowledged.  A command is `Heeded` when the first of its socket is at most the
jump limit, and when it is ahead of the snake: in runs of such commands, within budget, each is
accepted and steers the snake (`steering_kept`).
-/

namespace SnakeArena.Realtime
open SnakeArena.Library SnakeArena.Game

/-! ### The server -/

/-- What a handler or a timer of the server is called with. -/
inductive ServerCall where
  | connection (playerId : ℕ) (nickname : String) (now : ℕ)
  | input (socket : ℕ) (commands : List InputCommand) (now : ℕ)
  | respawn (socket : ℕ)
  | leave (socket now : ℕ)
  | disconnect (socket now : ℕ)
  | tick (now : ℕ)
  | decay
  | drain
  | close

namespace SocketServer

def after (config : RoomConfig) (maths : Maths) (n : SocketServer) :
    ServerCall → Option SocketServer
  | .connection playerId nickname now => some (n.connection config maths playerId nickname now)
  | .input socket commands now => n.input config socket commands now
  | .respawn socket => n.respawn config maths socket
  | .leave socket now => n.leave config maths socket now
  | .disconnect socket now => n.disconnect socket now
  | .tick now => some { n with room := n.room.tick config maths now }
  | .decay => some n.decay
  | .drain => some { n with room := n.room.drain }
  | .close => some { n with room := n.room.close }

/-- The call is not one that the player's page makes. -/
def Foreign (p : ℕ) (n : SocketServer) : ServerCall → Prop
  | .connection playerId _ _ => playerId ≠ p
  | .input socket _ _ => n.sockets.get socket ≠ some p
  | _ => True

instance (p : ℕ) (n : SocketServer) : DecidablePred (n.Foreign p) := fun e => by
  unfold Foreign
  split <;> infer_instance

end SocketServer

/-! ### The page -/

/-- The input controller of a page and its socket. -/
structure Page where
  /-- The count of the last command. -/
  sequence : ℕ
  socket : Option ℕ
  /-- Emitted while there is no socket. -/
  buffer : List InputCommand

/-- The page, the server, and what is between them. -/
structure Link where
  page : Page
  server : SocketServer
  inFlight : Table ℕ (List InputCommand)

inductive LinkEvent where
  | poll (angle : ℚ) (boost : Bool) (dt : ℚ)
  | lost
  | reload
  | connect (nickname : String) (now : ℕ) (kept : Bool)
  | deliver (socket now : ℕ)
  | server (call : ServerCall)

namespace Link
variable (config : RoomConfig) (maths : Maths) (p : ℕ)

def opened : Link where
  page := ⟨0, none, []⟩
  server := ⟨.started config maths, .empty, .empty, 0⟩
  inFlight := .empty

def flight (s : Link) (socket : ℕ) : List InputCommand := (s.inFlight.get socket).getD []

/-- One command, of the next count: it is emitted, or kept until there is a socket. -/
def poll (s : Link) (angle : ℚ) (boost : Bool) (dt : ℚ) : Option Link :=
  if -PI ≤ angle ∧ angle ≤ PI ∧ 0 ≤ dt ∧ dt ≤ 250 ∧ (s.page.sequence : ℤ) < MAX_SAFE_INTEGER then
    let sequence := s.page.sequence + 1
    let command : InputCommand := ⟨.finite sequence, .finite angle, boost, .finite dt⟩
    match s.page.socket with
    | some socket =>
        some { s with
          page := { s.page with sequence }
          inFlight := s.inFlight.upd socket (s.flight socket ++ [command]) }
    | none => some { s with page := { s.page with sequence, buffer := s.page.buffer ++ [command] } }
  else none

def connect (s : Link) (nickname : String) (now : ℕ) (kept : Bool) : Option Link :=
  match s.page.socket with
  | some _ => none
  | none =>
      some
        { page := { s.page with socket := some s.server.connected, buffer := [] }
          server := s.server.connection config maths p nickname now
          inFlight := s.inFlight.upd s.server.connected (if kept then s.page.buffer else []) }

/-- The oldest command of a socket of the player arrives. -/
def deliver (s : Link) (socket now : ℕ) : Option Link :=
  match s.flight socket with
  | [] => none
  | command :: rest =>
      if s.server.sockets.get socket = some p then
        (s.server.input config socket [command] now).map fun server =>
          { s with server, inFlight := s.inFlight.upd socket rest }
      else none

def after (s : Link) : LinkEvent → Option Link
  | .poll angle boost dt => s.poll angle boost dt
  | .lost => some { s with page := { s.page with socket := none } }
  | .reload => some { s with page := ⟨0, none, []⟩ }
  | .connect nickname now kept => s.connect config maths p nickname now kept
  | .deliver socket now => s.deliver config p socket now
  | .server call =>
      if s.server.Foreign p call then
        (s.server.after config maths call).map fun server => { s with server }
      else none

/-- One event of the player's page, of the way, or of the server. -/
def Step (s : Link) (e : LinkEvent) (s' : Link) : Prop := s.after config maths p e = some s'

/-- What arrives is within the budget of its socket. -/
def Within (s : Link) : LinkEvent → Prop
  | .deliver socket now =>
      (consumeInputBudget (s.server.getGuard config socket now) now config.maxInputsPerSecond
        config.maxInputsPerSecond).1 = true
  | _ => True

instance (s : Link) : DecidablePred (s.Within config) := fun e => by
  unfold Within
  split <;> infer_instance

/-- The command is ahead of what the snake has acknowledged, and of what waits for it. -/
def Ahead (w : WorldState) (command : InputCommand) : Bool :=
  match w.playerIndex.get p with
  | none => true
  | some id =>
      match w.snakes.get id with
      | none => true
      | some snake =>
          !snake.alive || snake.lastAckSeq.lt command.seq &&
            ((w.pendingInputs.get id).getD []).all (·.seq.lt command.seq)

/-- A command that arrives first on its socket has a number within the jump limit; one of the
page's socket finds a seat, and is ahead of the snake. -/
def Heeds (s : Link) : LinkEvent → Prop
  | .deliver socket now =>
      ∀ command ∈ (s.flight socket).head?,
        ((s.server.getGuard config socket now).lastSeq = 0 →
          (integer? command.seq).all (· ≤ MAX_JUMP) = true) ∧
        (s.page.socket = some socket → (s.server.room.seats.get p).isSome = true ∧
          Ahead p s.server.room.world command = true)
  | _ => True

instance (s : Link) : DecidablePred (s.Heeds config p) := fun e => by
  unfold Heeds
  split <;> infer_instance

/-- The batch is accepted whole. -/
def Accepts (s : Link) (socket now : ℕ) (command : InputCommand) : Prop :=
  (validateInputBatch (s.server.getGuard config socket now) [command]
    (SocketServer.validationOptions config now)).2.accepted =
      [{ command with dt := .finite (clampDeltaTime command.dt (1000 / config.game.tickRateHz)) }]

/-- When the inputs are applied, the snake of the player, if it lives, steers by the command. -/
def Steers (w : WorldState) (command : InputCommand) : Prop :=
  ∃ id snake, w.playerIndex.get p = some id ∧ (applyInputs w).snakes.get id = some snake ∧
    (snake.alive = true → snake.toSteering = ⟨command.angle.finite?, command.boost, command.seq⟩)

end Link

/-! ### What the server keeps -/

namespace SocketServer
variable {config : RoomConfig} {maths : Maths} {p : ℕ} {n n' : SocketServer}

/-- Every socket that is wired has a guard, and the room is fair to the player. -/
structure Sane (maths : Maths) (p : ℕ) (n : SocketServer) : Prop where
  fair : n.room.Fair maths p
  guarded : ∀ k q, n.sockets.get k = some q → ∃ guard, n.guards.get k = some guard
  wired : ∀ k q, n.sockets.get k = some q → k < n.connected

/-- The player's sockets are some of those of before, and their guards are no more suspicious. -/
structure Spares (p : ℕ) (n n' : SocketServer) : Prop where
  sockets : ∀ k q, k < n.connected ∨ q = p → n'.sockets.get k = some q → n.sockets.get k = some q
  guards : ∀ k guard', n.sockets.get k = some p → n'.guards.get k = some guard' →
    ∃ guard, n.guards.get k = some guard ∧ guard'.lastSeq = guard.lastSeq ∧
      guard'.suspicion ≤ guard.suspicion
  connected : n.connected ≤ n'.connected

theorem Spares.of_eq (hsockets : n'.sockets = n.sockets) (hguards : n'.guards = n.guards)
    (hconnected : n'.connected = n.connected) : Spares p n n' :=
  ⟨fun _ _ _ h => hsockets ▸ h, fun _ guard _ h => ⟨guard, hguards ▸ h, rfl, le_rfl⟩, hconnected.ge⟩

theorem Sane.room (hn : n.Sane maths p) {room : PlayRoom} (hroom : room.Fair maths p) :
    { n with room }.Sane maths p := ⟨hroom, hn.guarded, hn.wired⟩

theorem connection_sane (hn : n.Sane maths p) (q : ℕ) (nickname : String) (now : ℕ) :
    (n.connection config maths q nickname now).Sane maths p := by
  unfold connection
  split_ifs
  · exact ⟨hn.fair, hn.guarded, fun k q h => (hn.wired k q h).trans (Nat.lt_succ_self _)⟩
  · refine ⟨hn.fair.addPlayer _ _ _, fun k q' h => ?_, fun k q' h => ?_⟩ <;> dsimp only at h ⊢ <;>
      rw [Table.get_upd] at h
    · rw [Table.get_upd]
      split_ifs at h ⊢
      · exact ⟨_, rfl⟩
      · exact hn.guarded k q' h
    · split_ifs at h with hk
      · exact hk ▸ Nat.lt_succ_self _
      · exact (hn.wired k q' h).trans (Nat.lt_succ_self _)

theorem connection_spares (hn : n.Sane maths p) {q : ℕ} (hne : q ≠ p) (nickname : String)
    (now : ℕ) : Spares p n (n.connection config maths q nickname now) := by
  unfold connection
  split_ifs
  · exact ⟨fun _ _ _ h => h, fun _ guard _ h => ⟨guard, h, rfl, le_rfl⟩, Nat.le_succ _⟩
  · refine ⟨fun k q' hk h => ?_, fun k guard hk h => ?_, Nat.le_succ _⟩ <;> dsimp only at h <;>
      rw [Table.get_upd] at h
    · split_ifs at h with hnew
      · obtain rfl := Option.some.inj h
        rcases hk with hk | hk
        · exact absurd hnew hk.ne
        · exact absurd hk hne
      · exact h
    · rw [if_neg (hn.wired k p hk).ne] at h
      exact ⟨guard, h, rfl, le_rfl⟩

theorem disconnect_keeps (hn : n.Sane maths p) {socket now : ℕ}
    (h : n.disconnect socket now = some n') : n'.Sane maths p ∧ Spares p n n' := by
  obtain ⟨q, -, rfl⟩ := Option.map_eq_some_iff.mp h
  have hopen : ∀ {k q}, (n.sockets.del socket).get k = some q →
      k ≠ socket ∧ n.sockets.get k = some q := by
    intro k q h
    rw [Table.get_del] at h
    split_ifs at h with hk
    exact ⟨hk, h⟩
  refine ⟨⟨hn.fair.markDisconnected _ _, fun k q h => ?_, fun k q h => hn.wired k q (hopen h).2⟩,
    ⟨fun k q _ h => (hopen h).2, fun k guard _ h => ?_, le_rfl⟩⟩
  · obtain ⟨guard, hguard⟩ := hn.guarded k q (hopen h).2
    exact ⟨guard, (Table.get_del_other (hopen h).1).trans hguard⟩
  · dsimp only at h
    rw [Table.get_del] at h
    split_ifs at h
    exact ⟨guard, h, rfl, le_rfl⟩

theorem input_keeps (hn : n.Sane maths p) {socket now : ℕ} {commands : List InputCommand}
    (hne : n.sockets.get socket ≠ some p) (h : n.input config socket commands now = some n') :
    n'.Sane maths p ∧ Spares p n n' := by
  obtain ⟨q, hq, rfl⟩ := Option.map_eq_some_iff.mp h
  split_ifs
  · exact ⟨hn, .of_eq rfl rfl rfl⟩
  generalize validateInputBatch _ _ _ = validated
  obtain ⟨guard, outcome⟩ := validated
  have happlied : (outcome.accepted.foldl (fun room => room.applyInput q) n.room).Fair maths p :=
    List.foldlRecOn outcome.accepted _ hn.fair fun room hroom command _ =>
      hroom.applyInput q command
  dsimp only
  refine ⟨⟨?_, fun k q' hk => ?_, hn.wired⟩, ⟨fun _ _ _ h => h, fun k guard' hk h => ?_, le_rfl⟩⟩
  · dsimp only
    split_ifs
    · exact happlied.setShadowbanned (fun e => hne (e ▸ hq)) true
    · exact happlied
  · dsimp only
    rw [Table.get_upd]
    split_ifs
    · exact ⟨_, rfl⟩
    · exact hn.guarded k q' hk
  · dsimp only at h
    rw [Table.get_upd_other fun e : k = socket => hne (e ▸ hk)] at h
    exact ⟨guard', h, rfl, le_rfl⟩

/-- The guard of a new socket has accepted nothing, and the others are left. -/
theorem connection_guards (hn : n.Sane maths p) (q : ℕ) (nickname : String) (now : ℕ) {k q' : ℕ}
    (h : (n.connection config maths q nickname now).sockets.get k = some q') :
    (k = n.connected ∧ q' = q ∧ (n.connection config maths q nickname now).guards.get k =
      some (createGuardState now config.maxInputsPerSecond)) ∨
    k ≠ n.connected ∧ n.sockets.get k = some q' ∧
      (n.connection config maths q nickname now).guards.get k = n.guards.get k := by
  unfold connection at h ⊢
  split_ifs at h ⊢
  · exact .inr ⟨(hn.wired k q' h).ne, h, rfl⟩
  · dsimp only at h
    by_cases hk : k = n.connected
    · subst hk
      rw [Table.get_upd_same] at h
      exact .inl ⟨rfl, (Option.some.inj h).symm, Table.get_upd_same ..⟩
    · rw [Table.get_upd_other hk] at h
      exact .inr ⟨hk, h, Table.get_upd_other hk⟩

theorem connection_connected (n : SocketServer) (q : ℕ) (nickname : String) (now : ℕ) :
    (n.connection config maths q nickname now).connected = n.connected + 1 := by
  unfold connection
  split_ifs <;> rfl

/-- No call of others, or of the server itself, touches a number of the player. -/
theorem after_keeps (hn : n.Sane maths p) {call : ServerCall} (hforeign : n.Foreign p call)
    (h : n.after config maths call = some n') : n'.Sane maths p ∧ Spares p n n' := by
  cases call with
  | connection q nickname now =>
      obtain rfl := Option.some.inj h
      exact ⟨connection_sane hn q nickname now, connection_spares hn hforeign nickname now⟩
  | input socket commands now => exact input_keeps hn hforeign h
  | respawn socket =>
      obtain ⟨q, -, rfl⟩ := Option.map_eq_some_iff.mp h
      exact ⟨hn.room (hn.fair.respawn q), .of_eq rfl rfl rfl⟩
  | leave socket now =>
      obtain ⟨q, -, h⟩ := Option.bind_eq_some_iff.mp h
      obtain ⟨hsane, hspares⟩ := disconnect_keeps (hn.room (hn.fair.removePlayer q)) h
      exact ⟨hsane, hspares.sockets, hspares.guards, hspares.connected⟩
  | disconnect socket now => exact disconnect_keeps hn h
  | tick now =>
      obtain rfl := Option.some.inj h
      exact ⟨hn.room (hn.fair.tick now), .of_eq rfl rfl rfl⟩
  | decay =>
      obtain rfl := Option.some.inj h
      refine ⟨⟨hn.fair, fun k q hk => ?_, hn.wired⟩, fun _ _ _ h => h,
        fun k guard' _ hk => ?_, le_rfl⟩
      · obtain ⟨guard, hguard⟩ := hn.guarded k q hk
        exact ⟨_, (Table.get_map ..).trans (by rw [hguard]; rfl)⟩
      · obtain ⟨guard, hguard, rfl⟩ := Option.map_eq_some_iff.mp ((Table.get_map ..).symm.trans hk)
        exact ⟨guard, hguard, rfl, Nat.sub_le _ _⟩
  | drain =>
      obtain rfl := Option.some.inj h
      exact ⟨hn.room ⟨hn.fair.sound, hn.fair.peopled, hn.fair.clear⟩, .of_eq rfl rfl rfl⟩
  | close =>
      obtain rfl := Option.some.inj h
      exact ⟨hn.room hn.fair.close, .of_eq rfl rfl rfl⟩

end SocketServer

/-! ### What is in flight -/

/-- Proper commands that go on counting from `last`, or start anywhere when it is 0. -/
def Follows (last : ℤ) : List InputCommand → Prop
  | [] => True
  | command :: rest => ∃ n : ℕ, Proper command n ∧ (last = 0 ∨ (n : ℤ) = last + 1) ∧ Follows n rest

/-- The last number, when the first before them is `last`. -/
def endSeq (last : ℤ) : List InputCommand → ℤ
  | [] => last
  | command :: rest => endSeq ((integer? command.seq).getD 0) rest

/-- The last number is the count of the page, or there is none yet. -/
def Counts (last : ℤ) (commands : List InputCommand) (sequence : ℕ) : Prop :=
  endSeq last commands = sequence ∨ endSeq last commands = 0

theorem Proper.endSeq {command : InputCommand} {n : ℕ} (h : Proper command n) (last : ℤ)
    (rest : List InputCommand) : endSeq last (command :: rest) = Realtime.endSeq n rest := by
  rw [Realtime.endSeq, h.number, integer?_natCast, Option.getD_some]

theorem Follows.append {command : InputCommand} {n : ℕ} (hproper : Proper command n) :
    ∀ {commands : List InputCommand} {last : ℤ}, Follows last commands →
      (endSeq last commands = 0 ∨ (n : ℤ) = endSeq last commands + 1) →
      Follows last (commands ++ [command]) ∧ endSeq last (commands ++ [command]) = n
  | [], last, _, hlast => ⟨⟨n, hproper, hlast, trivial⟩, hproper.endSeq last []⟩
  | c :: rest, last, ⟨m, hm, hfirst, hrest⟩, hlast => by
      rw [hm.endSeq] at hlast
      obtain ⟨hfollows, hend⟩ := Follows.append hproper hrest hlast
      exact ⟨⟨m, hm, hfirst, hfollows⟩, (hm.endSeq last _).trans hend⟩

namespace Link
variable {config : RoomConfig} {maths : Maths} {p : ℕ} {s s' : Link}

/-- The page and its sockets, as an honest client leaves them. -/
structure Honest (maths : Maths) (p : ℕ) (s : Link) : Prop where
  sane : s.server.Sane maths p
  named : ∀ k, s.page.socket = some k → k < s.server.connected ∧
    ∀ q, s.server.sockets.get k = some q → q = p
  streams : ∀ k guard, s.server.sockets.get k = some p → s.server.guards.get k = some guard →
    guard.suspicion = 0 ∧ Follows guard.lastSeq (s.flight k) ∧
      (s.page.socket = some k → Counts guard.lastSeq (s.flight k) s.page.sequence)
  buffer : Follows 0 s.page.buffer ∧ Counts 0 s.page.buffer s.page.sequence
  unbuffered : ∀ k, s.page.socket = some k → s.page.buffer = []

theorem honest_opened (config : RoomConfig) (maths : Maths) (p : ℕ) :
    (opened config maths).Honest maths p where
  sane := ⟨PlayRoom.fair_started config maths p, nofun, nofun⟩
  named := nofun
  streams := nofun
  buffer := ⟨trivial, .inl rfl⟩
  unbuffered := nofun

theorem Honest.server (hs : s.Honest maths p) {call : ServerCall}
    (hforeign : s.server.Foreign p call) {server : SocketServer}
    (h : s.server.after config maths call = some server) : { s with server }.Honest maths p := by
  obtain ⟨hsane, hspares⟩ := SocketServer.after_keeps hs.sane hforeign h
  refine ⟨hsane, fun k hk => ?_, fun k guard hk hguard => ?_, hs.buffer, hs.unbuffered⟩
  · obtain ⟨hlt, hown⟩ := hs.named k hk
    exact ⟨hlt.trans_le hspares.connected, fun q hq =>
      hown q (hspares.sockets k q (.inl hlt) hq)⟩
  · have hopen := hspares.sockets k p (.inr rfl) hk
    obtain ⟨guard', hguard', hlast, hle⟩ := hspares.guards k guard hopen hguard
    obtain ⟨hclear, hfollows, hcounts⟩ := hs.streams k guard' hopen hguard'
    rw [hlast]
    exact ⟨Nat.le_zero.mp (hclear ▸ hle), hfollows, hcounts⟩

theorem Honest.poll (hs : s.Honest maths p) {angle dt : ℚ} {boost : Bool}
    (h : s.poll angle boost dt = some s') : s'.Honest maths p := by
  unfold Link.poll at h
  split_ifs at h with hproper
  obtain ⟨hle, hge, h0, h250, hsafe⟩ := hproper
  dsimp only at h
  generalize hcommand : (⟨.finite (s.page.sequence + 1 : ℕ), .finite angle, boost, .finite dt⟩ :
    InputCommand) = command at h
  have hproper : Proper command (s.page.sequence + 1) := by
    subst hcommand
    exact ⟨rfl, Nat.le_add_left 1 _, by push_cast; omega, ⟨angle, rfl, hle, hge⟩,
      ⟨dt, rfl, h0, h250⟩⟩
  have hnext : ∀ {last commands}, Follows last commands → Counts last commands s.page.sequence →
      Follows last (commands ++ [command]) ∧ Counts last (commands ++ [command])
        (s.page.sequence + 1) := by
    intro last commands hfollows hcounts
    obtain ⟨hfollows, hend⟩ := hfollows.append hproper (by
      rcases hcounts with hcounts | hcounts
      · exact .inr (by rw [hcounts]; push_cast; rfl)
      · exact .inl hcounts)
    exact ⟨hfollows, .inl hend⟩
  split at h
  next socket hsocket =>
    obtain rfl := Option.some.inj h
    have hbuffer := hs.unbuffered socket hsocket
    refine ⟨hs.sane, hs.named, fun k guard hk hguard => ?_, ?_, hs.unbuffered⟩
    · obtain ⟨hclear, hfollows, hcounts⟩ := hs.streams k guard hk hguard
      unfold flight
      dsimp only
      rw [Table.get_upd]
      split_ifs with hown
      · subst hown
        obtain ⟨hfollows, hcounts⟩ := hnext hfollows (hcounts hsocket)
        exact ⟨hclear, hfollows, fun _ => hcounts⟩
      · refine ⟨hclear, hfollows, fun hnamed => ?_⟩
        exact absurd (Option.some.inj (hnamed.symm.trans hsocket)) hown
    · dsimp only
      rw [hbuffer]
      exact ⟨trivial, .inr rfl⟩
  next hnone =>
    obtain rfl := Option.some.inj h
    have hnosocket : ∀ k, s.page.socket ≠ some k := fun k hk => by
      rw [hnone] at hk
      cases hk
    refine ⟨hs.sane, hs.named, fun k guard hk hguard => ?_, hnext hs.buffer.1 hs.buffer.2,
      fun k hk => absurd hk (hnosocket k)⟩
    obtain ⟨hclear, hfollows, -⟩ := hs.streams k guard hk hguard
    exact ⟨hclear, hfollows, fun hk => absurd hk (hnosocket k)⟩

theorem Honest.connect (hs : s.Honest maths p) {nickname : String} {now : ℕ} {kept : Bool}
    (h : s.connect config maths p nickname now kept = some s') : s'.Honest maths p := by
  unfold Link.connect at h
  split at h
  · cases h
  next hnone =>
    obtain rfl := Option.some.inj h
    have hguards := @SocketServer.connection_guards config maths p _ hs.sane p nickname now
    refine ⟨SocketServer.connection_sane hs.sane p nickname now, fun k hk => ?_,
      fun k guard hk hguard => ?_, ⟨trivial, .inr rfl⟩, fun _ _ => rfl⟩
    · obtain rfl := Option.some.inj hk
      refine ⟨?_, fun q hq => ?_⟩
      · dsimp only
        rw [SocketServer.connection_connected]
        exact Nat.lt_succ_self _
      · obtain ⟨-, rfl, -⟩ | ⟨hne, -⟩ := hguards hq
        · rfl
        · exact absurd rfl hne
    · unfold flight
      dsimp only
      rw [Table.get_upd]
      obtain ⟨rfl, -, hnew⟩ | ⟨hne, hopen, hold⟩ := hguards hk
      · obtain rfl := Option.some.inj (hnew.symm.trans hguard)
        rw [if_pos rfl, Option.getD_some]
        split_ifs
        · exact ⟨rfl, hs.buffer.1, fun _ => hs.buffer.2⟩
        · exact ⟨rfl, trivial, fun _ => .inr rfl⟩
      · obtain ⟨hclear, hfollows, -⟩ := hs.streams k guard hopen (hold.symm.trans hguard)
        rw [if_neg hne]
        exact ⟨hclear, hfollows, fun hk => absurd (Option.some.inj hk).symm hne⟩

/-- What is behind a number leaves a snake behind it. -/
theorem foldl_apply_lt {seq : Game.Num} : ∀ (queue : List InputCommand) (steering : Steering),
    steering.lastAckSeq.lt seq = true → queue.all (·.seq.lt seq) = true →
      (queue.foldl Steering.apply steering).lastAckSeq.lt seq = true
  | [], _, h, _ => h
  | command :: queue, steering, h, hall => by
      rw [List.all_cons, Bool.and_eq_true] at hall
      refine foldl_apply_lt queue (steering.apply command) ?_ hall.2
      unfold Steering.apply
      split_ifs
      · exact hall.1
      · exact h

/-- A command that is ahead steers the snake once it is enqueued. -/
theorem steers_enqueued {w : WorldState} (hw : w.Sound maths) {id : EntityId}
    (hid : w.playerIndex.get p = some id) {command : InputCommand} (dt : Game.Num)
    (hahead : Ahead p w command = true) :
    Steers p (enqueueInput w p { command with dt }) command := by
  obtain ⟨snake, hsnake, -⟩ := hw.entry hid
  obtain ⟨queue, hqueue⟩ : ∃ queue, (w.pendingInputs.get id).getD [] = queue := ⟨_, rfl⟩
  have hworld : enqueueInput w p { command with dt } =
      { w with pendingInputs := w.pendingInputs.set id (queue ++ [{ command with dt }]) } := by
    unfold enqueueInput
    rw [hid, ← hqueue]
  unfold Ahead at hahead
  rw [hid] at hahead
  dsimp only at hahead
  rw [hsnake, hqueue] at hahead
  dsimp only at hahead
  rw [hworld]
  have happlied : (applyInputs { w with
      pendingInputs := w.pendingInputs.set id (queue ++ [{ command with dt }]) }).snakes.get id =
      some (if snake.alive then
        { snake with
          toSteering := (queue ++ [{ command with dt }]).foldl Steering.apply snake.toSteering }
        else snake) := by
    unfold applyInputs
    dsimp only
    rw [OrderedMap.get_mapValues, hsnake, OrderedMap.get_set, if_pos rfl, Option.map_some]
  refine ⟨id, _, hid, happlied, fun halive => ?_⟩
  by_cases hlives : snake.alive = true
  · rw [hlives, Bool.not_true, Bool.false_or, Bool.and_eq_true] at hahead
    rw [if_pos hlives, List.foldl_append]
    exact if_pos (foldl_apply_lt queue snake.toSteering hahead.1 hahead.2)
  · rw [if_neg hlives] at halive
    exact absurd halive hlives

/-- **A command that arrives**, within budget, and heeded. -/
theorem Honest.deliver (hs : s.Honest maths p) {socket now : ℕ}
    (h : s.deliver config p socket now = some s') (hwithin : s.Within config (.deliver socket now))
    (hheeds : s.Heeds config p (.deliver socket now)) : s'.Honest maths p ∧
      ∃ command rest, s.flight socket = command :: rest ∧ s.Accepts config socket now command ∧
        (s.page.socket = some socket → Steers p s'.server.room.world command) := by
  unfold Link.deliver at h
  split at h
  · cases h
  next command rest hflight =>
    split_ifs at h with hopen
    obtain ⟨server, hserver, rfl⟩ := Option.map_eq_some_iff.mp h
    obtain ⟨guard, hguard⟩ := hs.sane.guarded socket p hopen
    have hget : s.server.getGuard config socket now = guard := by
      unfold SocketServer.getGuard
      rw [hguard, Option.getD_some]
    obtain ⟨hclear, hfollows, hcounts⟩ := hs.streams socket guard hopen hguard
    rw [hflight] at hfollows hcounts
    obtain ⟨n, hproper, hfirst, hrest⟩ := hfollows
    have hhead := hheeds command (by rw [hflight]; rfl)
    rw [hget, hproper.number, integer?_natCast, Option.all_some, decide_eq_true_eq] at hhead
    have hwindow : guard.lastSeq < n ∧ n ≤ guard.lastSeq + MAX_JUMP := by
      have hpos := hproper.pos
      unfold MAX_JUMP at hhead ⊢
      rcases hfirst with hfirst | hfirst
      · have := hhead.1 hfirst
        omega
      · omega
    have hbudget : (consumeInputBudget guard now config.maxInputsPerSecond
        config.maxInputsPerSecond).1 = true := hget ▸ hwithin
    obtain ⟨guard', hvalid, hlast, hsuspicion⟩ := @validateOne_accepts command n guard
      (SocketServer.validationOptions config now) ⟨[], []⟩ hproper hbudget hwindow
    have hbatch : validateInputBatch guard [command] (SocketServer.validationOptions config now) =
        (guard', ⟨[{ command with
          dt := .finite (clampDeltaTime command.dt (1000 / config.game.tickRateHz)) }],
        []⟩) := hvalid
    have hban : shouldShadowban guard' = false := by
      unfold shouldShadowban
      rw [hsuspicion, hclear]
      rfl
    unfold SocketServer.input at hserver
    rw [hopen, hget, hproper.schema, hbatch] at hserver
    obtain rfl := Option.some.inj hserver
    dsimp only [List.foldl_cons, List.foldl_nil]
    rw [hban, Bool.not_true, if_neg Bool.false_ne_true, if_neg Bool.false_ne_true]
    have hroom := hs.sane.fair.applyInput p { command with
      dt := .finite (clampDeltaTime command.dt (1000 / config.game.tickRateHz)) }
    refine ⟨⟨⟨hroom, fun k q hk => ?_, hs.sane.wired⟩, hs.named, fun k g hk hg => ?_, hs.buffer,
      hs.unbuffered⟩, command, rest, hflight, ?_, fun hsocket => ?_⟩
    · dsimp only
      rw [Table.get_upd]
      split_ifs
      · exact ⟨_, rfl⟩
      · exact hs.sane.guarded k q hk
    · unfold flight
      dsimp only at hg ⊢
      rw [Table.get_upd] at hg ⊢
      split_ifs at hg ⊢ with hk'
      · obtain rfl := Option.some.inj hg
        rw [Option.getD_some, hlast]
        refine ⟨hsuspicion.trans hclear, hrest, fun hsocket => ?_⟩
        have hend := hcounts (hk' ▸ hsocket)
        unfold Counts at hend ⊢
        rwa [hproper.endSeq] at hend
      · exact hs.streams k g hk hg
    · unfold Accepts
      rw [hget, hbatch]
    · obtain ⟨hseat, hahead⟩ := hhead.2 hsocket
      obtain ⟨seat, hseat⟩ := Option.isSome_iff_exists.mp hseat
      obtain ⟨id, hid⟩ := hs.sane.fair.peopled p seat hseat
      have happlied : ∀ c, s.server.room.applyInput p c =
          { s.server.room with world := enqueueInput s.server.room.world p c } := by
        intro c
        unfold PlayRoom.applyInput
        rw [hseat]
        dsimp only
        rw [hs.sane.fair.clear seat hseat, if_neg Bool.false_ne_true]
      dsimp only
      rw [happlied]
      exact steers_enqueued hs.sane.fair.sound hid _ hahead

theorem Honest.after (hs : s.Honest maths p) {e : LinkEvent} (h : s.Step config maths p e s')
    (hwithin : s.Within config e) (hheeds : s.Heeds config p e) : s'.Honest maths p := by
  cases e with
  | poll angle boost dt => exact hs.poll h
  | lost =>
      obtain rfl := Option.some.inj h
      refine ⟨hs.sane, nofun, fun k guard hk hguard => ?_, hs.buffer, nofun⟩
      obtain ⟨hclear, hfollows, -⟩ := hs.streams k guard hk hguard
      exact ⟨hclear, hfollows, nofun⟩
  | reload =>
      obtain rfl := Option.some.inj h
      refine ⟨hs.sane, nofun, fun k guard hk hguard => ?_, ⟨trivial, .inl rfl⟩, nofun⟩
      obtain ⟨hclear, hfollows, -⟩ := hs.streams k guard hk hguard
      exact ⟨hclear, hfollows, nofun⟩
  | connect nickname now kept => exact hs.connect h
  | deliver socket now => exact (hs.deliver h hwithin hheeds).1
  | server call =>
      unfold Step Link.after at h
      dsimp only at h
      split_ifs at h with hforeign
      obtain ⟨server, hserver, rfl⟩ := Option.map_eq_some_iff.mp h
      exact hs.server hforeign hserver

/-- **Steering survives a reconnect**, in every run whose commands arrive within budget and are
heeded: the player is not shadowbanned, and the next such command is accepted, and steers the
snake when it is of the page's socket. -/
theorem steering_kept {config : RoomConfig} {maths : Maths} {p : ℕ} {s : Link}
    (hs : Reachable (Guarded (Step config maths p) fun s e =>
      s.Within config e ∧ s.Heeds config p e)
      (· = opened config maths) s) :
    (∀ seat, s.server.room.seats.get p = some seat → seat.shadowbanned = false) ∧
    ∀ socket now s', s.Step config maths p (.deliver socket now) s' →
      s.Within config (.deliver socket now) → s.Heeds config p (.deliver socket now) →
      ∃ command rest, s.flight socket = command :: rest ∧ s.Accepts config socket now command ∧
        (s.page.socket = some socket → Steers p s'.server.room.world command) := by
  have hhonest : s.Honest maths p := by
    refine hs.invariant (fun s h => h ▸ honest_opened config maths p) fun s e s' hs h => ?_
    exact hs.after h.1 h.2.1 h.2.2
  exact ⟨hhonest.sane.fair.clear, fun socket now s' h hwithin hheeds =>
    (hhonest.deliver h hwithin hheeds).2⟩

/-! ### A page that is reloaded, and one that is not -/

/-- A room of an arena with no food. -/
def bareRoom : RoomConfig := ⟨bare, 60, 8, 30000⟩

/-- The socket drops and the page goes on on a second one with what it kept, before the server
hears of the end of the first.  It is reloaded, counts past the snake while there is no socket, and
goes on on a third. -/
def reconnects : List LinkEvent :=
  [.connect "a" 0 true, .poll 1 false 50, .deliver 0 100, .server (.tick 150), .lost,
    .poll 2 false 50, .connect "a" 300 true, .server (.disconnect 0 320), .poll 1 false 50,
    .deliver 1 350, .deliver 1 400, .server (.tick 450), .reload, .poll 2 false 50,
    .poll 2 false 50, .poll 2 false 50, .connect "a" 600 false, .server (.disconnect 1 620),
    .poll 2 false 50, .poll (-1) false 50, .deliver 2 700, .server (.tick 750)]

theorem steering_kept_reconnected : ∃ s s' : Link, ∃ command,
    Run (Guarded (Step bareRoom rounded 7) fun s e => s.Within bareRoom e ∧ s.Heeds bareRoom 7 e)
      (opened bareRoom rounded) reconnects s ∧
    (∀ seat, s.server.room.seats.get 7 = some seat → seat.shadowbanned = false) ∧
    s.Step bareRoom rounded 7 (.deliver 2 800) s' ∧ s.Accepts bareRoom 2 800 command ∧
      Steers 7 s'.server.room.world command := by
  have run : (follow (after bareRoom rounded 7)
      (fun s e => s.Within bareRoom e ∧ s.Heeds bareRoom 7 e) (opened bareRoom rounded)
      reconnects).any (fun s =>
        (s.after bareRoom rounded 7 (.deliver 2 800)).isSome &&
          decide (s.Within bareRoom (.deliver 2 800) ∧ s.Heeds bareRoom 7 (.deliver 2 800) ∧
            s.page.socket = some 2)) = true := by
    decide +kernel
  obtain ⟨s, hs, htest⟩ := (Option.any_eq_true _ _).mp run
  rw [Bool.and_eq_true, decide_eq_true_iff] at htest
  obtain ⟨hsome, hwithin, hheeds, hsocket⟩ := htest
  obtain ⟨s', hs'⟩ := Option.isSome_iff_exists.mp hsome
  have hrun := run_of_follow hs
  obtain ⟨hclear, hdeliver⟩ := steering_kept ⟨_, _, rfl, hrun⟩
  obtain ⟨command, rest, -, haccepts, hsteers⟩ := hdeliver 2 800 s' hs' hwithin hheeds
  exact ⟨s, s', command, hrun, hclear, hs', haccepts, hsteers hsocket⟩

/-- The player is not shadowbanned, and what arrives next within budget on the page's socket is
accepted, and steers the snake. -/
def Steered (config : RoomConfig) (maths : Maths) (p : ℕ) (s : Link) : Prop :=
  (∀ seat, s.server.room.seats.get p = some seat → seat.shadowbanned = false) ∧
  ∀ socket now s', s.Step config maths p (.deliver socket now) s' →
    s.Within config (.deliver socket now) → s.page.socket = some socket →
    ∃ command rest, s.flight socket = command :: rest ∧ s.Accepts config socket now command ∧
      Steers p s'.server.room.world command

/-- After a reload the first command is numbered 1, which the snake has acknowledged. -/
theorem steering_lost_reload : ¬∀ s,
    Reachable (Guarded (Step bareRoom rounded 7) fun s e => s.Within bareRoom e)
      (· = opened bareRoom rounded) s → Steered bareRoom rounded 7 s := by
  intro hclaim
  have run : (follow (after bareRoom rounded 7) (fun s e => s.Within bareRoom e)
      (opened bareRoom rounded)
      [.connect "a" 0 true, .poll 1 false 50, .deliver 0 100, .server (.tick 150), .reload,
        .connect "a" 200 true, .poll 2 false 50]).any (fun s =>
        decide (s.page.socket = some 1 ∧ s.Within bareRoom (.deliver 1 300) ∧
          (s.flight 1).head?.map (·.angle) = some (.finite 2)) &&
        (s.after bareRoom rounded 7 (.deliver 1 300)).any fun s' =>
          decide (s'.server.room.world.playerIndex.get 7 = some 1 ∧
            ((applyInputs s'.server.room.world).snakes.get 1).map (fun snake =>
              (snake.alive, snake.targetAngle)) = some (true, some 1))) = true := by
    decide +kernel
  obtain ⟨s, hs, htest⟩ := (Option.any_eq_true _ _).mp run
  rw [Bool.and_eq_true, decide_eq_true_iff] at htest
  obtain ⟨⟨hsocket, hwithin, hangle⟩, htest⟩ := htest
  obtain ⟨s', hs', htest⟩ := (Option.any_eq_true _ _).mp htest
  obtain ⟨hentry, hsnake⟩ := of_decide_eq_true htest
  obtain ⟨command, rest, hflight, -, id, snake, hid, hget, hsteers⟩ :=
    (hclaim s ⟨_, _, rfl, run_of_follow hs⟩).2 1 300 s' hs' hwithin hsocket
  obtain rfl := Option.some.inj (hentry.symm.trans hid)
  rw [hget, Option.map_some, Option.some.injEq, Prod.mk.injEq] at hsnake
  rw [hflight, List.head?_cons, Option.map_some, Option.some.injEq] at hangle
  have htarget := congrArg Steering.targetAngle (hsteers hsnake.1)
  rw [hsnake.2, hangle] at htarget
  exact absurd (Option.some.inj htarget) (by norm_num)

/-- A page that goes on counting has counted past the jump limit. -/
theorem steering_lost_jump : ¬∀ s,
    Reachable (Guarded (Step bareRoom rounded 7) fun s e => s.Within bareRoom e)
      (· = opened bareRoom rounded) s → Steered bareRoom rounded 7 s := by
  intro hclaim
  have run : (follow (after bareRoom rounded 7) (fun s e => s.Within bareRoom e)
      (opened bareRoom rounded)
      (.connect "a" 0 true :: List.replicate 600 (.poll 1 false 50) ++
        [.lost, .server (.disconnect 0 20000), .connect "a" 21000 true, .poll 2 false 50])).any
      (fun s => decide (s.page.socket = some 1 ∧ s.Within bareRoom (.deliver 1 21100) ∧
        (s.flight 1).map (fun command =>
          (validateInputBatch (s.server.getGuard bareRoom 1 21100) [command]
            (SocketServer.validationOptions bareRoom 21100)).2.accepted.length) = [0]) &&
        (s.after bareRoom rounded 7 (.deliver 1 21100)).isSome) = true := by
    decide +kernel
  obtain ⟨s, hs, htest⟩ := (Option.any_eq_true _ _).mp run
  rw [Bool.and_eq_true, decide_eq_true_iff] at htest
  obtain ⟨⟨hsocket, hwithin, hrejected⟩, hsome⟩ := htest
  obtain ⟨s', hs'⟩ := Option.isSome_iff_exists.mp hsome
  obtain ⟨command, rest, hflight, haccepts, -⟩ :=
    (hclaim s ⟨_, _, rfl, run_of_follow hs⟩).2 1 21100 s' hs' hwithin hsocket
  rw [hflight, List.map_cons, haccepts] at hrejected
  cases hrejected

end Link

end SnakeArena.Realtime
