import Mathlib.Data.List.Dedup
import SnakeArena.Realtime.LiveRoom

/-!
# Realtime — survival decides

A run of a started room is a list of events.  Beside the room it leaves two lists: the players
in the order they sat down, and the players in the order they went out, by death, by leaving or
by an expired disconnect, each as often as it happened.  `Room.Tracks` says that the record of
the room is what these lists say, and only the first time a player goes out counts.

The standings follow from it (`standings_survival`).  Whether the match is decided does not:
`isResolved` counts the seats with a snake in the world, and the snake of a player who died is
still there (`resolved_iff`).
-/

namespace SnakeArena.Realtime
open SnakeArena.Library SnakeArena.Worker

/-- What happens to a started room. -/
inductive RoomEvent where
  | join (playerId : ℕ)
  | leave (playerId : ℕ)
  | disconnect (playerId nowMs : ℕ)
  | respawn (playerId : ℕ)
  | tick (nowMs : ℕ) (motion : Motion)
  | drain
  | close

namespace LiveRoom

def after (graceMs : ℕ) (room : LiveRoom) : RoomEvent → LiveRoom
  | .join playerId => room.addPlayer playerId
  | .leave playerId => room.removePlayer playerId
  | .disconnect playerId nowMs => room.markDisconnected playerId nowMs
  | .respawn playerId => room.respawn playerId
  | .tick nowMs motion => room.tick graceMs nowMs motion
  | .drain => room.drain
  | .close => room.close

/-- Who goes out, in order. -/
def goesOut (graceMs : ℕ) (room : LiveRoom) : RoomEvent → List ℕ
  | .leave playerId => if playerId ∈ room.seats then [playerId] else []
  | .tick nowMs motion =>
      if room.running then
        (room.step motion).2.map (·.victimPlayerId) ++
          room.seats.filter (room.expired graceMs nowMs)
      else []
  | _ => []

/-- The room after the events. -/
def play (graceMs : ℕ) (room : LiveRoom) : List RoomEvent → LiveRoom
  | [] => room
  | e :: es => play graceMs (room.after graceMs e) es

/-- Everyone who goes out during the events, in order. -/
def outs (graceMs : ℕ) (room : LiveRoom) : List RoomEvent → List ℕ
  | [] => []
  | e :: es => room.goesOut graceMs e ++ outs graceMs (room.after graceMs e) es

end LiveRoom

def RoomEvent.sits : RoomEvent → Option ℕ
  | .join playerId => some playerId
  | _ => none

/-- Everyone who sits down during the events, in order. -/
def joins (es : List RoomEvent) : List ℕ := es.filterMap RoomEvent.sits

/-! ### What the record says -/

namespace Room

/-- `p` went out after `q`. -/
def OutAfter (room : Room) (p q : ℕ) : Prop :=
  ∃ e f, room.eliminations.get p = some e ∧ room.eliminations.get q = some f ∧ f.tick < e.tick

/-- The record after `sat` sat down and `out` went out. -/
structure Tracks (sat out : List ℕ) (room : Room) : Prop where
  entered : ∀ p, p ∈ room.entrants ↔ p ∈ sat
  seated : ∀ p ∈ room.seats, p ∈ sat
  distinct : room.seats.Nodup
  snakes : ∀ p, (room.snakes.get p).isSome = true → p ∈ sat
  out_sat : ∀ p ∈ out, p ∈ sat
  eliminated : ∀ p, (room.eliminations.get p).isSome = true ↔ p ∈ out
  counted : ∀ p e, room.eliminations.get p = some e → e.tick ≤ room.eliminationCounter
  /-- The last to go out first, each by the first time they did. -/
  latest : out.reverse.dedup.Pairwise room.OutAfter

section Tracks
variable {sat out : List ℕ} {room room' : Room} {p : ℕ}

/-- Nothing but seats and snakes changed, and they are of players who sat down. -/
theorem Tracks.frame (h : room.Tracks sat out) (hentrants : room'.entrants = room.entrants)
    (heliminations : room'.eliminations = room.eliminations)
    (hcounter : room'.eliminationCounter = room.eliminationCounter)
    (hseats : ∀ p ∈ room'.seats, p ∈ sat) (hdistinct : room'.seats.Nodup)
    (hsnakes : ∀ p, (room'.snakes.get p).isSome = true → p ∈ sat) : room'.Tracks sat out where
  entered := by rw [hentrants]; exact h.entered
  seated := hseats
  distinct := hdistinct
  snakes := hsnakes
  out_sat := h.out_sat
  eliminated := by rw [heliminations]; exact h.eliminated
  counted := by rw [heliminations, hcounter]; exact h.counted
  latest := h.latest.imp fun ⟨e, f, he, hf, hlt⟩ =>
    ⟨e, f, by rw [heliminations]; exact he, by rw [heliminations]; exact hf, hlt⟩

/-- Going out again leaves the record, and the first time is recorded after all others. -/
theorem Tracks.eliminate (h : room.Tracks sat out) (hp : p ∈ sat) :
    (room.eliminate p).Tracks sat (out ++ [p]) := by
  have hsat : ∀ q ∈ out ++ [p], q ∈ sat := by
    intro q hq
    obtain hq | hq := List.mem_append.mp hq
    · exact h.out_sat q hq
    · exact List.mem_singleton.mp hq ▸ hp
  unfold Room.eliminate
  cases hget : room.eliminations.get p with
  | some e =>
      have hout : p ∈ out := (h.eliminated p).mp (by rw [hget]; rfl)
      refine ⟨h.entered, h.seated, h.distinct, h.snakes, hsat, fun q => ?_, h.counted, ?_⟩
      · rw [h.eliminated q, List.mem_append, List.mem_singleton]
        exact ⟨.inl, fun hq => hq.elim id fun e => e ▸ hout⟩
      · rw [List.reverse_append, List.reverse_singleton, List.singleton_append,
          List.dedup_cons_of_mem (List.mem_reverse.mpr hout)]
        exact h.latest
  | none =>
      have hout : p ∉ out := fun hmem => by
        have := (h.eliminated p).mpr hmem
        rw [hget] at this
        cases this
      have hne : ∀ q ∈ out, q ≠ p := fun q hq e => hout (e ▸ hq)
      refine ⟨h.entered, h.seated, h.distinct, h.snakes, hsat, fun q => ?_, fun q e he => ?_, ?_⟩
      · rw [Table.get_upd, List.mem_append, List.mem_singleton, ← h.eliminated q]
        split
        case isTrue e => exact iff_of_true rfl (.inr e)
        case isFalse e => exact ⟨.inl, fun hq => hq.resolve_right e⟩
      · rw [Table.get_upd] at he
        split at he
        · obtain rfl := Option.some.inj he
          exact le_rfl
        · exact (h.counted q e he).trans (Nat.le_succ _)
      · rw [List.reverse_append, List.reverse_singleton, List.singleton_append,
          List.dedup_cons_of_notMem (by rwa [List.mem_reverse]), List.pairwise_cons]
        refine ⟨fun q hq => ?_, h.latest.imp_of_mem fun {a b} ha hb hab => ?_⟩
        · rw [List.mem_dedup, List.mem_reverse] at hq
          obtain ⟨e, he⟩ := Option.isSome_iff_exists.mp ((h.eliminated q).mpr hq)
          refine ⟨_, e, Table.get_upd_same _ _ _, ?_, Nat.lt_succ_of_le (h.counted q e he)⟩
          rw [Table.get_upd_other (hne q hq)]
          exact he
        · rw [List.mem_dedup, List.mem_reverse] at ha hb
          obtain ⟨e, f, he, hf, hlt⟩ := hab
          refine ⟨e, f, ?_, ?_, hlt⟩
          · rw [Table.get_upd_other (hne a ha)]
            exact he
          · rw [Table.get_upd_other (hne b hb)]
            exact hf

/-- A death is recorded as the end of a player who sat down. -/
theorem Tracks.die (h : room.Tracks sat out) (hp : p ∈ sat) (finalScore : ℕ) :
    (room.die p finalScore).Tracks sat (out ++ [p]) := by
  refine Tracks.eliminate ?_ hp
  exact h.frame rfl rfl rfl h.seated h.distinct h.snakes

/-- The record of an end leaves the seats. -/
theorem eliminate_seats (room : Room) (p : ℕ) : (room.eliminate p).seats = room.seats := by
  unfold Room.eliminate
  split <;> rfl

/-- The record of an end leaves the snakes. -/
theorem eliminate_snakes (room : Room) (p : ℕ) : (room.eliminate p).snakes = room.snakes := by
  unfold Room.eliminate
  split <;> rfl

/-- Leaving gives up the seat, is recorded, and takes the snake away. -/
theorem removePlayer_eq (hp : p ∈ room.seats) : ∃ figures,
    let left := { room with
      seats := room.seats.filter (· ≠ p)
      finalScores := figures }.eliminate p
    room.removePlayer p = { left with snakes := left.snakes.del p } := by
  simp only [Room.removePlayer, if_pos hp]
  cases room.eliminations.get p with
  | some _ => exact ⟨_, rfl⟩
  | none =>
      cases room.snakes.get p with
      | some _ => exact ⟨_, rfl⟩
      | none => exact ⟨_, rfl⟩

/-- The seat is given up. -/
theorem removePlayer_seats (hp : p ∈ room.seats) :
    (room.removePlayer p).seats = room.seats.filter (· ≠ p) := by
  obtain ⟨figures, e⟩ := removePlayer_eq hp
  rw [e, eliminate_seats]

/-- The snake goes with its player. -/
theorem removePlayer_snakes (hp : p ∈ room.seats) :
    (room.removePlayer p).snakes = room.snakes.del p := by
  obtain ⟨figures, e⟩ := removePlayer_eq hp
  rw [e, eliminate_snakes]

/-- Who leaves goes out, if they had not before. -/
theorem Tracks.removePlayer (h : room.Tracks sat out) (hp : p ∈ room.seats) :
    (room.removePlayer p).Tracks sat (out ++ [p]) := by
  obtain ⟨figures, e⟩ := removePlayer_eq hp
  have hseats : ∀ q ∈ room.seats.filter (· ≠ p), q ∈ sat :=
    fun q hq => h.seated q (List.mem_filter.mp hq).1
  have hleft : Tracks sat (out ++ [p])
      ({ room with seats := room.seats.filter (· ≠ p), finalScores := figures }.eliminate p) := by
    refine Tracks.eliminate ?_ (h.seated p hp)
    exact h.frame rfl rfl rfl hseats (h.distinct.filter _) h.snakes
  rw [e]
  refine hleft.frame rfl rfl rfl hleft.seated hleft.distinct fun q hq => ?_
  rw [Table.get_del] at hq
  split at hq
  · cases hq
  · exact hleft.snakes q hq

/-- `p` sat down, where or however often they sat before. -/
theorem Tracks.join (h : room.Tracks sat out)
    (hentrants : ∀ q, q ∈ room'.entrants ↔ q ∈ room.entrants ∨ q = p)
    (heliminations : room'.eliminations = room.eliminations)
    (hcounter : room'.eliminationCounter = room.eliminationCounter)
    (hseats : ∀ q ∈ room'.seats, q ∈ room.seats ∨ q = p) (hdistinct : room'.seats.Nodup)
    (hsnakes : ∀ q, (room'.snakes.get q).isSome = true →
      (room.snakes.get q).isSome = true ∨ q = p) : room'.Tracks (sat ++ [p]) out := by
  have hsat : ∀ q, q ∈ sat ++ [p] ↔ q ∈ sat ∨ q = p := by simp
  refine ⟨fun q => ?_, fun q hq => ?_, hdistinct, fun q hq => ?_, fun q hq => ?_, ?_, ?_, ?_⟩
  · rw [hentrants, hsat, h.entered]
  · exact (hsat q).mpr ((hseats q hq).imp_left (h.seated q))
  · exact (hsat q).mpr ((hsnakes q hq).imp_left (h.snakes q))
  · exact (hsat q).mpr (.inl (h.out_sat q hq))
  · rw [heliminations]
    exact h.eliminated
  · rw [heliminations, hcounter]
    exact h.counted
  · exact h.latest.imp fun ⟨e, f, he, hf, hlt⟩ =>
      ⟨e, f, by rw [heliminations]; exact he, by rw [heliminations]; exact hf, hlt⟩

/-- A newcomer's seat is the last. -/
theorem addPlayer_seats (hp : p ∉ room.seats) :
    (room.addPlayer p).seats = room.seats ++ [p] := by
  rw [Room.addPlayer, if_neg hp]

/-- A newcomer is an entrant from then on, whatever becomes of them. -/
theorem addPlayer_entrants (hp : p ∉ room.seats) (q : ℕ) :
    q ∈ (room.addPlayer p).entrants ↔ q ∈ room.entrants ∨ q = p := by
  rw [Room.addPlayer, if_neg hp]
  dsimp only
  split
  case isTrue hmem => exact ⟨.inl, fun hq => hq.elim id fun e => e ▸ hmem⟩
  case isFalse => simp

end Tracks

/-- Whoever has not gone out holds a seat, and whoever holds one has a snake. -/
structure Playing (sat out : List ℕ) (room : Room) : Prop where
  playing : ∀ p ∈ sat, p ∉ out → p ∈ room.seats
  snakes : ∀ p ∈ room.seats, (room.snakes.get p).isSome = true

section Playing
variable {sat out : List ℕ} {room room' : Room} {p : ℕ}

/-- The seats stay, and no snake is lost. -/
theorem Playing.frame (h : room.Playing sat out) (hseats : room'.seats = room.seats)
    (hsnakes : ∀ p, (room.snakes.get p).isSome = true → (room'.snakes.get p).isSome = true) :
    room'.Playing sat out where
  playing := by rw [hseats]; exact h.playing
  snakes := by
    rw [hseats]
    exact fun p hp => hsnakes p (h.snakes p hp)

/-- Those who go out later may keep their seats. -/
theorem Playing.later (h : room.Playing sat out) (more : List ℕ) :
    room.Playing sat (out ++ more) where
  playing p hp hout := h.playing p hp fun hmem => hout (List.mem_append_left _ hmem)
  snakes := h.snakes

/-- Who leaves has no seat any more, and had gone out. -/
theorem Playing.removePlayer (h : room.Playing sat out) (hp : p ∈ room.seats) :
    (room.removePlayer p).Playing sat (out ++ [p]) where
  playing q hq hout := by
    rw [List.mem_append, not_or, List.mem_singleton] at hout
    rw [removePlayer_seats hp, List.mem_filter]
    exact ⟨h.playing q hq hout.1, by simpa using hout.2⟩
  snakes q hq := by
    rw [removePlayer_seats hp, List.mem_filter] at hq
    rw [removePlayer_snakes hp, Table.get_del_other (by simpa using hq.2)]
    exact h.snakes q hq.1

end Playing

end Room

/-! ### The standings of a record -/

/-- A list in which `P` comes first is the part with `P` before the part without. -/
theorem split_first {α : Type*} {P : α → Prop} [DecidablePred P] {l : List α}
    (h : l.Pairwise fun a b => P b → P a) :
    l = l.filter (fun a => P a) ++ l.filter fun a => ¬P a := by
  induction l with
  | nil => rfl
  | cons a l ih =>
      rw [List.pairwise_cons] at h
      by_cases ha : P a
      · rw [List.filter_cons_of_pos (by simpa using ha),
          List.filter_cons_of_neg (by simpa using ha), List.cons_append, ← ih h.2]
      · -- from here on nobody has `P`
        have hnone : ∀ b ∈ l, ¬P b := fun b hb hpb => ha (h.1 b hb hpb)
        rw [List.filter_cons_of_neg (by simpa using ha),
          List.filter_cons_of_pos (by simpa using ha),
          List.filter_eq_nil_iff.mpr fun b hb => by simpa using hnone b hb,
          List.filter_eq_self.mpr fun b hb => by simpa using hnone b hb, List.nil_append]

namespace Room
variable {sat out : List ℕ} {room : Room}

/-- The order of those who are still in is above every number. -/
theorem order_eq_top (h : room.Tracks sat out) (p : ℕ) :
    (room.row p).eliminationOrder = ⊤ ↔ p ∉ out := by
  rw [← h.eliminated, row]
  cases room.eliminations.get p <;> simp

/-- Who goes out later has the higher order. -/
theorem order_of_outAfter {p q : ℕ} (h : room.OutAfter p q) :
    (room.row q).eliminationOrder < (room.row p).eliminationOrder := by
  obtain ⟨e, f, he, hf, hlt⟩ := h
  simp only [row, he, hf]
  exact_mod_cast hlt

/-- Two who went out did not do so at once. -/
theorem order_injective (h : room.Tracks sat out) {p q : ℕ} (hp : p ∈ out) (hq : q ∈ out)
    (e : (room.row p).eliminationOrder = (room.row q).eliminationOrder) : p = q := by
  by_contra hne
  have hall := (h.latest.imp fun {a b} hab => (Or.inl hab : room.OutAfter a b ∨ room.OutAfter b a))
  have : Std.Symm fun a b => room.OutAfter a b ∨ room.OutAfter b a := ⟨fun _ _ => Or.symm⟩
  have hmem : ∀ {r}, r ∈ out → r ∈ out.reverse.dedup := fun hr =>
    List.mem_dedup.mpr (List.mem_reverse.mpr hr)
  obtain hafter | hafter := hall.forall (hmem hp) (hmem hq) hne
  · exact (order_of_outAfter hafter).ne' e
  · exact (order_of_outAfter hafter).ne e

/-- **The order of the standings.**  First whoever never went out, then the others, the last to
go out first. -/
theorem standings_order (h : room.Tracks sat out) : ∃ survivors,
    room.standings.map (·.playerId) = survivors ++ out.reverse.dedup ∧
      survivors.Perm (sat.dedup.filter (· ∉ out)) := by
  let order := fun p => (room.row p).eliminationOrder
  have hids := room.standings_playerIds
  have hnodup := hids.nodup_iff.mpr room.nodup
  have hmem : ∀ p, p ∈ room.standings.map (·.playerId) ↔ p ∈ sat := fun p => by
    rw [hids.mem_iff, h.entered]
  -- the sort leaves the latest first
  have hsorted : (room.standings.map (·.playerId)).Pairwise fun p q => order q ≤ order p := by
    rw [standings_rows, List.pairwise_map]
    have hrow : ∀ r ∈ (room.entrants.map room.row).insertionSort Row.before,
        order r.playerId = r.eliminationOrder := by
      intro r hr
      rw [List.mem_insertionSort, List.mem_map] at hr
      obtain ⟨p, -, rfl⟩ := hr
      rfl
    refine (List.pairwise_insertionSort Row.before _).imp_of_mem fun {a b} ha hb hab => ?_
    rw [hrow a ha, hrow b hb]
    obtain hlt | ⟨e, -⟩ := hab
    · exact hlt.le
    · exact e.ge
  have hfirst := @split_first ℕ (· ∉ out) _ _ (hsorted.imp fun {p q} hpq hq => by
    rw [← order_eq_top h] at hq ⊢
    exact top_le_iff.mp (hq ▸ hpq))
  have hlast : (room.standings.map (·.playerId)).filter (fun p => ¬p ∉ out) =
      out.reverse.dedup := by
    refine @List.Perm.eq_of_pairwise ℕ (fun p q => order q ≤ order p) _ _ ?_ (hsorted.filter _)
      (h.latest.imp fun hafter => (order_of_outAfter hafter).le) ?_
    · intro p q hp hq hpq hqp
      refine order_injective h ?_ (by simpa using hq) (le_antisymm hqp hpq)
      simpa using (List.mem_filter.mp hp).2
    · refine (List.perm_ext_iff_of_nodup (hnodup.filter _) (List.nodup_dedup _)).mpr fun p => ?_
      rw [List.mem_filter, hmem, List.mem_dedup, List.mem_reverse, decide_eq_true_iff, not_not]
      exact ⟨And.right, fun hp => ⟨h.out_sat p hp, hp⟩⟩
  refine ⟨_, hfirst.trans (by rw [hlast]), ?_⟩
  refine (List.perm_ext_iff_of_nodup (hnodup.filter _)
    ((List.nodup_dedup _).filter _)).mpr fun p => ?_
  rw [List.mem_filter, List.mem_filter, hmem, List.mem_dedup]

end Room

/-! ### What an event does to the record -/

namespace LiveRoom
variable {room room' : LiveRoom} {sat out : List ℕ} {p : ℕ}

/-- The world moved on: of the record, only figures of snakes changed. -/
structure Sweeps (room room' : LiveRoom) : Prop where
  entrants : room'.entrants = room.entrants
  seats : room'.seats = room.seats
  eliminations : room'.eliminations = room.eliminations
  counter : room'.eliminationCounter = room.eliminationCounter
  disconnected : room'.disconnectedAtMs = room.disconnectedAtMs
  status : room'.status = room.status
  snakes : ∀ p, (room'.snakes.get p).isSome = (room.snakes.get p).isSome

theorem Sweeps.refl (room : LiveRoom) : Sweeps room room :=
  ⟨rfl, rfl, rfl, rfl, rfl, rfl, fun _ => rfl⟩

/-- What two moves of the world do to the record. -/
theorem Sweeps.trans {room₁ : LiveRoom} (h : Sweeps room room₁) (h' : Sweeps room₁ room') :
    Sweeps room room' :=
  ⟨h'.entrants.trans h.entrants, h'.seats.trans h.seats, h'.eliminations.trans h.eliminations,
    h'.counter.trans h.counter, h'.disconnected.trans h.disconnected, h'.status.trans h.status,
    fun p => (h'.snakes p).trans (h.snakes p)⟩

/-- The record of who went out is not the world's. -/
theorem Sweeps.tracks (h : Sweeps room room') (ht : room.Tracks sat out) :
    room'.Tracks sat out := by
  refine ht.frame h.entrants h.eliminations h.counter ?_ ?_ fun p hp => ht.snakes p ?_
  · rw [h.seats]
    exact ht.seated
  · rw [h.seats]
    exact ht.distinct
  · rwa [← h.snakes p]

/-- A snake that dies is in the world until its player respawns or leaves. -/
theorem Sweeps.playing (h : Sweeps room room') (hp : room.Playing sat out) :
    room'.Playing sat out :=
  hp.frame h.seats fun p hs => by rwa [h.snakes p]

/-- Moving the snakes. -/
theorem sweeps_move (room : LiveRoom) (motion : Motion) : Sweeps room (room.moveSnakes motion) :=
  ⟨rfl, rfl, rfl, rfl, rfl, rfl, fun p => by simp [moveSnakes]⟩

/-- A snake dies in the world, not in the record. -/
theorem sweeps_kill (room : LiveRoom) (p : ℕ) : Sweeps room (room.kill p) :=
  ⟨rfl, rfl, rfl, rfl, rfl, rfl, fun _ => rfl⟩

/-- A kill is counted. -/
theorem sweeps_credit (room : LiveRoom) (p : ℕ) : Sweeps room (room.credit p) :=
  ⟨rfl, rfl, rfl, rfl, rfl, rfl, fun q => by simp [credit]⟩

/-- One snake of the sweep: who dies has a snake in the world. -/
theorem sweeps_collide (motion : Motion) (room : LiveRoom) (p : ℕ) :
    Sweeps room (collide motion room p).1 ∧
      ∀ d ∈ (collide motion room p).2, (room.snakes.get d.victimPlayerId).isSome = true := by
  unfold collide
  cases hsnake : room.snakes.get p with
  | none => exact ⟨.refl room, nofun⟩
  | some snake =>
      have hdead : ∀ d : DeathEvent, d.victimPlayerId = p →
          (room.snakes.get d.victimPlayerId).isSome = true := by
        rintro d rfl
        rw [hsnake]
        rfl
      simp only
      split
      · exact ⟨.refl room, nofun⟩
      split
      · exact ⟨sweeps_kill room p, fun d hd => hdead d (List.mem_singleton.mp hd ▸ rfl)⟩
      split
      · exact ⟨.refl room, nofun⟩
      · exact ⟨(sweeps_kill room p).trans (sweeps_credit _ _),
          fun d hd => hdead d (List.mem_singleton.mp hd ▸ rfl)⟩

/-- The sweep over the snakes: those it kills have a snake. -/
theorem sweeps_detect (motion : Motion) (order : List ℕ) : ∀ room : LiveRoom,
    Sweeps room (detectCollisions motion room order).1 ∧
      ∀ d ∈ (detectCollisions motion room order).2,
        (room.snakes.get d.victimPlayerId).isSome = true := by
  induction order with
  | nil => exact fun room => ⟨.refl room, nofun⟩
  | cons p rest ih =>
      intro room
      obtain ⟨hfirst, hdead⟩ := sweeps_collide motion room p
      obtain ⟨hrest, hlater⟩ := ih (collide motion room p).1
      refine ⟨hfirst.trans hrest, fun d hd => ?_⟩
      obtain hd | hd := List.mem_append.mp hd
      · exact hdead d hd
      · rw [← hfirst.snakes]
        exact hlater d hd

/-- A step of the world, and the deaths that it reports. -/
theorem sweeps_step (room : LiveRoom) (motion : Motion) : Sweeps room (room.step motion).1 ∧
    ∀ d ∈ (room.step motion).2, (room.snakes.get d.victimPlayerId).isSome = true := by
  obtain ⟨hsweeps, hdead⟩ := sweeps_detect motion room.order (room.moveSnakes motion)
  have hmove := sweeps_move room motion
  refine ⟨hmove.trans ⟨hsweeps.entrants, hsweeps.seats, hsweeps.eliminations, hsweeps.counter,
    hsweeps.disconnected, hsweeps.status, hsweeps.snakes⟩, fun d hd => ?_⟩
  rw [← hmove.snakes]
  exact hdead d hd

/-! ### Deaths and evictions -/

/-- The deaths are recorded, and leave the seats. -/
theorem deaths_seats (deaths : List DeathEvent) : ∀ room : LiveRoom,
    (deaths.foldl die room).seats = room.seats ∧ (deaths.foldl die room).snakes = room.snakes ∧
      (deaths.foldl die room).disconnectedAtMs = room.disconnectedAtMs ∧
        (deaths.foldl die room).status = room.status := by
  induction deaths with
  | nil => exact fun room => ⟨rfl, rfl, rfl, rfl⟩
  | cons d deaths ih =>
      intro room
      obtain ⟨hseats, hsnakes, hdisconnected, hstatus⟩ := ih (room.die d)
      refine ⟨hseats.trans ?_, hsnakes.trans ?_, hdisconnected, hstatus⟩
      · exact Room.eliminate_seats _ _
      · exact Room.eliminate_snakes _ _

/-- Each death of a step is recorded, in the order of the sweep. -/
theorem deaths_tracks (deaths : List DeathEvent) : ∀ {room : LiveRoom} {out : List ℕ},
    room.Tracks sat out → (∀ d ∈ deaths, d.victimPlayerId ∈ sat) →
      (deaths.foldl die room).Tracks sat (out ++ deaths.map (·.victimPlayerId)) := by
  induction deaths with
  | nil =>
      intro room out h _
      simpa using h
  | cons d deaths ih =>
      intro room out h hdead
      have hd : (room.die d).Tracks sat (out ++ [d.victimPlayerId]) :=
        h.die (hdead d List.mem_cons_self) d.finalScore
      have := ih hd fun d' hd' => hdead d' (List.mem_cons_of_mem _ hd')
      rwa [List.append_assoc, List.singleton_append] at this

/-- What leaves with a player: the seat, the snake, and the mark of the closed socket. -/
theorem removePlayer_of_mem (hp : p ∈ room.seats) :
    (room.removePlayer p).seats = room.seats.filter (· ≠ p) ∧
      (room.removePlayer p).disconnectedAtMs = room.disconnectedAtMs.del p ∧
        (room.removePlayer p).status = room.status := by
  rw [removePlayer, if_pos hp]
  exact ⟨Room.removePlayer_seats hp, rfl, rfl⟩

/-- The record of the room is the record's. -/
theorem removePlayer_record (hp : p ∈ room.seats) :
    (room.removePlayer p).toRoom = room.toRoom.removePlayer p := by
  obtain ⟨figures, e⟩ := Room.removePlayer_eq hp
  simp only [removePlayer, if_pos hp, despawnSnake, e]
  congr 1
  ext q : 2
  simp only [Table.get_del]
  split <;> rfl

/-- Someone else's grace window is their own. -/
theorem expired_removePlayer {graceMs nowMs q : ℕ} (hp : p ∈ room.seats) (hq : q ≠ p) :
    (room.removePlayer p).expired graceMs nowMs q = room.expired graceMs nowMs q := by
  simp only [expired, (removePlayer_of_mem hp).2.1, Table.get_del_other hq]

/-- The loop over the seats evicts those that had expired when it began. -/
theorem evict_all (graceMs nowMs : ℕ) (seats : List ℕ) (hnodup : seats.Nodup) :
    ∀ {room : LiveRoom} {out : List ℕ}, (∀ p ∈ seats, p ∈ room.seats) → room.Tracks sat out →
      let evicted := seats.foldl (fun room p =>
        if room.expired graceMs nowMs p then room.removePlayer p else room) room
      evicted.Tracks sat (out ++ seats.filter (room.expired graceMs nowMs)) ∧
        (room.Playing sat out →
          evicted.Playing sat (out ++ seats.filter (room.expired graceMs nowMs))) ∧
        evicted.status = room.status := by
  induction seats with
  | nil =>
      intro room out _ h
      simpa using h
  | cons p rest ih =>
      intro room out hseats h
      rw [List.nodup_cons] at hnodup
      have hp : p ∈ room.seats := hseats p List.mem_cons_self
      have hrest : ∀ q ∈ rest, q ∈ room.seats := fun q hq => hseats q (List.mem_cons_of_mem _ hq)
      have hne : ∀ q ∈ rest, q ≠ p := fun q hq e => hnodup.1 (e ▸ hq)
      rw [List.foldl_cons, List.filter_cons]
      cases hexpired : room.expired graceMs nowMs p with
      | false =>
          simp only [Bool.false_eq_true, if_false]
          exact ih hnodup.2 hrest h
      | true =>
          obtain ⟨hleft, -, hstatus⟩ := removePlayer_of_mem hp
          have htracks : (room.removePlayer p).Tracks sat (out ++ [p]) := by
            rw [removePlayer_record hp]
            exact h.removePlayer hp
          have hothers : rest.filter ((room.removePlayer p).expired graceMs nowMs) =
              rest.filter (room.expired graceMs nowMs) :=
            List.filter_congr fun q hq => expired_removePlayer hp (hne q hq)
          obtain ⟨hall, hplays, hsame⟩ := ih hnodup.2 (fun q hq => by
            rw [hleft, List.mem_filter]
            exact ⟨hrest q hq, by simpa using hne q hq⟩) htracks
          rw [hothers, List.append_assoc, List.singleton_append] at hall
          simp only [if_true]
          refine ⟨hall, fun hplaying => ?_, hsame.trans hstatus⟩
          have hplaying' : (room.removePlayer p).Playing sat (out ++ [p]) := by
            rw [removePlayer_record hp]
            exact hplaying.removePlayer hp
          have := hplays hplaying'
          rwa [hothers, List.append_assoc, List.singleton_append] at this

/-! ### Events -/

/-- A snake is in the world from now on; the rest of the record stays. -/
theorem spawnSnake_record (room : LiveRoom) (p : ℕ) :
    (room.spawnSnake p).entrants = room.entrants ∧ (room.spawnSnake p).seats = room.seats ∧
      (room.spawnSnake p).eliminations = room.eliminations ∧
      (room.spawnSnake p).eliminationCounter = room.eliminationCounter ∧
      (room.spawnSnake p).status = room.status ∧
      ∀ q, ((room.spawnSnake p).snakes.get q).isSome = true ↔
        (room.snakes.get q).isSome = true ∨ q = p := by
  unfold spawnSnake
  cases hsnake : room.snakes.get p with
  | some snake =>
      refine ⟨rfl, rfl, rfl, rfl, rfl, fun q => ⟨.inl, ?_⟩⟩
      rintro (hq | rfl)
      · exact hq
      · rw [hsnake]
        rfl
  | none =>
      refine ⟨rfl, rfl, rfl, rfl, rfl, fun q => ?_⟩
      simp only [Table.get_upd]
      split
      case isTrue e => exact iff_of_true rfl (.inr e)
      case isFalse e => exact ⟨.inl, fun hq => hq.resolve_right e⟩

/-- A new seat, with a snake. -/
theorem addPlayer_record (hp : p ∉ room.seats) :
    (room.addPlayer p).seats = room.seats ++ [p] ∧
      (∀ q, q ∈ (room.addPlayer p).entrants ↔ q ∈ room.entrants ∨ q = p) ∧
      (room.addPlayer p).eliminations = room.eliminations ∧
      (room.addPlayer p).eliminationCounter = room.eliminationCounter ∧
      (room.addPlayer p).status = room.status ∧
      ∀ q, ((room.addPlayer p).snakes.get q).isSome = true ↔
        (room.snakes.get q).isSome = true ∨ q = p := by
  rw [addPlayer, if_neg hp]
  obtain ⟨hentrants, hseats, heliminations, hcounter, hstatus, hsnakes⟩ := spawnSnake_record
    { room with
      seats := (room.toRoom.addPlayer p).seats
      entrants := (room.toRoom.addPlayer p).entrants
      nodup := (room.toRoom.addPlayer p).nodup
      disconnectedAtMs := room.disconnectedAtMs.del p } p
  refine ⟨hseats.trans (Room.addPlayer_seats hp), fun q => ?_, heliminations, hcounter, hstatus,
    hsnakes⟩
  exact (iff_of_eq (congrArg (q ∈ ·) hentrants)).trans (Room.addPlayer_entrants hp q)

/-- A newcomer sat down; a reconnect did before. -/
theorem addPlayer_tracks (h : room.Tracks sat out) (p : ℕ) :
    (room.addPlayer p).Tracks (sat ++ [p]) out := by
  by_cases hp : p ∈ room.seats
  · rw [addPlayer, if_pos hp]
    have hentered : p ∈ room.entrants := (h.entered p).mpr (h.seated p hp)
    exact h.join (fun q => ⟨.inl, fun hq => hq.elim id fun e => e ▸ hentered⟩) rfl rfl
      (fun _ => .inl) h.distinct fun _ => .inl
  · obtain ⟨hseats, hentrants, heliminations, hcounter, -, hsnakes⟩ := addPlayer_record hp
    refine h.join hentrants heliminations hcounter (fun q hq => ?_) ?_ fun q => (hsnakes q).mp
    · rw [hseats] at hq
      simpa using hq
    · rw [hseats]
      exact List.nodup_append.mpr ⟨h.distinct, by simp, fun q hq r hr e =>
        hp (List.mem_singleton.mp hr ▸ e ▸ hq)⟩

/-- A newcomer has a seat and a snake. -/
theorem addPlayer_playing (h : room.Playing sat out) (p : ℕ) :
    (room.addPlayer p).Playing (sat ++ [p]) out := by
  by_cases hp : p ∈ room.seats
  · rw [addPlayer, if_pos hp]
    refine ⟨fun q hq hout => ?_, h.snakes⟩
    obtain hq | hq := List.mem_append.mp hq
    · exact h.playing q hq hout
    · exact List.mem_singleton.mp hq ▸ hp
  · obtain ⟨hseats, -, -, -, -, hsnakes⟩ := addPlayer_record hp
    refine ⟨fun q hq hout => ?_, fun q hq => ?_⟩
    · rw [hseats, List.mem_append]
      obtain hq | hq := List.mem_append.mp hq
      · exact .inl (h.playing q hq hout)
      · exact .inr hq
    · rw [hseats, List.mem_append] at hq
      exact (hsnakes q).mpr (hq.imp (h.snakes q) List.mem_singleton.mp)

/-- Who respawns has a snake again; nobody else's comes or goes. -/
theorem respawn_record (hp : p ∈ room.seats) :
    (room.respawn p).entrants = room.entrants ∧ (room.respawn p).seats = room.seats ∧
      (room.respawn p).eliminations = room.eliminations ∧
      (room.respawn p).eliminationCounter = room.eliminationCounter ∧
      (room.respawn p).status = room.status ∧
      ∀ q, ((room.respawn p).snakes.get q).isSome = true ↔
        (room.snakes.get q).isSome = true ∨ q = p := by
  rw [respawn, if_pos hp]
  obtain ⟨hentrants, hseats, heliminations, hcounter, hstatus, hsnakes⟩ :=
    spawnSnake_record (room.despawnSnake p) p
  refine ⟨hentrants, hseats, heliminations, hcounter, hstatus, fun q => (hsnakes q).trans ?_⟩
  by_cases hq : q = p
  · exact iff_of_true (.inr hq) (.inr hq)
  · simp [despawnSnake, Table.get_del_other hq]

/-- A respawn changes no record. -/
theorem respawn_tracks (h : room.Tracks sat out) (p : ℕ) : (room.respawn p).Tracks sat out := by
  by_cases hp : p ∈ room.seats
  · obtain ⟨hentrants, hseats, heliminations, hcounter, -, hsnakes⟩ := respawn_record hp
    refine h.frame hentrants heliminations hcounter ?_ ?_ fun q hq => ?_
    · rw [hseats]
      exact h.seated
    · rw [hseats]
      exact h.distinct
    · obtain hq | rfl := (hsnakes q).mp hq
      · exact h.snakes q hq
      · exact h.seated q hp
  · rwa [respawn, if_neg hp]

/-- A respawn brings the snake back. -/
theorem respawn_playing (h : room.Playing sat out) (p : ℕ) :
    (room.respawn p).Playing sat out := by
  by_cases hp : p ∈ room.seats
  · obtain ⟨-, hseats, -, -, -, hsnakes⟩ := respawn_record hp
    exact h.frame hseats fun q hq => (hsnakes q).mpr (.inl hq)
  · rwa [respawn, if_neg hp]

/-- **A tick records its deaths, and then its evictions.**. -/
theorem tick_tracks (h : room.Tracks sat out) (graceMs nowMs : ℕ) (motion : Motion) :
    (room.tick graceMs nowMs motion).Tracks sat
      (out ++ room.goesOut graceMs (.tick nowMs motion)) := by
  simp only [tick, goesOut]
  cases hrunning : room.running with
  | false => simpa using h
  | true =>
      simp only [not_true_eq_false, if_false, if_true]
      obtain ⟨hsweeps, hdead⟩ := sweeps_step room motion
      obtain ⟨hseats, -, hdisconnected, -⟩ := deaths_seats (room.step motion).2 (room.step motion).1
      have hdied := deaths_tracks (room.step motion).2 (hsweeps.tracks h)
        fun d hd => h.snakes _ (hdead d hd)
      obtain ⟨hall, -, -⟩ := evict_all graceMs nowMs _ hdied.distinct (fun _ => id) hdied
      have hexpired : ((room.step motion).2.foldl die (room.step motion).1).expired graceMs nowMs =
          room.expired graceMs nowMs := by
        funext q
        simp only [expired, hdisconnected, hsweeps.disconnected]
      rw [hexpired, hseats, hsweeps.seats, List.append_assoc] at hall
      rw [evictExpiredDisconnects, hseats, hsweeps.seats]
      exact hall

/-- A tick takes the seats of the evicted only, who went out by it. -/
theorem tick_playing (h : room.Playing sat out) (ht : room.Tracks sat out) (graceMs nowMs : ℕ)
    (motion : Motion) :
    (room.tick graceMs nowMs motion).Playing sat
        (out ++ room.goesOut graceMs (.tick nowMs motion)) ∧
      (room.tick graceMs nowMs motion).status = room.status := by
  simp only [tick, goesOut]
  cases hrunning : room.running with
  | false => simpa using h
  | true =>
      simp only [not_true_eq_false, if_false, if_true]
      obtain ⟨hsweeps, hdead⟩ := sweeps_step room motion
      obtain ⟨hseats, hsnakes, hdisconnected, hstatus⟩ :=
        deaths_seats (room.step motion).2 (room.step motion).1
      have hdied := deaths_tracks (room.step motion).2 (hsweeps.tracks ht)
        fun d hd => ht.snakes _ (hdead d hd)
      have hplaying : ((room.step motion).2.foldl die (room.step motion).1).Playing sat
          (out ++ (room.step motion).2.map (·.victimPlayerId)) :=
        ((hsweeps.playing h).frame hseats fun q hq => by rwa [hsnakes]).later _
      obtain ⟨-, hplays, hsame⟩ := evict_all graceMs nowMs _ hdied.distinct (fun _ => id) hdied
      have hall := hplays hplaying
      have hexpired : ((room.step motion).2.foldl die (room.step motion).1).expired graceMs nowMs =
          room.expired graceMs nowMs := by
        funext q
        simp only [expired, hdisconnected, hsweeps.disconnected]
      rw [hexpired, hseats, hsweeps.seats, List.append_assoc] at hall
      rw [hstatus, hsweeps.status, hseats, hsweeps.seats] at hsame
      rw [evictExpiredDisconnects, hseats, hsweeps.seats]
      exact ⟨hall, hsame⟩

/-- The step of the record. -/
theorem after_tracks (h : room.Tracks sat out) (graceMs : ℕ) (e : RoomEvent) :
    (room.after graceMs e).Tracks (sat ++ e.sits.toList) (out ++ room.goesOut graceMs e) := by
  cases e with
  | join p =>
      simp only [after, RoomEvent.sits, goesOut, Option.toList_some, List.append_nil]
      exact addPlayer_tracks h p
  | leave p =>
      simp only [after, RoomEvent.sits, goesOut, Option.toList_none, List.append_nil]
      by_cases hp : p ∈ room.seats
      · rw [if_pos hp, removePlayer_record hp]
        exact h.removePlayer hp
      · rw [if_neg hp, List.append_nil, removePlayer, if_neg hp]
        exact h
  | disconnect p nowMs =>
      simp only [after, RoomEvent.sits, goesOut, Option.toList_none, List.append_nil,
        markDisconnected]
      split <;> exact h
  | respawn p =>
      simp only [after, RoomEvent.sits, goesOut, Option.toList_none, List.append_nil]
      exact respawn_tracks h p
  | tick nowMs motion =>
      simp only [after, RoomEvent.sits, Option.toList_none, List.append_nil]
      exact tick_tracks h graceMs nowMs motion
  | drain =>
      simp only [after, RoomEvent.sits, goesOut, Option.toList_none, List.append_nil]
      exact h
  | close =>
      simp only [after, RoomEvent.sits, goesOut, Option.toList_none, List.append_nil]
      exact h.frame rfl rfl rfl nofun .nil h.snakes

/-- Until the room is closed whoever has not gone out plays on, in a room that runs. -/
theorem after_playing (h : room.Playing sat out) (ht : room.Tracks sat out)
    (hrunning : room.running = true) (graceMs : ℕ) {e : RoomEvent} (he : e ≠ .close) :
    (room.after graceMs e).Playing (sat ++ e.sits.toList) (out ++ room.goesOut graceMs e) ∧
      (room.after graceMs e).running = true := by
  have hsame : ∀ {room' : LiveRoom}, room'.status = room.status → room'.running = true :=
    fun e => by rwa [running, e]
  cases e with
  | join p =>
      simp only [after, RoomEvent.sits, goesOut, Option.toList_some, List.append_nil]
      refine ⟨addPlayer_playing h p, hsame ?_⟩
      by_cases hp : p ∈ room.seats
      · rw [addPlayer, if_pos hp]
      · exact (addPlayer_record hp).2.2.2.2.1
  | leave p =>
      simp only [after, RoomEvent.sits, goesOut, Option.toList_none, List.append_nil]
      by_cases hp : p ∈ room.seats
      · rw [if_pos hp, removePlayer_record hp]
        exact ⟨h.removePlayer hp, hsame (removePlayer_of_mem hp).2.2⟩
      · rw [if_neg hp, List.append_nil, removePlayer, if_neg hp]
        exact ⟨h, hrunning⟩
  | disconnect p nowMs =>
      simp only [after, RoomEvent.sits, goesOut, Option.toList_none, List.append_nil,
        markDisconnected]
      split <;> exact ⟨h, hrunning⟩
  | respawn p =>
      simp only [after, RoomEvent.sits, goesOut, Option.toList_none, List.append_nil]
      refine ⟨respawn_playing h p, hsame ?_⟩
      by_cases hp : p ∈ room.seats
      · exact (respawn_record hp).2.2.2.2.1
      · rw [respawn, if_neg hp]
  | tick nowMs motion =>
      simp only [after, RoomEvent.sits, Option.toList_none, List.append_nil]
      obtain ⟨hplaying, hstatus⟩ := tick_playing h ht graceMs nowMs motion
      exact ⟨hplaying, hsame hstatus⟩
  | drain =>
      simp only [after, RoomEvent.sits, goesOut, Option.toList_none, List.append_nil]
      exact ⟨h, rfl⟩
  | close => exact absurd rfl he

/-- Who sits down in the first event comes first. -/
theorem joins_cons (e : RoomEvent) (es : List RoomEvent) :
    joins (e :: es) = e.sits.toList ++ joins es := by
  unfold joins
  rw [List.filterMap_cons]
  cases e.sits <;> rfl

/-- **The record of a run**: who sat down in it, and who went out, in that order. -/
theorem play_tracks (graceMs : ℕ) (es : List RoomEvent) : ∀ {room : LiveRoom} {sat out : List ℕ},
    room.Tracks sat out →
      (room.play graceMs es).Tracks (sat ++ joins es) (out ++ room.outs graceMs es) := by
  induction es with
  | nil =>
      intro room sat out h
      simpa [joins, outs, play] using h
  | cons e es ih =>
      intro room sat out h
      rw [joins_cons, outs, play, ← List.append_assoc, ← List.append_assoc]
      exact ih (after_tracks h graceMs e)

/-- Who has not gone out in a run has a seat and a snake, if the room was not closed. -/
theorem play_playing (graceMs : ℕ) (es : List RoomEvent) : ∀ {room : LiveRoom} {sat out : List ℕ},
    room.Tracks sat out → room.Playing sat out → room.running = true → RoomEvent.close ∉ es →
      (room.play graceMs es).Playing (sat ++ joins es) (out ++ room.outs graceMs es) ∧
        (room.play graceMs es).running = true := by
  induction es with
  | nil =>
      intro room sat out _ h hrunning _
      exact ⟨by simpa [joins, outs, play] using h, hrunning⟩
  | cons e es ih =>
      intro room sat out ht h hrunning hclose
      rw [List.mem_cons, not_or] at hclose
      obtain ⟨hplaying, hstill⟩ := after_playing h ht hrunning graceMs (Ne.symm hclose.1)
      rw [joins_cons, outs, play, ← List.append_assoc, ← List.append_assoc]
      exact ih (after_tracks ht graceMs e) hplaying hstill hclose.2

/-- A room as its manager opens it. -/
def opened (roomId : String) (gameId : Option ℕ) : LiveRoom := (new roomId gameId).start

/-- A room that was just opened. -/
theorem opened_tracks (roomId : String) (gameId : Option ℕ) :
    (opened roomId gameId).Tracks [] [] :=
  ⟨fun _ => Iff.rfl, nofun, .nil, by simp [opened, start], nofun,
    by simp [opened, new, start, Room.new], nofun, .nil⟩

/-- Nobody plays in it yet. -/
theorem opened_playing (roomId : String) (gameId : Option ℕ) :
    (opened roomId gameId).Playing [] [] := ⟨nofun, nofun⟩

end LiveRoom

section Runs
variable (graceMs : ℕ) (roomId : String) (gameId : Option ℕ) (es : List RoomEvent)

/-- **Standings follow survival.**  Everyone who ever sat down is listed once, in places `1..n`:
first whoever never went out, then the others in the reverse order of the first time they did.
Once anybody sat down, the report passes settlement's check for them. -/
theorem standings_survival (nodeId : String) (now game : ℕ) :
    (∃ survivors,
      ((((LiveRoom.opened roomId gameId).play graceMs es).buildResult nodeId now game).standings.map
          (·.playerId)) =
        survivors ++ ((LiveRoom.opened roomId gameId).outs graceMs es).reverse.dedup ∧
      survivors.Perm ((joins es).dedup.filter
        (· ∉ (LiveRoom.opened roomId gameId).outs graceMs es))) ∧
    ((((LiveRoom.opened roomId gameId).play graceMs es).buildResult nodeId now game).standings.map
        (·.playerId)).Perm (joins es).dedup ∧
    (((LiveRoom.opened roomId gameId).play graceMs es).buildResult nodeId now game).standings.map
        (·.placement) = placesTo (joins es).dedup.length ∧
    ((verifyResult (((LiveRoom.opened roomId gameId).play graceMs es).buildResult nodeId now game)
      ⟨game, (joins es).dedup, some nodeId⟩).ok = true ↔ joins es ≠ []) := by
  have h := LiveRoom.play_tracks graceMs es (LiveRoom.opened_tracks roomId gameId)
  rw [List.nil_append, List.nil_append] at h
  have hentrants : ∀ p, p ∈ ((LiveRoom.opened roomId gameId).play graceMs es).entrants ↔
      p ∈ (joins es).dedup := fun p => by rw [h.entered, List.mem_dedup]
  have hperm := (List.perm_ext_iff_of_nodup (Room.nodup _) (List.nodup_dedup _)).mpr hentrants
  refine ⟨Room.standings_order h, (Room.standings_playerIds _).trans hperm, ?_, ?_⟩
  · change ((LiveRoom.opened roomId gameId).play graceMs es).standings.map (·.placement) = _
    rw [Room.standings_placements, Room.standings_length, hperm.length_eq]
  · rw [verifyResult_ok]
    constructor
    · rintro haccepts hnone
      have hlength := Room.standings_length ((LiveRoom.opened roomId gameId).play graceMs es).toRoom
      rw [hperm.length_eq, hnone] at hlength
      exact haccepts.wellFormed.standings (List.length_eq_zero_iff.mp hlength)
    · intro hsome
      obtain ⟨p, hp⟩ := List.exists_mem_of_ne_nil _ hsome
      refine ⟨rfl, ?_, Room.buildResult_wellFormed ?_ _ _ _, fun p hp => ?_, fun p hp => ?_⟩
      · rintro _ ⟨⟩ -
        rfl
      · exact List.ne_nil_of_mem ((h.entered p).mpr hp)
      · exact (hentrants p).mp (Room.buildResult_names.mp hp)
      · exact Room.buildResult_names.mpr ((hentrants p).mpr hp)

/-- Nobody came: the result has no standings, and settlement's check refuses it. -/
theorem standings_survival_empty : ¬ ∀ (graceMs : ℕ) (roomId : String) (gameId : Option ℕ)
    (es : List RoomEvent) (nodeId : String) (now game : ℕ),
    (verifyResult (((LiveRoom.opened roomId gameId).play graceMs es).buildResult nodeId now game)
      ⟨game, (joins es).dedup, some nodeId⟩).ok = true := fun h => by
  have := h 30000 "empty" none [] "node-1" 0 3
  revert this
  decide

/-! ### A decided match -/

/-- Of at least two who sat down, at most one has not gone out. -/
def Decided (sat out : List ℕ) : Prop :=
  2 ≤ sat.dedup.length ∧ (sat.dedup.filter (· ∉ out)).length ≤ 1

/-- Somebody who went out holds a seat, beside at most one who did not. -/
def LiveRoom.Lingering (room : LiveRoom) : Prop :=
  2 ≤ room.seats.length ∧
    (room.seats.filter fun p => (room.eliminations.get p).isNone).length ≤ 1

instance (sat out : List ℕ) : Decidable (Decided sat out) := by unfold Decided; infer_instance

instance (room : LiveRoom) : Decidable room.Lingering := by
  unfold LiveRoom.Lingering; infer_instance

/-- Everyone seated has a snake in the world, dead or alive, and is counted. -/
theorem Room.Playing.aliveCount {sat out : List ℕ} {room : Room} (h : room.Playing sat out) :
    room.aliveCount = room.seats.length := by
  rw [Room.aliveCount, List.filter_eq_self.mpr h.snakes]

/-- Whoever has not gone out holds a seat. -/
theorem Room.Playing.filter {sat out : List ℕ} {room : Room} (h : room.Playing sat out)
    (ht : room.Tracks sat out) :
    (room.seats.filter fun p => (room.eliminations.get p).isNone).Perm
      (sat.dedup.filter (· ∉ out)) := by
  refine (List.perm_ext_iff_of_nodup (ht.distinct.filter _) ((List.nodup_dedup _).filter _)).mpr
    fun p => ?_
  have hout : (room.eliminations.get p).isNone = true ↔ p ∉ out := by
    rw [← ht.eliminated]
    simp
  rw [List.mem_filter, List.mem_filter, hout, List.mem_dedup, decide_eq_true_iff]
  exact ⟨fun hp => ⟨ht.seated p hp.1, hp.2⟩, fun hp => ⟨h.playing p hp.1 hp.2, hp.2⟩⟩

/-- **When a decided match resolves.**  Of a room that was not closed, `isResolved` says whether
the match is decided, unless somebody who went out lingers; and no respawn changes its answer. -/
theorem resolved_iff (hclose : RoomEvent.close ∉ es) :
    ((((LiveRoom.opened roomId gameId).play graceMs es).isResolved = true ↔
        Decided (joins es) ((LiveRoom.opened roomId gameId).outs graceMs es)) ↔
      ¬((LiveRoom.opened roomId gameId).play graceMs es).Lingering) ∧
    ∀ p, (((LiveRoom.opened roomId gameId).play graceMs es).respawn p).isResolved =
      ((LiveRoom.opened roomId gameId).play graceMs es).isResolved := by
  have ht := LiveRoom.play_tracks graceMs es (LiveRoom.opened_tracks roomId gameId)
  obtain ⟨h, hrunning⟩ := LiveRoom.play_playing graceMs es (LiveRoom.opened_tracks roomId gameId)
    (LiveRoom.opened_playing roomId gameId) rfl hclose
  rw [List.nil_append, List.nil_append] at ht h
  generalize (LiveRoom.opened roomId gameId).play graceMs es = room at ht h hrunning ⊢
  generalize (LiveRoom.opened roomId gameId).outs graceMs es = out at ht h ⊢
  have hentrants : room.entrants.length = (joins es).dedup.length :=
    ((List.perm_ext_iff_of_nodup room.nodup (List.nodup_dedup _)).mpr fun p => by
      rw [ht.entered, List.mem_dedup]).length_eq
  have hresolved : room.isResolved = true ↔
      2 ≤ room.entrants.length ∧ room.seats.length ≤ 1 := by
    simp [LiveRoom.isResolved, Room.isResolved, hrunning, h.aliveCount]
  refine ⟨?_, fun p => ?_⟩
  · have hseats : room.seats.length ≤ room.entrants.length :=
      (ht.distinct.subperm fun p hp => (ht.entered p).mpr (ht.seated p hp)).length_le
    have hin := (h.filter ht).length_eq
    have hle := List.length_filter_le (fun p => (room.eliminations.get p).isNone) room.seats
    rw [hresolved, Decided, LiveRoom.Lingering, ← hentrants, ← hin]
    omega
  · by_cases hp : p ∈ room.seats
    · obtain ⟨hentered, hseats, -, -, hstatus, -⟩ := LiveRoom.respawn_record hp
      have hafter := LiveRoom.respawn_playing h p
      simp only [LiveRoom.isResolved, Room.isResolved, LiveRoom.running, hafter.aliveCount,
        h.aliveCount, hentered, hseats, hstatus]
    · rw [LiveRoom.respawn, if_neg hp]

end Runs

/-- A tick in which player 2 leaves the world. -/
def outside : Motion := ⟨fun _ => 10, fun p => p = 2, fun _ => [], 5000⟩

/-- The loser leaves after the death, and the match resolves. -/
theorem resolved_iff_left :
    ((LiveRoom.opened "duel" (some 3)).play 30000
      [.join 1, .join 2, .tick 0 outside, .leave 2]).isResolved = true := by
  refine ((resolved_iff 30000 "duel" (some 3) [.join 1, .join 2, .tick 0 outside, .leave 2]
    (by simp)).1.mpr (by decide)).mpr (by decide)

/-- The loser of a match of two stays connected: the match is decided and does not resolve. -/
theorem resolved_iff_connected : ¬ ∀ (graceMs : ℕ) (roomId : String) (gameId : Option ℕ)
    (es : List RoomEvent), RoomEvent.close ∉ es →
    (((LiveRoom.opened roomId gameId).play graceMs es).isResolved = true ↔
      Decided (joins es) ((LiveRoom.opened roomId gameId).outs graceMs es)) := fun h => by
  have := h 30000 "duel" (some 3) [.join 1, .join 2, .tick 0 outside] (by simp)
  revert this
  decide

end SnakeArena.Realtime
