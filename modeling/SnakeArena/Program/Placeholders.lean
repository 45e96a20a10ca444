import SnakeArena.Program.Refunds
import SnakeArena.Program.Terms

/-!
# Program — seats without a stake

`start_room` compares the seats taken with the fees escrowed.  `enter_room` raises both counts,
`join_room` the first and `lock_entry_fee` the second, and nothing lowers either.  So what a
room's counters say is a count of the calls since its `create_room` (`Counts`), and a room with
enough stakes starts exactly when as many `lock_entry_fee`s followed as there were `join_room`s
(`start_room_unblocked`).  `enter_room` was made so that a seat always has a funded player behind
it; `join_room` is still there, for any room, and one call of it holds the others' stakes until
the room is cancelled.
-/

namespace SnakeArena.Program
open SnakeArena.Library

namespace Event

/-- A `join_room` of `id`. -/
def joins (id : RoomId) : Event → Bool
  | .exec _ (.joinRoom accs) => accs.room.key = .room id
  | _ => false

/-- A `lock_entry_fee` of `id`. -/
def locks (id : RoomId) : Event → Bool
  | .exec _ (.lockEntryFee accs) => accs.room.key = .room id
  | _ => false

/-- An `enter_room` of `id`. -/
def enters (id : RoomId) : Event → Bool
  | .exec _ (.enterRoom accs) => accs.room.key = .room id
  | _ => false

/-- The player who escrows the entry fee of `id` by this event. -/
def escrows (id : RoomId) : Event → Option Pubkey
  | .exec _ (.lockEntryFee accs) => if accs.room.key = .room id then some accs.player.key else none
  | .exec _ (.enterRoom accs) => if accs.room.key = .room id then some accs.player.key else none
  | _ => none

end Event

/-- The players who escrowed the entry fee of `id`. -/
def escrowed (id : RoomId) (ls : List Event) : List Pubkey := ls.filterMap (Event.escrows id)

def joins (id : RoomId) (ls : List Event) : ℕ := ls.countP (Event.joins id)
def locks (id : RoomId) (ls : List Event) : ℕ := ls.countP (Event.locks id)
def enters (id : RoomId) (ls : List Event) : ℕ := ls.countP (Event.enters id)

/-- A fee is escrowed by either path. -/
theorem length_escrowed (id : RoomId) (ls : List Event) :
    (escrowed id ls).length = locks id ls + enters id ls := by
  induction ls with
  | nil => rfl
  | cons l ls ih =>
      rw [escrowed, locks, enters, List.filterMap_cons, List.countP_cons, List.countP_cons]
      rw [escrowed, locks, enters] at ih
      cases l with
      | outside => exact ih
      | exec now i =>
          cases i with
          | lockEntryFee accs | enterRoom accs =>
              by_cases h : accs.room.key = .room id
              · simp only [Event.escrows, Event.locks, Event.enters, h, ↓reduceIte,
                  List.length_cons, ih, decide_true, Bool.false_eq_true]
                omega
              · simpa only [Event.escrows, Event.locks, Event.enters, h, ↓reduceIte, decide_false,
                  Bool.false_eq_true, add_zero] using ih
          | _ => exact ih

/-- The counters of a room are the calls since it was opened. -/
structure Counts (id : RoomId) (ls : List Event) (r : Room) : Prop where
  players : r.playerCount = joins id ls + enters id ls
  locked : r.lockedCount = locks id ls + enters id ls

section Change
variable {rt : Runtime} {s s' : State} {id : RoomId} {r r' : Room} {i : Instruction}
  {rps : Table (Pubkey × Pubkey) RoomPlayer} {ls : List Event}

theorem Counts.snoc (h : Counts id ls r) {l : Event}
    (hplayers : r'.playerCount = r.playerCount + (joins id [l] + enters id [l]))
    (hlocked : r'.lockedCount = r.lockedCount + (locks id [l] + enters id [l])) :
    Counts id (ls ++ [l]) r' where
  players := by
    simp only [hplayers, h.players, joins, enters, List.countP_append]
    omega
  locked := by
    simp only [hlocked, h.locked, locks, enters, List.countP_append]
    omega

theorem RoomChange.counts (h : RoomChange s id r i rps r') (hc : Counts id ls r) (now : ℤ) :
    Counts id (ls ++ [.exec now i]) r' := by
  cases h with
  | other hi =>
      cases i with
      | joinRoom accs | lockEntryFee accs | enterRoom accs =>
          have hne : accs.room.key ≠ .room id := hi
          refine hc.snoc ?_ ?_
          · simp [joins, enters, Event.joins, Event.enters, hne]
          · simp [locks, enters, Event.locks, Event.enters, hne]
      | _ => exact hc.snoc rfl rfl
  | joinRoom hkey | lockEntryFee hkey | enterRoom hkey =>
      refine hc.snoc ?_ ?_
      · simp [joins, enters, Event.joins, Event.enters, hkey]
      · simp [locks, enters, Event.locks, Event.enters, hkey]
  | _ => exact hc.snoc rfl rfl

/-- From `create_room` on, as long as the room is there. -/
theorem Counts.of_run {s₁ s₂ : State} {now : ℤ} {accs : CreateRoom} {entryFee maxPlayers : ℕ}
    (hopen : Step rt s₁ (.exec now (.createRoom accs id entryFee maxPlayers)) s₂)
    (hrun : Run (Step rt) s₂ ls s) (hls : ∀ l ∈ ls, ¬ l.Opens id)
    (hr : s.rooms.get id = some r) : Counts id ls r := by
  revert hls hr
  revert r
  refine hrun.history (I := fun ls s => ∀ {r}, (∀ l ∈ ls, ¬ l.Opens id) →
    s.rooms.get id = some r → Counts id ls r) ?_ ?_
  · rintro r - hr
    cases hopen with
    | exec h =>
        obtain ⟨hnone, -⟩ := (exec_effect h).opened
        obtain ⟨-, -, -, hlocked, hplayers, -⟩ := (exec_effect h).room_created hnone hr
        exact ⟨hplayers, hlocked⟩
  · intro ls s l s' hrun ih hstep r' hls hr'
    have hbefore : ∀ l ∈ ls, ¬ l.Opens id := fun l hl => hls l (by simp [hl])
    cases hstep with
    | outside =>
        exact (ih hbefore hr').snoc rfl rfl
    | @exec now i t h =>
        have heffect := exec_effect h
        cases hr : s.rooms.get id with
        | none =>
            obtain ⟨⟨accs, entryFee, maxPlayers, rfl⟩, -⟩ := heffect.room_created hr hr'
            exact (hls (.exec now (.createRoom accs id entryFee maxPlayers)) (by simp)
              (rfl : id = id)).elim
        | some r =>
            have hcloses : ¬ i.Closes id := by
              intro hi
              cases hr'.symm.trans (heffect.room_closed hi)
            obtain ⟨r₁, hr₁, hchange⟩ := heffect.room_change hr hcloses
            obtain rfl : r₁ = r' := Option.some.inj (hr₁.symm.trans hr')
            exact hchange.counts (ih hbefore hr) now

end Change

/-! ### Starting -/

/-- `start_room` succeeds on an open room with enough stakes exactly when its counters agree. -/
theorem startRoom_iff {rt : Runtime} {s : State} (h : Reached rt s) (now : ℤ) {id : RoomId}
    {r : Room} {c : Config} (hr : s.rooms.get id = some r) (hst : r.status = .open)
    (hc : s.config = some c) (hsa : c.settlementAuthority.CanSign)
    (hmin : minPlayersPerRoom ≤ r.lockedCount) :
    (∃ t, exec rt now s (Call.startRoom c.settlementAuthority id) = .ok t) ↔
      r.lockedCount = r.playerCount := by
  obtain rfl : r.roomId = id := (h.wellFormed.rooms _ _ hr).1
  constructor
  · rintro ⟨t, ht⟩
    simp only [exec, bind_eq_ok, require_eq_ok, Except.ok.injEq] at ht
    obtain ⟨t', ht, -⟩ := ht
    obtain ⟨-, r', -, hr', hkey, -, -, -, hcount, -⟩ := startRoom_eq_ok ht
    have e : r'.roomId = r.roomId := (Pubkey.room.inj hkey).symm
    rw [e] at hr'
    obtain rfl := Option.some.inj (hr.symm.trans hr')
    exact hcount
  · intro hcount
    refine ⟨_, exec_ok (t := (Tx.start s).setRoom r.roomId { r with status := .inProgress }) ?_ rfl⟩
    simp only [handle, Call.startRoom, startRoom, bind_eq_ok, loadConfig_eq_ok, loadRoom_eq_ok,
      seeds_eq_ok, require_eq_ok, mutable_eq_ok, signer_eq_ok, AccountInfo.full_key,
      AccountInfo.full_isWritable, AccountInfo.full_isSigner]
    exact ⟨c, ⟨trivial, hc⟩, (), trivial, r, ⟨_, rfl, hr⟩, (), trivial, (), rfl, (),
      require_eq_ok.mpr rfl, (), hsa, (), hst, (), hcount, (), hmin, rfl⟩

/-- **When nothing blocks a match.**  An open room with enough stakes escrowed since its
`create_room` starts exactly when every `join_room` of it was followed through: as many
`lock_entry_fee`s as `join_room`s. -/
theorem start_room_unblocked {rt : Runtime} {s₁ s₂ s : State} (h₁ : Reached rt s₁) {now : ℤ}
    {accs : CreateRoom} {id : RoomId} {entryFee maxPlayers : ℕ} {ls : List Event}
    (hopen : Step rt s₁ (.exec now (.createRoom accs id entryFee maxPlayers)) s₂)
    (hrun : Run (Step rt) s₂ ls s) (hls : ∀ l ∈ ls, ¬ l.Opens id) {r : Room} {c : Config}
    (hr : s.rooms.get id = some r) (hst : r.status = .open) (hc : s.config = some c)
    (hsa : c.settlementAuthority.CanSign)
    (hescrowed : minPlayersPerRoom ≤ (escrowed id ls).length) (now' : ℤ) :
    (∃ t, exec rt now' s (Call.startRoom c.settlementAuthority id) = .ok t) ↔
      joins id ls = locks id ls := by
  obtain ⟨s₀, before, h₀, hbefore⟩ := h₁
  have hreached : Reached rt s := ⟨s₀, _, h₀, (hbefore.snoc hopen).append hrun⟩
  obtain ⟨hplayers, hlocked⟩ := Counts.of_run hopen hrun hls hr
  rw [length_escrowed, ← hlocked] at hescrowed
  rw [startRoom_iff hreached now' hr hst hc hsa hescrowed]
  omega

/-- One seat of three by `join_room` and `lock_entry_fee`, two by `enter_room`. -/
theorem start_room_unblocked_three : ∃ s t, Reached .validator s ∧
    exec .validator 9 s (Call.startRoom (.key 2) (.ofByte 7)) = .ok t := by
  have setup : (execAll .validator .funded
      [(0, Call.initializeProgram (.key 1) (.key 2) (.key 3) 500 50),
        (1, Call.deposit (.key 4) 5000000)]).passes (fun s₁ =>
      (exec .validator 2 s₁ (Call.createRoom (.key 2) (.ofByte 7) 1000000 4)).passes fun t =>
        (execAll .validator t.state
          [(3, Call.enterRoom (.key 5) (.ofByte 7)), (4, Call.joinRoom (.key 4) (.ofByte 7)),
            (5, Call.enterRoom (.key 6) (.ofByte 7)),
            (6, Call.lockEntryFee (.key 4) (.ofByte 7))]).passes fun s =>
          (s.rooms.get (.ofByte 7)).any (fun r => decide (r.status = .open)) &&
            s.config.any fun c => decide (c.settlementAuthority = .key 2)) = true := by
    decide
  obtain ⟨s₁, hs₁, htest⟩ := Result.passes_iff.mp setup
  obtain ⟨t, ht, htest⟩ := Result.passes_iff.mp htest
  obtain ⟨s, hs, htest⟩ := Result.passes_iff.mp htest
  rw [Bool.and_eq_true] at htest
  obtain ⟨r, hr, hst⟩ := (Option.any_eq_true _ _).mp htest.1
  obtain ⟨c, hc, hsa⟩ := (Option.any_eq_true _ _).mp htest.2
  have hsa : c.settlementAuthority = .key 2 := of_decide_eq_true hsa
  have hreached := reached_of_execAll hs₁
  have hkept : ∀ l ∈ [(3, Call.enterRoom (.key 5) (.ofByte 7)),
      (4, Call.joinRoom (.key 4) (.ofByte 7)), (5, Call.enterRoom (.key 6) (.ofByte 7)),
      (6, Call.lockEntryFee (.key 4) (.ofByte 7))].map fun p => Event.exec p.1 p.2,
      ¬ l.Opens (.ofByte 7) := by
    simp [Event.Opens, Call.enterRoom, Call.joinRoom, Call.lockEntryFee]
  have hstart := (start_room_unblocked hreached (.exec ht) (execAll_run hs) hkept hr
    (of_decide_eq_true hst) hc (hsa ▸ by decide) (by decide) 9).mpr (by decide)
  rw [hsa] at hstart
  obtain ⟨t', ht'⟩ := hstart
  obtain ⟨s₀, before, h₀, hbefore⟩ := hreached
  exact ⟨s, t', ⟨s₀, _, h₀, (hbefore.snoc (.exec ht)).append (execAll_run hs)⟩, ht'⟩

/-- Two stakes, and a third player who only joined: the room cannot start. -/
theorem start_room_blocked : ¬ ∀ s, Reached .validator s → ∀ id r c,
    s.rooms.get id = some r → s.config = some c → r.status = .open →
    c.settlementAuthority.CanSign → minPlayersPerRoom ≤ r.lockedCount →
    ∀ now, ∃ t, exec .validator now s (Call.startRoom c.settlementAuthority id) = .ok t := by
  intro hall
  have run : (execAll .validator .funded
      [(0, Call.initializeProgram (.key 1) (.key 2) (.key 3) 500 50),
        (1, Call.createRoom (.key 2) (.ofByte 7) 1000000 4),
        (2, Call.enterRoom (.key 4) (.ofByte 7)), (3, Call.enterRoom (.key 5) (.ofByte 7)),
        (4, Call.deposit (.key 6) 5000000),
        (5, Call.joinRoom (.key 6) (.ofByte 7))]).passes (fun s =>
      (s.rooms.get (.ofByte 7)).any (fun r => decide (r.status = .open ∧ r.lockedCount = 2)) &&
        s.config.any (fun c => decide (c.settlementAuthority = .key 2)) &&
        (exec .validator 6 s (Call.startRoom (.key 2) (.ofByte 7))).failsWith
          (.arena .entryFeesNotLocked)) = true := by
    decide
  obtain ⟨s, hs, htest⟩ := Result.passes_iff.mp run
  rw [Bool.and_eq_true, Bool.and_eq_true] at htest
  obtain ⟨⟨hroom, hconfig⟩, hfails⟩ := htest
  obtain ⟨r, hr, htest⟩ := (Option.any_eq_true _ _).mp hroom
  obtain ⟨c, hc, hsa⟩ := (Option.any_eq_true _ _).mp hconfig
  obtain ⟨hst, hlocked⟩ := of_decide_eq_true htest
  have hsa : c.settlementAuthority = .key 2 := of_decide_eq_true hsa
  obtain ⟨t, ht⟩ := hall s (reached_of_execAll hs) _ r c hr hc hst (hsa ▸ by decide)
    (by rw [hlocked]; decide) 6
  rw [hsa, Result.failsWith_iff.mp hfails] at ht
  cases ht

end SnakeArena.Program
