import SnakeArena.Lobby.Membership
import SnakeArena.Lobby.Seats

/-!
# Lobby — the index agrees with the rosters

One instance answers its requests one after the other (`OneByOne`); launches may fail, and index
entries expire.  Between requests the index then names the lobby of each player in a roster, and
of nobody else, as long as whoever is dropped leaves by themselves or is launched (`Keeping`):
`reset` clears no entry, nor does an eviction or a launch that failed, and a join writes its
entry whether or not the player is still in the lobby.
-/

namespace SnakeArena.Lobby
open SnakeArena.Library

/-! ### Events that drop nobody -/

/-- The player who leaves. -/
def LobbyEvent.leaver : LobbyEvent → Option ℕ
  | .leave playerId => some playerId
  | _ => none

/-- The event drops nobody but the player who leaves: a reset finds the lobby empty, and a
countdown that is over finds everyone ready, and nobody who joins. -/
def DropsNobody (tier : RoomTier) (state : LobbyState) (event : LobbyEvent) (now : ℕ) : Prop :=
  (event = .reset → state.players = []) ∧
    (event.settled = true → Over state now →
      tier.minPlayers ≤ (state.roster now event).length → event.joiner = none ∧
        (tier.entryFeeLamports > 0 → ∀ q ∈ state.roster now event, q.ready = true))

instance (tier : RoomTier) (state : LobbyState) (event : LobbyEvent) (now : ℕ) :
    Decidable (DropsNobody tier state event now) := by
  unfold DropsNobody
  infer_instance

section Events
variable {tier : RoomTier} {state : LobbyState} {event : LobbyEvent} {now playerId : ℕ}
  {mutated : Bool}

theorem LobbyEvent.leaver_eq : event.leaver = some playerId ↔ event = .leave playerId := by
  cases event <;> simp [LobbyEvent.leaver]

/-- The roster after an event that drops nobody. -/
theorem mem_ids_reduceLobby (hrejected : (reduceLobby state event tier now).rejected = none)
    (hchanged : (reduceLobby state event tier now).changed = true)
    (hdrops : DropsNobody tier state event now) :
    playerId ∈ (reduceLobby state event tier now).state.ids ↔
      playerId ∈ state.ids ∧ event.leaver ≠ some playerId ∨ event.joiner = some playerId := by
  have hr := reduces hrejected hchanged
  obtain ⟨hreset, hready⟩ := hdrops
  constructor
  · intro hp
    refine (hr.ids hp).imp_left fun hin => ⟨hin, fun hleave => ?_⟩
    exact hr.not_mem_ids (LobbyEvent.leaver_eq.mp hleave) hp
  · rintro (⟨hin, hstays⟩ | hjoin)
    · obtain ⟨q, hq, rfl⟩ := LobbyState.mem_ids.mp hin
      rcases mem_roster event now hq with ⟨q', hq', -, hid⟩ | hleave
      · refine LobbyState.mem_ids.mpr ⟨q', ?_, hid⟩
        refine mem_reduceLobby hq' hrejected hchanged (fun e => ?_) fun hs he hlen => ?_
        · rw [hreset e] at hq
          cases hq
        · exact (hready hs he.2 hlen).2 he.1 q' hq'
      · exact absurd (LobbyEvent.leaver_eq.mpr hleave) hstays
    · cases event with
      | join id nickname wallet =>
          obtain rfl := Option.some.inj hjoin
          refine LobbyState.mem_ids.mpr
            ⟨_, mem_reduceLobby (List.mem_append_right _ (List.mem_singleton_self _)) hrejected
              hchanged nofun fun hs he hlen => ?_, rfl⟩
          exact nomatch (hready hs he.2 hlen).1
      | leave | ready | tick | launched | «open» | close | reset => cases hjoin

/-- The rules launch when the countdown is over and there are enough players. -/
theorem over_of_launch (h : (settle state tier now mutated).shouldLaunch = true) :
    Over state now ∧ tier.minPlayers ≤ state.players.length := by
  unfold settle at h
  by_cases hscheduled : state.scheduled = true
  · rw [if_pos hscheduled] at h
    cases h
  rw [if_neg hscheduled] at h
  by_cases hshort : state.players.length < tier.minPlayers
  · rw [if_pos hshort] at h
    cases h
  simp only [if_neg hshort] at h
  split at h
  case h_1 => cases h
  case h_2 countdownEndsAt hcountdown hends =>
      split at h
      case isTrue hover =>
          exact ⟨⟨Bool.not_eq_true _ ▸ hscheduled, hcountdown, countdownEndsAt, hends, hover⟩,
            not_lt.mp hshort⟩
      case isFalse => split at h <;> cases h
  case h_3 => cases h

/-- A join that drops nobody does not launch. -/
theorem not_launch_of_join (hrejected : (reduceLobby state event tier now).rejected = none)
    (hdrops : DropsNobody tier state event now) (hjoin : event.joiner = some playerId) :
    (reduceLobby state event tier now).shouldLaunch = false := by
  cases event with
  | join id nickname wallet =>
      simp only [reduceLobby] at hrejected ⊢
      split_ifs at hrejected ⊢
      iterate 4 rfl
      refine Bool.eq_false_iff.mpr fun hlaunch => ?_
      obtain ⟨hover, henough⟩ := over_of_launch hlaunch
      cases (hdrops.2 rfl hover henough).1
  | leave | ready | tick | launched | «open» | close | reset => cases hjoin

/-- The rules change a lobby that an event has changed. -/
theorem settle_changed : (settle state tier now true).changed = true := by
  cases hs : settle state tier now true with
  | mk =>
      have := hs ▸ @settles tier state true now
      cases this <;> rfl

/-- A join or a leave that is not refused changes the lobby, and the leaver was in it. -/
theorem changed_of_member (hrejected : (reduceLobby state event tier now).rejected = none) :
    (event.joiner.isSome = true ∨ event.leaver.isSome = true →
      (reduceLobby state event tier now).changed = true) ∧
      (event.leaver = some playerId → playerId ∈ state.ids) := by
  cases event with
  | join id nickname wallet =>
      simp only [reduceLobby] at hrejected ⊢
      split_ifs at hrejected ⊢
      iterate 4 cases hrejected
      exact ⟨fun _ => settle_changed, by rintro ⟨⟩⟩
  | leave id =>
      simp only [reduceLobby] at hrejected ⊢
      split_ifs at hrejected ⊢ with hmem hlaunching
      · cases hrejected
      · refine ⟨fun _ => settle_changed, fun e => ?_⟩
        obtain rfl := Option.some.inj e
        obtain ⟨p, hp, hid⟩ := List.any_eq_true.mp hmem
        exact LobbyState.mem_ids.mpr ⟨p, hp, of_decide_eq_true hid⟩
      · cases hrejected
  | ready | tick | launched | «open» | close | reset =>
      refine ⟨fun h => ?_, by rintro ⟨⟩⟩
      rcases h with h | h <;> cases h

end Events

/-! ### The lobbies during a call -/

variable {T : Type}

namespace Lobbies

/-- The index names the lobby of each player in a roster, and of nobody else. -/
def Agrees (l : Lobbies T) : Prop :=
  ∀ playerId a, l.index.get playerId = some a ↔ l.In playerId a

/-- The same, except that `leaver` is in no roster and the index may still name a lobby. -/
structure Without (l : Lobbies T) (leaver : Option ℕ) : Prop where
  agrees : ∀ playerId, leaver ≠ some playerId →
    ∀ a, l.index.get playerId = some a ↔ l.In playerId a
  gone : ∀ playerId, leaver = some playerId → ∀ a, ¬l.In playerId a

/-- The roster of `tierId` is being cleared from the index, and `left` is still to be. -/
structure Clearing (l : Lobbies T) (leaver : Option ℕ) (tierId : T) (left : List LobbyPlayer) :
    Prop where
  sound : ∀ playerId, leaver ≠ some playerId → ∀ a, l.index.get playerId = some a → l.In playerId a
  others : ∀ playerId, leaver ≠ some playerId → ∀ a ≠ tierId, l.In playerId a →
    l.index.get playerId = some a
  cleared : ∀ playerId, l.In playerId tierId →
    playerId ∈ left.map (·.playerId) ∨ l.index.get playerId ≠ some tierId
  only : ∀ playerId, l.In playerId tierId → ∀ a, l.In playerId a → a = tierId
  left : ∀ p ∈ left, l.In p.playerId tierId
  gone : ∀ playerId, leaver = some playerId → ∀ a, ¬l.In playerId a

/-- A call of `event` has ended: whoever joined or left has no entry yet, or an old one. -/
structure Done (l : Lobbies T) (tierId : T) (event : LobbyEvent) : Prop where
  agrees : ∀ playerId, event.joiner ≠ some playerId → event.leaver ≠ some playerId →
    ∀ a, l.index.get playerId = some a ↔ l.In playerId a
  joined : ∀ playerId, event.joiner = some playerId → ∀ a, l.In playerId a ↔ a = tierId
  gone : ∀ playerId, event.leaver = some playerId → ∀ a, ¬l.In playerId a

end Lobbies

/-- What holds of the lobbies where a call of one lobby stops. -/
def Call.Mid (l : Lobbies T) (tierId : T) (call : Call) : Prop :=
  match call.point with
  | .readyLobby | .hasPaid _ | .load => l.Agrees
  | .save current result =>
      l.Agrees ∧ (l.stores tierId).load = current ∧
        (∀ playerId, playerId ∈ result.state.ids ↔
          playerId ∈ current.ids ∧ call.event.leaver ≠ some playerId ∨
            call.event.joiner = some playerId) ∧
        (∀ playerId, call.event.leaver = some playerId → playerId ∈ current.ids) ∧
        (result.shouldLaunch = true → call.event.joiner = none ∧ result.state.status = .launching)
  | .launch state =>
      call.event.joiner = none ∧ (l.stores tierId).load = state ∧ l.Without call.event.leaver
  | .saveLaunched state marked =>
      call.event.joiner = none ∧ (l.stores tierId).load = state ∧ l.Without call.event.leaver ∧
        marked.players = state.players ∧ marked.status = .launching
  | .clearPlayers _ marked left =>
      call.event.joiner = none ∧ (l.stores tierId).load.version = marked.version ∧
        l.Clearing call.event.leaver tierId left
  | .saveReset _ marked =>
      call.event.joiner = none ∧ (l.stores tierId).load.version = marked.version ∧
        l.Clearing call.event.leaver tierId []
  | .saveFailed state =>
      call.event.joiner = none ∧ (l.stores tierId).load = state ∧ state.players = [] ∧
        l.Without call.event.leaver

/-- The await is answered; a launch may fail. -/
def Call.Answers (call : Call) (answer : Answer) : Prop :=
  match call.point, answer with
  | .launch _, _ | .hasPaid _, _ => True
  | _, .ok _ => True
  | _, _ => False

/-- The call drops nobody whose entry stays. -/
def Call.Keeping (tier : RoomTier) (s : Store) (call : Call) (answer : Answer) : Prop :=
  match call.point, answer with
  | .load, .ok now => (reduceLobby s.load call.event tier now).rejected = none →
      (reduceLobby s.load call.event tier now).changed = true →
        DropsNobody tier s.load call.event now
  | .launch _, .launched _ _ => True
  | .launch state, _ => state.players = []
  | _, _ => True

section Lobbies
variable {l : Lobbies T} {tierId : T} {event : LobbyEvent} {attempt : ℕ}

/-- Where index and lobbies agree, nobody is left out. -/
theorem Lobbies.Agrees.without (h : l.Agrees) : l.Without none :=
  ⟨fun playerId _ => h playerId, nofun⟩

/-- An event that does not join has no entry to write. -/
theorem Lobbies.Without.done (h : l.Without event.leaver) (hjoiner : event.joiner = none) :
    l.Done tierId event := by
  refine ⟨fun playerId _ => h.agrees playerId, fun playerId e => ?_, h.gone⟩
  cases hjoiner.symm.trans e

/-- The lobbies once an event that drops nobody has been saved. -/
theorem done_of_saved [DecidableEq T] {l' : Lobbies T} {current result : LobbyState}
    (hagrees : l.Agrees)
    (hload : (l.stores tierId).load = current)
    (hids : ∀ playerId, playerId ∈ result.ids ↔
      playerId ∈ current.ids ∧ event.leaver ≠ some playerId ∨ event.joiner = some playerId)
    (hleft : ∀ playerId, event.leaver = some playerId → playerId ∈ current.ids)
    (hjoin : ∀ playerId, event.joiner = some playerId → ∀ a, l.In playerId a → a = tierId)
    (hin : ∀ playerId a, l'.In playerId a ↔
      if a = tierId then playerId ∈ result.ids else l.In playerId a)
    (hindex : l'.index = l.index) : l'.Done tierId event := by
  have htier : ∀ playerId, l.In playerId tierId ↔ playerId ∈ current.ids := fun playerId => by
    rw [Lobbies.In, hload]
  refine ⟨fun playerId hj hl a => ?_, fun playerId hj a => ?_, fun playerId hl a => ?_⟩
  · rw [hindex, hagrees, hin]
    split
    case isTrue e =>
        rw [e, htier, hids]
        simp only [hl, hj, ne_eq, not_false_eq_true, and_true, or_false]
    case isFalse => rfl
  · rw [hin]
    split
    case isTrue e => simp only [hids, hj, or_true, e]
    case isFalse hne => exact ⟨hjoin playerId hj a, fun e => absurd e hne⟩
  · rw [hin]
    split
    case isTrue =>
        rw [hids]
        rintro (⟨-, hne⟩ | hj)
        · exact hne hl
        · rw [LobbyEvent.leaver_eq.mp hl] at hj
          cases hj
    case isFalse hne =>
        intro hold
        have hhere := (hagrees playerId tierId).mpr ((htier playerId).mpr (hleft playerId hl))
        exact hne (Option.some.inj (((hagrees playerId a).mpr hold).symm.trans hhere))

/-- What a call that is done leaves open is its own player. -/
theorem Lobbies.Done.without (h : l.Done tierId event) (hjoiner : event.joiner = none) :
    l.Without event.leaver :=
  ⟨fun playerId => h.agrees playerId (by rw [hjoiner]; nofun), h.gone⟩

/-- Everyone in the roster is still to be cleared. -/
theorem Lobbies.Without.clearing (tierId : T) {leaver : Option ℕ} (h : l.Without leaver)
    {l' : Lobbies T}
    (hin : ∀ playerId a, l'.In playerId a ↔ l.In playerId a) (hindex : l'.index = l.index) :
    l'.Clearing leaver tierId (l.stores tierId).load.players := by
  have hleaver : ∀ playerId a, l.In playerId a → leaver ≠ some playerId :=
    fun playerId a ha e => h.gone playerId e a ha
  refine ⟨fun playerId hne a hi => ?_, fun playerId hne a _ ha => ?_, fun playerId ha => .inl ?_,
    fun playerId ha a ha' => ?_, fun p hp => ?_, fun playerId e a ha => ?_⟩
  · rw [hindex] at hi
    exact (hin playerId a).mpr ((h.agrees playerId hne a).mp hi)
  · rw [hindex]
    exact (h.agrees playerId hne a).mpr ((hin playerId a).mp ha)
  · exact (hin playerId tierId).mp ha
  · have hne := hleaver playerId tierId ((hin playerId tierId).mp ha)
    have hhere := (h.agrees playerId hne tierId).mpr ((hin playerId tierId).mp ha)
    have hthere := (h.agrees playerId hne a).mpr ((hin playerId a).mp ha')
    exact Option.some.inj (hthere.symm.trans hhere)
  · exact (hin p.playerId tierId).mpr (LobbyState.mem_ids.mpr ⟨p, hp, rfl⟩)
  · exact h.gone playerId e a ((hin playerId a).mp ha)

/-- A player cleared from the index. -/
theorem Lobbies.Clearing.clear {leaver : Option ℕ} {player : LobbyPlayer} {left : List LobbyPlayer}
    (h : l.Clearing leaver tierId (player :: left)) :
    Lobbies.Clearing { l with index := l.index.del player.playerId } leaver tierId left := by
  have hplayer := h.left player List.mem_cons_self
  refine ⟨fun playerId hne a hi => ?_, fun playerId hne a ha hin => ?_, fun playerId hin => ?_,
    h.only, fun p hp => h.left p (List.mem_cons_of_mem _ hp), h.gone⟩
  · simp only [Table.get_del] at hi
    split at hi
    · cases hi
    · exact h.sound playerId hne a hi
  · simp only [Table.get_del]
    split
    case isTrue e =>
        subst e
        exact absurd (h.only _ hplayer a hin) ha
    case isFalse => exact h.others playerId hne a ha hin
  · simp only [Table.get_del]
    split
    case isTrue => exact .inr nofun
    case isFalse hne =>
        rcases h.cleared playerId hin with hleft | hindex
        · rcases List.mem_cons.mp hleft with e | hleft
          · exact absurd e hne
          · exact .inl hleft
        · exact .inr hindex

/-- The lobby emptied, once everyone is cleared from the index. -/
theorem Lobbies.Clearing.empty {leaver : Option ℕ} (h : l.Clearing leaver tierId [])
    {l' : Lobbies T} (hin : ∀ playerId a, l'.In playerId a ↔ a ≠ tierId ∧ l.In playerId a)
    (hindex : l'.index = l.index) : l'.Without leaver := by
  refine ⟨fun playerId hne a => ?_, fun playerId e a ha => h.gone playerId e a ((hin _ _).mp ha).2⟩
  rw [hindex, hin]
  constructor
  · intro hi
    refine ⟨?_, h.sound playerId hne a hi⟩
    rintro rfl
    rcases h.cleared playerId (h.sound playerId hne a hi) with hnil | hnone
    · cases hnil
    · exact hnone hi
  · exact fun ⟨ha, hold⟩ => h.others playerId hne a ha hold

/-- Where a call goes once its launch has been saved, and after each player it clears. -/
theorem mid_clearPlayers {state marked : LobbyState} {left : List LobbyPlayer}
    (hjoiner : event.joiner = none) (hversion : (l.stores tierId).load.version = marked.version)
    (h : l.Clearing event.leaver tierId left) :
    Call.Mid l tierId ⟨event, attempt, clearPlayers state marked left⟩ := by
  cases left <;> exact ⟨hjoiner, hversion, h⟩

/-! ### An entry that expires -/

/-- `l`, with an entry of the index expired. -/
def Lobbies.expire (l : Lobbies T) (playerId : ℕ) : Lobbies T :=
  { l with index := l.index.del playerId }

/-- The entry of a player in no roster. -/
theorem Lobbies.Without.expire {leaver : Option ℕ} {id : ℕ} (h : l.Without leaver)
    (hout : ∀ a, ¬l.In id a) : (l.expire id).Without leaver := by
  refine ⟨fun playerId hne a => ?_, h.gone⟩
  simp only [Lobbies.expire, Table.get_del]
  split
  case isTrue e => exact ⟨nofun, fun hin => absurd (e ▸ hin) (hout a)⟩
  case isFalse => exact h.agrees playerId hne a

/-- A key of a player in no lobby may expire. -/
theorem Lobbies.Agrees.expire {id : ℕ} (h : l.Agrees) (hout : ∀ a, ¬l.In id a) :
    (l.expire id).Agrees := by
  intro playerId
  exact (h.without.expire hout).agrees playerId nofun

/-- So it may while a call is done but not recorded. -/
theorem Lobbies.Done.expire {id : ℕ} (h : l.Done tierId event) (hout : ∀ a, ¬l.In id a) :
    (l.expire id).Done tierId event := by
  refine ⟨fun playerId hj hl a => ?_, h.joined, h.gone⟩
  simp only [Lobbies.expire, Table.get_del]
  split
  case isTrue e => exact ⟨nofun, fun hin => absurd (e ▸ hin) (hout a)⟩
  case isFalse => exact h.agrees playerId hj hl a

/-- And while players are being cleared. -/
theorem Lobbies.Clearing.expire {leaver : Option ℕ} {left : List LobbyPlayer} {id : ℕ}
    (h : l.Clearing leaver tierId left) (hout : ∀ a, ¬l.In id a) :
    (l.expire id).Clearing leaver tierId left := by
  refine ⟨fun playerId hne a hi => ?_, fun playerId hne a ha hin => ?_, fun playerId hin => ?_,
    h.only, h.left, h.gone⟩
  · simp only [Lobbies.expire, Table.get_del] at hi
    split at hi
    · cases hi
    · exact h.sound playerId hne a hi
  · simp only [Lobbies.expire, Table.get_del]
    split
    case isTrue e => exact absurd (e ▸ hin) (hout a)
    case isFalse => exact h.others playerId hne a ha hin
  · simp only [Lobbies.expire, Table.get_del]
    split
    case isTrue e => exact absurd (e ▸ hin) (hout tierId)
    case isFalse => exact h.cleared playerId hin

/-- And wherever a call stands. -/
theorem Call.Mid.expire {call : Call} {id : ℕ} (h : call.Mid l tierId) (hout : ∀ a, ¬l.In id a) :
    call.Mid (l.expire id) tierId := by
  obtain ⟨event, attempt, point⟩ := call
  cases point with
  | readyLobby | hasPaid | load => exact Lobbies.Agrees.expire h hout
  | save current result => exact ⟨h.1.expire hout, h.2⟩
  | launch state => exact ⟨h.1, h.2.1, h.2.2.expire hout⟩
  | saveLaunched state marked => exact ⟨h.1, h.2.1, h.2.2.1.expire hout, h.2.2.2⟩
  | clearPlayers state marked left => exact ⟨h.1, h.2.1, h.2.2.expire hout⟩
  | saveReset state marked => exact ⟨h.1, h.2.1, h.2.2.expire hout⟩
  | saveFailed state => exact ⟨h.1, h.2.1, h.2.2.1, h.2.2.2.expire hout⟩

end Lobbies

variable [DecidableEq T]

/-- What a call leaves, when it goes on and when it ends. -/
def Lobbies.After (tiers : T → RoomTier) (r : ℕ) (l : Lobbies T) (tierId : T) (call : Call)
    (answer : Answer) : Prop :=
  let out := l.resume tiers r tierId call answer
  match out.2 with
  | some call' => call'.Mid out.1 tierId ∧ call'.event.joiner = call.event.joiner ∧
      call'.event.leaver = call.event.leaver
  | none =>
      match call.outcome (tiers tierId) (l.stores tierId) answer with
      | .done => out.1.Done tierId call.event
      | .rejected | .thrown => out.1 = l ∧ l.Agrees

section Calls
variable {tiers : T → RoomTier} {l : Lobbies T} {tierId : T} {event : LobbyEvent} {attempt r : ℕ}
  {answer : Answer}

/-- An await that only reads. -/
theorem resume_same {call : Call}
    (hstore : (call.resume (tiers tierId) r (l.stores tierId) answer).1 = l.stores tierId)
    (hindex : cleared l.index call.point answer = l.index) :
    (l.resume tiers r tierId call answer).1 = l := by
  simp only [Lobbies.resume, hstore, hindex, Function.update_eq_self]

/-- A read of the lobby says what the call goes on with. -/
theorem after_load (hagrees : l.Agrees) (now : ℕ)
    (hkeeping : Call.Keeping (tiers tierId) (l.stores tierId) ⟨event, attempt, .load⟩ (.ok now)) :
    l.After tiers r tierId ⟨event, attempt, .load⟩ (.ok now) := by
  have hsame : (l.resume tiers r tierId ⟨event, attempt, .load⟩ (.ok now)).1 = l := by
    refine resume_same ?_ rfl
    simp only [Call.resume]
    split
    · rfl
    · split <;> rfl
  unfold Lobbies.After
  simp only [hsame]
  by_cases hrejected : (reduceLobby (l.stores tierId).load event (tiers tierId) now).rejected = none
  swap
  · simp [Lobbies.resume, Call.resume, hrejected, Call.outcome, hagrees]
  by_cases hchanged : (reduceLobby (l.stores tierId).load event (tiers tierId) now).changed = true
  swap
  · simp only [Lobbies.resume, Call.resume, hrejected, hchanged, Call.outcome, ne_eq,
      not_true_eq_false, if_false]
    obtain ⟨hmember, -⟩ := @changed_of_member _ _ _ _ 0 hrejected
    have hjoiner : event.joiner = none :=
      Option.not_isSome_iff_eq_none.mp fun h => hchanged (hmember (.inl h))
    have hleaver : event.leaver = none :=
      Option.not_isSome_iff_eq_none.mp fun h => hchanged (hmember (.inr h))
    exact Lobbies.Without.done (hleaver ▸ hagrees.without) hjoiner
  · simp only [Lobbies.resume, Call.resume, hrejected, hchanged, ne_eq, not_true_eq_false, if_false]
    have hdrops := hkeeping hrejected hchanged
    refine ⟨⟨hagrees, rfl, fun playerId => mem_ids_reduceLobby hrejected hchanged hdrops,
      fun playerId => (changed_of_member hrejected).2, fun hlaunch => ⟨?_, ?_⟩⟩, trivial, trivial⟩
    · refine Option.not_isSome_iff_eq_none.mp fun h => ?_
      obtain ⟨playerId, hjoin⟩ := Option.isSome_iff_exists.mp h
      cases hlaunch.symm.trans (not_launch_of_join hrejected hdrops hjoin)
    · exact ((reduces hrejected hchanged).launches hlaunch).2.1

/-- The lobby of a tier, saved over. -/
theorem in_update {store : Store} {playerId : ℕ} {a : T} {index : Table ℕ T} :
    Lobbies.In ⟨Function.update l.stores tierId store, index⟩ playerId a ↔
      if a = tierId then playerId ∈ store.load.ids else l.In playerId a := by
  by_cases e : a = tierId
  · subst e
    simp [Lobbies.In]
  · simp [Lobbies.In, e]

/-- A save lands on the version that was read, or the call begins again. -/
theorem after_save {current : LobbyState} {result : LobbyTransition} (now : ℕ)
    (hmid : Call.Mid l tierId ⟨event, attempt, .save current result⟩)
    (hjoin : ∀ playerId, event.joiner = some playerId → ∀ a, l.In playerId a → a = tierId) :
    l.After tiers r tierId ⟨event, attempt, .save current result⟩ (.ok now) := by
  obtain ⟨hagrees, hload, hids, hleft, hlaunch⟩ := hmid
  have hversion : (l.stores tierId).version = current.version := by rw [Store.version_eq, hload]
  obtain ⟨s', hs', ⟨countdown, hload'⟩, hsame⟩ :=
    (@save_getD (l.stores tierId) result.state current.version).2 hversion
  have hin : ∀ {s : Store}, s.load = s'.load → ∀ playerId a,
      Lobbies.In ⟨Function.update l.stores tierId s, l.index⟩ playerId a ↔
        if a = tierId then playerId ∈ result.state.ids else l.In playerId a := by
    intro s e playerId a
    rw [in_update, e, hload']
    rfl
  unfold Lobbies.After
  by_cases hlaunches : result.shouldLaunch = true
  · obtain ⟨hjoiner, hlaunching⟩ := hlaunch hlaunches
    simp only [Lobbies.resume, Call.resume, hs', hlaunches, if_true, cleared]
    refine ⟨⟨hjoiner, ?_, ?_⟩, trivial, trivial⟩
    · simp only [Function.update_self]
      exact hsame (by rw [hlaunching]; rintro ⟨⟩)
    · have hdone := done_of_saved hagrees hload hids hleft hjoin
        (@hin (s'.handOver ⟨result.state.players, result.state.gameId, result.state.countdown⟩) rfl)
        rfl
      exact hdone.without hjoiner
  · simp only [Lobbies.resume, Call.resume, hs', hlaunches, Call.outcome, hversion,
      if_true, cleared]
    exact done_of_saved hagrees hload hids hleft hjoin (hin rfl) rfl

/-- The launch is asked for with the lobby as it is then. -/
theorem after_readyLobby (now : ℕ) (hagrees : l.Agrees) :
    l.After tiers r tierId ⟨event, attempt, .readyLobby⟩ (.ok now) := by
  unfold Lobbies.After
  cases hgame : (l.stores tierId).load.gameId with
  | none =>
      simp only [Lobbies.resume, Call.resume, hgame, Call.outcome, cleared, Function.update_eq_self]
      exact ⟨trivial, hagrees⟩
  | some gameId =>
      simp only [Lobbies.resume, Call.resume, hgame, cleared, Function.update_eq_self]
      exact ⟨hagrees, trivial, trivial⟩

/-- The payment check of a ready route. -/
theorem after_hasPaid (hagrees : l.Agrees) (gameId : ℕ) :
    l.After tiers r tierId ⟨event, attempt, .hasPaid gameId⟩ answer := by
  have hends : ∀ out : Store × Option Call, out = (l.stores tierId, none) →
      Call.resume (tiers tierId) r (l.stores tierId) ⟨event, attempt, .hasPaid gameId⟩ answer =
        out → l.After tiers r tierId ⟨event, attempt, .hasPaid gameId⟩ answer := by
    rintro out rfl h
    unfold Lobbies.After
    simp only [Lobbies.resume, h, Call.outcome, cleared, Function.update_eq_self]
    exact ⟨trivial, hagrees⟩
  cases answer with
  | paid now paid =>
      cases paid with
      | false => exact hends _ rfl rfl
      | true =>
          cases event with
          | ready playerId ready paidFor =>
              refine ⟨fun id a => (hagrees id a).trans ?_, rfl, rfl⟩
              simp only [Lobbies.resume, Call.resume, in_update]
              split
              case isTrue e =>
                  subst e
                  rfl
              case isFalse => rfl
          | join | leave | tick | launched | «open» | close | reset => exact hends _ rfl rfl
  | ok | lost | throw | launched => exact hends _ rfl rfl

/-- The save of a launched lobby. -/
theorem after_launched {state marked : LobbyState} (now : ℕ)
    (hmid : Call.Mid l tierId ⟨event, attempt, .saveLaunched state marked⟩) :
    l.After tiers r tierId ⟨event, attempt, .saveLaunched state marked⟩ (.ok now) := by
  obtain ⟨hjoiner, hload, hwithout, hplayers, hstatus⟩ := hmid
  have hversion : (l.stores tierId).version = state.version := by rw [Store.version_eq, hload]
  obtain ⟨s', hs', -, hsame⟩ := (@save_getD (l.stores tierId) marked state.version).2 hversion
  have hload' := hsame (by rw [hstatus]; nofun)
  have hin : ∀ playerId a, Lobbies.In ⟨Function.update l.stores tierId s', l.index⟩ playerId a ↔
      l.In playerId a := by
    intro playerId a
    rw [in_update]
    split
    case isTrue e =>
        subst e
        rw [hload', LobbyState.ids, hplayers, Lobbies.In, hload, LobbyState.ids]
    case isFalse => rfl
  have hclearing := hwithout.clearing tierId hin rfl
  rw [hload] at hclearing
  unfold Lobbies.After
  simp only [Lobbies.resume, Call.resume, hs', Option.getD_some, cleared]
  refine ⟨mid_clearPlayers hjoiner ?_ hclearing, trivial, trivial⟩
  simp only [Function.update_self, hload']

/-- The reset after a launch keeps those who came in the meantime. -/
theorem after_reset {state marked : LobbyState} (now : ℕ)
    (hmid : Call.Mid l tierId ⟨event, attempt, .saveReset state marked⟩) :
    l.After tiers r tierId ⟨event, attempt, .saveReset state marked⟩ (.ok now) := by
  obtain ⟨hjoiner, hversion, hclearing⟩ := hmid
  obtain ⟨s', hs', -, hsame⟩ :=
    (@save_getD (l.stores tierId) (reduceLobby marked .reset (tiers tierId) 0).state
      marked.version).2 ((Store.version_eq _).trans hversion)
  have hload' := hsame nofun
  unfold Lobbies.After
  simp only [Lobbies.resume, Call.resume, hs', Option.getD_some, cleared, Call.outcome]
  refine Lobbies.Without.done (hclearing.empty (fun playerId a => ?_) rfl) hjoiner
  rw [in_update, hload']
  split
  case isTrue e => exact ⟨fun h => (List.not_mem_nil h).elim, fun h => absurd e h.1⟩
  case isFalse hne => exact ⟨fun h => ⟨hne, h⟩, fun h => h.2⟩

/-- A launch that failed keeps its players. -/
theorem after_failed {state : LobbyState} (now : ℕ)
    (hmid : Call.Mid l tierId ⟨event, attempt, .saveFailed state⟩) :
    l.After tiers r tierId ⟨event, attempt, .saveFailed state⟩ (.ok now) := by
  obtain ⟨hjoiner, hload, hnone, hwithout⟩ := hmid
  obtain ⟨s', hs', -, hsame⟩ :=
    (@save_getD (l.stores tierId) (reduceLobby state .reset (tiers tierId) 0).state
      state.version).2 (by rw [Store.version_eq, hload])
  have hload' := hsame nofun
  have hin : ∀ playerId a, Lobbies.In ⟨Function.update l.stores tierId s', l.index⟩ playerId a ↔
      l.In playerId a := by
    intro playerId a
    rw [in_update, hload']
    split
    case isTrue e =>
        subst e
        rw [Lobbies.In, hload, show state.ids = [] by rw [LobbyState.ids, hnone]; rfl]
        rfl
    case isFalse => rfl
  unfold Lobbies.After
  simp only [Lobbies.resume, Call.resume, hs', Option.getD_some, cleared, Call.outcome]
  refine Lobbies.Without.done ⟨fun playerId hne a => ?_, fun playerId e a ha => ?_⟩ hjoiner
  · rw [hin]
    exact hwithout.agrees playerId hne a
  · exact hwithout.gone playerId e a ((hin playerId a).mp ha)

/-- The answer of the launch. -/
theorem after_launch {state : LobbyState}
    (hmid : Call.Mid l tierId ⟨event, attempt, .launch state⟩)
    (hkeeping : Call.Keeping (tiers tierId) (l.stores tierId) ⟨event, attempt, .launch state⟩
      answer) : l.After tiers r tierId ⟨event, attempt, .launch state⟩ answer := by
  obtain ⟨hjoiner, hload, hwithout⟩ := hmid
  have hsame : (l.resume tiers r tierId ⟨event, attempt, .launch state⟩ answer).1 = l := by
    refine resume_same ?_ (by cases answer <;> rfl)
    cases answer <;> rfl
  unfold Lobbies.After
  simp only [hsame]
  cases answer with
  | launched now randomUUID => exact ⟨⟨hjoiner, hload, hwithout, rfl, rfl⟩, rfl, rfl⟩
  | ok | lost | throw | paid => exact ⟨⟨hjoiner, hload, hkeeping, hwithout⟩, rfl, rfl⟩

/-- The players of the launch are cleared one by one. -/
theorem after_clear {state marked : LobbyState} {left : List LobbyPlayer} (now : ℕ)
    (hmid : Call.Mid l tierId ⟨event, attempt, .clearPlayers state marked left⟩) :
    l.After tiers r tierId ⟨event, attempt, .clearPlayers state marked left⟩ (.ok now) := by
  obtain ⟨hjoiner, hversion, hclearing⟩ := hmid
  unfold Lobbies.After
  simp only [Lobbies.resume, Call.resume, Function.update_eq_self]
  refine ⟨mid_clearPlayers hjoiner hversion ?_, trivial, trivial⟩
  cases left with
  | nil => exact hclearing
  | cons player left => exact hclearing.clear

/-- The step of a call that drops nobody. -/
theorem after_call {call : Call} (hmid : call.Mid l tierId) (hanswers : call.Answers answer)
    (hkeeping : call.Keeping (tiers tierId) (l.stores tierId) answer)
    (hjoin : ∀ playerId, call.event.joiner = some playerId → ∀ a, l.In playerId a → a = tierId) :
    l.After tiers r tierId call answer := by
  obtain ⟨event, attempt, point⟩ := call
  cases point with
  | hasPaid gameId => exact after_hasPaid hmid gameId
  | launch state => exact after_launch hmid hkeeping
  | readyLobby =>
      match answer, hanswers with
      | .ok now, _ => exact after_readyLobby now hmid
  | load =>
      match answer, hanswers with
      | .ok now, _ => exact after_load hmid now hkeeping
  | save current result =>
      match answer, hanswers with
      | .ok now, _ => exact after_save now hmid hjoin
  | saveLaunched state marked =>
      match answer, hanswers with
      | .ok now, _ => exact after_launched now hmid
  | clearPlayers state marked left =>
      match answer, hanswers with
      | .ok now, _ => exact after_clear now hmid
  | saveReset state marked =>
      match answer, hanswers with
      | .ok now, _ => exact after_reset now hmid
  | saveFailed state =>
      match answer, hanswers with
      | .ok now, _ => exact after_failed now hmid

end Calls

/-! ### Requests -/

/-- What holds of the lobbies where a request stops. -/
def Request.Mid (l : Lobbies T) (q : Request T) : Prop :=
  match q.point with
  | .findPlayerLobby => l.Agrees
  | .leave existing call =>
      call.Mid l existing ∧ ∃ playerId, q.event.joiner = some playerId ∧
        call.event = .leave playerId ∧ existing ≠ q.tierId ∧
          (call.launching = none → l.index.get playerId = some existing)
  | .left _ => l.Without q.event.joiner
  | .apply call =>
      call.Mid l q.tierId ∧ call.event.joiner = q.event.joiner ∧
        call.event.leaver = q.event.leaver ∧
          ∀ playerId, q.event.joiner = some playerId → ∀ a, l.In playerId a → a = q.tierId
  | .setPlayerLobby => l.Done q.tierId q.event

/-- The request is for a player, where it writes the index. -/
def Request.ForPlayer (q : Request T) : Prop :=
  match q.point with
  | .findPlayerLobby | .leave _ _ | .left _ => q.event.joiner.isSome
  | .apply _ => True
  | .setPlayerLobby => q.event.joiner.isSome ∨ q.event.leaver.isSome

def Request.Answers (q : Request T) (answer : Answer) : Prop :=
  match q.point, answer with
  | .leave _ call, answer | .apply call, answer => call.Answers answer
  | _, .ok _ => True
  | _, _ => False

/-- The request drops nobody whose entry stays, and its leave is not refused. -/
def Request.Keeping (tiers : T → RoomTier) (l : Lobbies T) (q : Request T) (answer : Answer) :
    Prop :=
  match q.point with
  | .leave existing call => call.Keeping (tiers existing) (l.stores existing) answer ∧ q.Reads l
  | .apply call => call.Keeping (tiers q.tierId) (l.stores q.tierId) answer
  | .findPlayerLobby | .left _ | .setPlayerLobby => True

/-- One instance, whose requests run one after the other and whose awaits are answered. -/
def OneByOne (s : System (Lobbies T) (Request T)) : Act (Request T) Answer ℕ → Prop
  | .start r _ => r = 0
  | .resume r c => r = 0 ∧ ∀ q ∈ s.procs.get r, q.Answers c
  | .crash _ => False
  | .other _ => True

/-- No request drops a player whose entry stays, and no entry of a player in a roster expires. -/
def Keeping (tiers : T → RoomTier) (s : System (Lobbies T) (Request T)) :
    Act (Request T) Answer ℕ → Prop
  | .resume r c => ∀ q ∈ s.procs.get r, q.Keeping tiers s.store c
  | .other playerId => ∀ a, ¬s.store.In playerId a
  | _ => True

/-- Nothing runs and the index agrees, or request 0 runs. -/
def InOne (s : System (Lobbies T) (Request T)) : Prop :=
  match s.procs.get 0 with
  | none => s.store.Agrees
  | some q => q.Mid s.store ∧ q.ForPlayer

section Requests
variable {tiers : T → RoomTier} {l : Lobbies T} {tierId : T} {event : LobbyEvent} {r : ℕ}
  {q : Request T} {answer : Answer}

omit [DecidableEq T] in
/-- The entry of a player in no roster expires. -/
theorem Request.Mid.expire {id : ℕ} (h : q.Mid l) (hout : ∀ a, ¬l.In id a) :
    q.Mid (l.expire id) := by
  obtain ⟨tierId, event, point⟩ := q
  cases point with
  | findPlayerLobby => exact Lobbies.Agrees.expire h hout
  | leave existing call =>
      obtain ⟨hcall, playerId, hjoiner, hleave, hne, hindex⟩ := h
      refine ⟨hcall.expire hout, playerId, hjoiner, hleave, hne, fun hbefore => ?_⟩
      have hnamed := hindex hbefore
      have hagrees : l.Agrees := by
        obtain ⟨_, _, point⟩ := call
        cases point with
        | readyLobby | hasPaid | load => exact hcall
        | save => exact hcall.1
        | launch | saveLaunched | clearPlayers | saveReset | saveFailed => cases hbefore
      have hid : playerId ≠ id := by
        rintro rfl
        exact hout existing ((hagrees playerId existing).mp hnamed)
      simp only [Lobbies.expire, Table.get_del, if_neg hid, hnamed]
  | left existing => exact Lobbies.Without.expire h hout
  | apply call => exact ⟨h.1.expire hout, h.2⟩
  | setPlayerLobby => exact Lobbies.Done.expire h hout

/-- What a request leaves, when it goes on and when it ends. -/
def Stands (out : Lobbies T × Option (Request T)) : Prop :=
  match out.2 with
  | none => out.1.Agrees
  | some q => q.Mid out.1 ∧ q.ForPlayer

omit [DecidableEq T] in
/-- A call of an event that neither joins nor leaves has ended. -/
theorem Lobbies.Done.agree (h : l.Done tierId event) (hjoiner : event.joiner = none)
    (hleaver : event.leaver = none) : l.Agrees :=
  fun playerId => h.agrees playerId (by rw [hjoiner]; nofun) (by rw [hleaver]; nofun)

/-- The index says which lobby to leave first. -/
theorem stands_find (hagrees : l.Agrees) (hfor : event.joiner.isSome) (now : ℕ) :
    Stands (Request.resume tiers r l ⟨tierId, event, .findPlayerLobby⟩ (.ok now)) := by
  cases event with
  | join playerId nickname wallet =>
      have happly : (∀ a, l.index.get playerId = some a → a = tierId) →
          Request.Mid l ⟨tierId, .join playerId nickname wallet,
            .apply ⟨.join playerId nickname wallet, 0, .load⟩⟩ := by
        intro hindex
        refine ⟨hagrees, rfl, rfl, fun id hid a hin => ?_⟩
        obtain rfl := Option.some.inj hid
        exact hindex a ((hagrees playerId a).mpr hin)
      cases hindex : l.index.get playerId with
      | none =>
          simp only [Request.resume_find, hindex]
          exact ⟨happly fun a e => (nomatch hindex.symm.trans e), trivial⟩
      | some existing =>
          by_cases hsame : existing = tierId
          · simp only [Request.resume_find, hindex, hsame, ne_eq, not_true_eq_false, if_false]
            refine ⟨happly fun a e => ?_, trivial⟩
            exact (Option.some.inj (e.symm.trans hindex)).trans hsame
          · simp only [Request.resume_find, hindex, ne_eq, hsame, not_false_eq_true, if_true]
            exact ⟨⟨hagrees, playerId, rfl, rfl, hsame, fun _ => hindex⟩, rfl⟩
  | leave | ready | tick | launched | «open» | close | reset => cases hfor

omit [DecidableEq T] in
/-- The index once a player who left is cleared. -/
theorem Lobbies.Without.cleared {playerId : ℕ} (h : l.Without (some playerId)) :
    (l.expire playerId).Agrees := by
  intro id a
  simp only [Lobbies.expire, Table.get_del]
  split
  case isTrue e =>
      subst e
      exact ⟨nofun, fun hin => absurd hin (h.gone id rfl a)⟩
  case isFalse hne => exact h.agrees id (fun e => hne (Option.some.inj e).symm) a

/-- The key of the lobby that was left is deleted. -/
theorem stands_left {existing : T} (hwithout : l.Without event.joiner) (hfor : event.joiner.isSome)
    (now : ℕ) : Stands (Request.resume tiers r l ⟨tierId, event, .left existing⟩ (.ok now)) := by
  cases event with
  | join playerId nickname wallet =>
      refine ⟨⟨hwithout.cleared, rfl, rfl, fun id hid a hin => ?_⟩, trivial⟩
      exact absurd hin (hwithout.gone id hid a)
  | leave | ready | tick | launched | «open» | close | reset => cases hfor

/-- The key of the lobby that was joined is written. -/
theorem stands_set (hdone : l.Done tierId event)
    (hfor : event.joiner.isSome ∨ event.leaver.isSome) (now : ℕ) :
    Stands (Request.resume tiers r l ⟨tierId, event, .setPlayerLobby⟩ (.ok now)) := by
  cases event with
  | join playerId nickname wallet =>
      intro id a
      simp only [Request.resume, Table.get_upd]
      split
      case isTrue e =>
          subst e
          rw [Option.some.injEq, eq_comm]
          exact (hdone.joined id rfl a).symm
      case isFalse hne =>
          exact hdone.agrees id (fun e => hne (Option.some.inj e).symm) nofun a
  | leave playerId =>
      have hwithout : l.Without (some playerId) :=
        ⟨fun id hne => hdone.agrees id nofun hne, hdone.gone⟩
      exact hwithout.cleared
  | ready | tick | launched | «open» | close | reset => rcases hfor with h | h <;> cases h

/-- The call of the lobby itself. -/
theorem stands_apply {call : Call} (hmid : Request.Mid l ⟨tierId, event, .apply call⟩)
    (hanswers : call.Answers answer)
    (hkeeping : call.Keeping (tiers tierId) (l.stores tierId) answer) :
    Stands (Request.resume tiers r l ⟨tierId, event, .apply call⟩ answer) := by
  obtain ⟨hcall, hjoiner, hleaver, halone⟩ := hmid
  have hafter := @after_call T _ tiers l tierId r answer call hcall hanswers hkeeping
    fun id hid => halone id (hjoiner ▸ hid)
  unfold Lobbies.After at hafter
  cases hnext : (l.resume tiers r tierId call answer).2 with
  | some call' =>
      simp only [hnext] at hafter
      obtain ⟨hmid', hj, hl⟩ := hafter
      simp only [Request.resume_apply, hnext]
      refine ⟨⟨hmid', hj.trans hjoiner, hl.trans hleaver, fun id hid a hin => ?_⟩, trivial⟩
      rw [resume_in] at hin
      split at hin
      case isTrue e => exact e
      case isFalse => exact halone id hid a hin
  | none =>
      simp only [hnext] at hafter
      cases houtcome : call.outcome (tiers tierId) (l.stores tierId) answer with
      | done =>
          simp only [houtcome] at hafter
          have hdone : (l.resume tiers r tierId call answer).1.Done tierId event :=
            ⟨fun id hj hl => hafter.agrees id (hjoiner ▸ hj) (hleaver ▸ hl),
              fun id hj => hafter.joined id (hjoiner ▸ hj),
              fun id hl => hafter.gone id (hleaver ▸ hl)⟩
          cases event with
          | join | leave =>
              simp only [Request.resume_apply, hnext, houtcome]
              exact ⟨hdone, by simp [Request.ForPlayer, LobbyEvent.joiner, LobbyEvent.leaver]⟩
          | ready | tick | launched | «open» | close | reset =>
              simp only [Request.resume_apply, hnext, houtcome]
              exact hdone.agree rfl rfl
      | rejected | thrown =>
          simp only [houtcome] at hafter
          obtain ⟨hsame, hagrees⟩ := hafter
          simp only [Request.resume_apply, hnext, houtcome, hsame]
          exact hagrees

/-- An event is rejected at the read, before anything is written. -/
theorem outcome_rejected {tier : RoomTier} {s : Store} {call : Call}
    (h : call.outcome tier s answer = .rejected) : call.launching = none ∧
      call.point = .load ∧ ∃ now, (reduceLobby s.load call.event tier now).rejected ≠ none := by
  obtain ⟨event, attempt, point⟩ := call
  cases point with
  | load =>
      cases answer with
      | ok now =>
          refine ⟨rfl, rfl, now, fun hnone => ?_⟩
          simp [Call.outcome, hnone] at h
      | lost | throw | paid | launched => cases h
  | save current result =>
      cases answer with
      | lost | throw => cases h
      | ok | paid | launched =>
          simp only [Call.outcome] at h
          split at h <;> cases h
  | readyLobby | hasPaid | launch | saveLaunched | clearPlayers | saveReset =>
      cases answer <;> cases h
  | saveFailed => cases answer <;> cases h

/-- The call that leaves the other lobby. -/
theorem stands_leave {existing : T} {call : Call}
    (hmid : Request.Mid l ⟨tierId, event, .leave existing call⟩) (hanswers : call.Answers answer)
    (hkeeping : call.Keeping (tiers existing) (l.stores existing) answer)
    (hreads : Request.Reads l ⟨tierId, event, .leave existing call⟩) :
    Stands (Request.resume tiers r l ⟨tierId, event, .leave existing call⟩ answer) := by
  obtain ⟨hcall, playerId, hjoiner, hleave, hne, hindex⟩ := hmid
  have hcalljoiner : call.event.joiner = none := by rw [hleave]; rfl
  have hafter := @after_call T _ tiers l existing r answer call hcall hanswers hkeeping
    fun id hid => nomatch hcalljoiner.symm.trans hid
  unfold Lobbies.After at hafter
  cases hnext : (l.resume tiers r existing call answer).2 with
  | some call' =>
      simp only [hnext] at hafter
      obtain ⟨hmid', -, -⟩ := hafter
      simp only [Request.resume_leave, hnext]
      refine ⟨⟨hmid', playerId, hjoiner, (resume_joiner hnext).2 playerId hleave, hne,
        fun hlaunch => ?_⟩, by rw [Request.ForPlayer]; simp [hjoiner]⟩
      have hbefore := launching_of_resume hnext hlaunch
      rw [← hindex hbefore]
      obtain ⟨_, _, point⟩ := call
      cases point with
      | readyLobby | hasPaid | load | save => rfl
      | launch | saveLaunched | clearPlayers | saveReset | saveFailed => cases hbefore
  | none =>
      simp only [hnext] at hafter
      cases houtcome : call.outcome (tiers existing) (l.stores existing) answer with
      | done =>
          simp only [houtcome] at hafter
          simp only [Request.resume_leave, hnext, houtcome]
          have hwithout := hafter.without hcalljoiner
          rw [hleave] at hwithout
          refine ⟨?_, by rw [Request.ForPlayer]; simp [hjoiner]⟩
          rw [Request.Mid, hjoiner]
          exact hwithout
      | rejected =>
          -- the index named the lobby, so the player was in it
          obtain ⟨hbefore, hpoint, now, hrejected⟩ := outcome_rejected houtcome
          simp only [houtcome] at hafter
          have hin := (hafter.2 playerId existing).mp (hindex hbefore)
          rw [hleave] at hrejected
          refine absurd hin (rejected_leave (.inl hrejected) fun hstatus => ?_)
          obtain ⟨_, _, point⟩ := call
          obtain rfl : point = .load := hpoint
          exact hreads hstatus playerId hjoiner
      | thrown =>
          simp only [houtcome] at hafter
          obtain ⟨hsame, hagrees⟩ := hafter
          simp only [Request.resume_leave, hnext, houtcome, hsame]
          exact hagrees

/-- The step of a request. -/
theorem stands_resume (hmid : q.Mid l) (hfor : q.ForPlayer) (hanswers : q.Answers answer)
    (hkeeping : q.Keeping tiers l answer) : Stands (q.resume tiers r l answer) := by
  obtain ⟨tierId, event, point⟩ := q
  cases point with
  | findPlayerLobby =>
      match answer, hanswers with
      | .ok now, _ => exact stands_find hmid hfor now
  | leave existing call => exact stands_leave hmid hanswers hkeeping.1 hkeeping.2
  | left existing =>
      match answer, hanswers with
      | .ok now, _ => exact stands_left hmid hfor now
  | apply call => exact stands_apply hmid hanswers hkeeping
  | setPlayerLobby =>
      match answer, hanswers with
      | .ok now, _ => exact stands_set hmid hfor now

end Requests

/-! ### Runs -/

/-- A request that starts finds the index in order. -/
theorem mid_starts (tiers : T → RoomTier) {l : Lobbies T} {q : Request T} (h : l.Agrees)
    (hstarts : (requests tiers).starts q = true) : q.Mid l ∧ q.ForPlayer := by
  obtain ⟨tierId, event, point⟩ := q
  cases point with
  | findPlayerLobby => exact ⟨h, hstarts⟩
  | apply call =>
      simp only [requests, Bool.and_eq_true, decide_eq_true_eq] at hstarts
      obtain ⟨⟨hjoiner, hevent⟩, hcall⟩ := hstarts
      refine ⟨⟨?_, hevent ▸ rfl, hevent ▸ rfl, fun id hid => ?_⟩, trivial⟩
      · obtain ⟨_, attempt, point⟩ := call
        cases point with
        | readyLobby | load => exact h
        | hasPaid | save | launch | saveLaunched | clearPlayers | saveReset | saveFailed =>
            cases attempt <;> cases hcall
      · cases (Option.isNone_iff_eq_none.mp hjoiner).symm.trans hid
  | leave | left | setPlayerLobby => cases hstarts

/-- **One request at a time keeps a player in one lobby, and the index with it.**. -/
theorem inOne_step (tiers : T → RoomTier) {s s' : System (Lobbies T) (Request T)}
    {a : Act (Request T) Answer ℕ} (h : InOne s)
    (ha : Guarded (requests tiers).Step (fun s a => OneByOne s a ∧ Keeping tiers s a) s a s') :
    InOne s' := by
  obtain ⟨hstep, hone, hkeeping⟩ := ha
  unfold InOne at h
  cases a with
  | start r q =>
      obtain rfl : r = 0 := hone
      simp only [Processes.Step, Processes.act, Option.ite_none_right_eq_some] at hstep
      obtain ⟨⟨hstarts, hidle⟩, e⟩ := hstep
      obtain rfl := Option.some.inj e
      rw [Option.isNone_iff_eq_none.mp hidle] at h
      simp only [InOne, Table.get_upd_same]
      exact mid_starts tiers h hstarts
  | resume r c =>
      obtain ⟨rfl, hanswers⟩ := hone
      obtain ⟨q, hq, hstore, hprocs⟩ := Processes.step_resume _ hstep
      rw [hq] at h
      have hstands := @stands_resume T _ tiers s.store 0 q c h.1 h.2 (hanswers q hq) (hkeeping q hq)
      unfold Stands at hstands
      unfold InOne
      rw [hprocs, hstore]
      cases hnext : ((requests tiers).resume 0 s.store q c).2 with
      | none =>
          rw [Option.elim_none, Table.get_del_same]
          exact (hnext ▸ hstands :)
      | some q' =>
          rw [Option.elim_some, Table.get_upd_same]
          exact (hnext ▸ hstands :)
  | crash r => exact hone.elim
  | other playerId =>
      simp only [Processes.Step, Processes.act, requests, Option.map_some,
        Option.some.injEq] at hstep
      subst hstep
      unfold InOne
      cases hq : s.procs.get 0 with
      | none =>
          rw [hq] at h
          exact Lobbies.Agrees.expire h hkeeping
      | some q =>
          rw [hq] at h
          exact ⟨h.1.expire hkeeping, h.2⟩

/-- **The index agrees with the rosters.**  When one instance has answered its requests one after
the other, and none dropped a player whose entry stayed, the index names the lobby of each player
in a roster and of nobody else; and a join that returns has its player in the roster. -/
theorem index_agrees (tiers : T → RoomTier) {s : System (Lobbies T) (Request T)}
    (hs : Reachable (Guarded (requests tiers).Step fun s a => OneByOne s a ∧ Keeping tiers s a)
      (noRequests = ·) s) :
    (s.procs.get 0 = none →
        ∀ playerId a, s.store.index.get playerId = some a ↔ s.store.In playerId a) ∧
      ∀ q now s', s.procs.get 0 = some q → q.point = .setPlayerLobby →
        (requests tiers).Step s (.resume 0 (.ok now)) s' →
          ∀ playerId, q.event.joiner = some playerId → s'.store.In playerId q.tierId := by
  have hone : InOne s := by
    refine hs.invariant ?_ fun s a s' h ha => inOne_step tiers h ha
    rintro s rfl playerId a
    exact ⟨nofun, fun hin => (List.not_mem_nil hin).elim⟩
  unfold InOne at hone
  refine ⟨fun hidle => by rwa [hidle] at hone, fun q now s' hq hpoint hstep playerId hjoiner => ?_⟩
  rw [hq] at hone
  obtain ⟨hmid, -⟩ := hone
  rw [Request.Mid, hpoint] at hmid
  obtain ⟨q', hq', hstore, -⟩ := Processes.step_resume _ hstep
  obtain rfl := Option.some.inj (hq.symm.trans hq')
  have hstores := @Request.resume_stores T _ tiers s.store q (.ok now) 0
  rw [hpoint] at hstores
  have hin := (hmid.joined playerId hjoiner q.tierId).mpr rfl
  rw [Lobbies.In] at hin ⊢
  rw [hstore]
  exact (congrArg (fun stores => playerId ∈ (stores q.tierId).load.ids) hstores).mpr hin

section Check
variable (tiers : T → RoomTier)

instance (call : Call) (c : Answer) : Decidable (call.Answers c) := by
  unfold Call.Answers
  rcases call.point <;> rcases c <;> dsimp only <;> infer_instance

instance (q : Request T) (answer : Answer) : Decidable (q.Answers answer) := by
  unfold Request.Answers
  rcases q.point <;> rcases answer <;> dsimp only <;> infer_instance

instance (tier : RoomTier) (s : Store) (call : Call) (c : Answer) :
    Decidable (call.Keeping tier s c) := by
  unfold Call.Keeping
  rcases call.point <;> rcases c <;> dsimp only <;> infer_instance

instance (s : System (Lobbies T) (Request T)) (a : Act (Request T) Answer ℕ) :
    Decidable (OneByOne s a) :=
  match a with
  | .start r _ => inferInstanceAs (Decidable (r = 0))
  | .resume r c => inferInstanceAs (Decidable (r = 0 ∧ ∀ q ∈ s.procs.get r, q.Answers c))
  | .crash _ => inferInstanceAs (Decidable False)
  | .other _ => inferInstanceAs (Decidable True)

variable [Fintype T]

instance (l : Lobbies T) (q : Request T) (c : Answer) : Decidable (q.Keeping tiers l c) := by
  unfold Request.Keeping
  rcases q.point <;> dsimp only <;> infer_instance

instance (s : System (Lobbies T) (Request T)) (a : Act (Request T) Answer ℕ) :
    Decidable (Keeping tiers s a) :=
  match a with
  | .resume r c => inferInstanceAs (Decidable (∀ q ∈ s.procs.get r, q.Keeping tiers s.store c))
  | .other playerId => inferInstanceAs (Decidable (∀ a, ¬s.store.In playerId a))
  | .start _ _ => inferInstanceAs (Decidable True)
  | .crash _ => inferInstanceAs (Decidable True)

end Check

/-- Player 7 joins one lobby and then the other. -/
theorem index_agrees_twice : ∃ s : System (Lobbies Bool) (Request Bool),
    s.store.index.get 7 = some true ∧
      (s.procs.get 0 = none →
        ∀ playerId a, s.store.index.get playerId = some a ↔ s.store.In playerId a) ∧
        ∀ q now s', s.procs.get 0 = some q → q.point = .setPlayerLobby →
          (requests fun _ => practice).Step s (.resume 0 (.ok now)) s' →
            ∀ playerId, q.event.joiner = some playerId → s'.store.In playerId q.tierId := by
  have hrun : ((requests fun _ : Bool => practice).actsWhen
      (fun s a => OneByOne s a ∧ Keeping (fun _ => practice) s a) noRequests
      [.start 0 (joins false), .resume 0 (.ok 0), .resume 0 (.ok 0), .resume 0 (.ok 0),
        .resume 0 (.ok 0),
        .start 0 (joins true), .resume 0 (.ok 0), .resume 0 (.ok 0), .resume 0 (.ok 0),
        .resume 0 (.ok 0), .resume 0 (.ok 0), .resume 0 (.ok 0), .resume 0 (.ok 0)]).any
      (fun s => decide (s.store.index.get 7 = some true)) = true := by
    decide
  obtain ⟨s, hs, htest⟩ :=
    (requests fun _ : Bool => practice).reachable_of_actsWhen (Eq.refl noRequests) hrun
  exact ⟨s, of_decide_eq_true htest, index_agrees _ hs⟩

/-- Player 7 joins, and the lobby is reset. -/
theorem index_agrees_reset : ¬ ∀ (T : Type) [DecidableEq T] (tiers : T → RoomTier)
    (s : System (Lobbies T) (Request T)),
    Reachable (Guarded (requests tiers).Step OneByOne) (noRequests = ·) s →
      s.procs.get 0 = none →
        ∀ playerId a, s.store.index.get playerId = some a ↔ s.store.In playerId a := by
  intro hclaim
  have hrun : ((requests fun _ : Bool => practice).actsWhen OneByOne noRequests
      [.start 0 (joins false), .resume 0 (.ok 0), .resume 0 (.ok 0), .resume 0 (.ok 0),
        .resume 0 (.ok 0),
        .start 0 ⟨false, .reset, .apply ⟨.reset, 0, .load⟩⟩, .resume 0 (.ok 0),
        .resume 0 (.ok 0)]).any
      (fun s => (s.procs.get 0).isNone &&
        decide (s.store.index.get 7 = some false ∧ ¬s.store.In 7 false)) = true := by
    decide
  obtain ⟨s, hs, htest⟩ :=
    (requests fun _ : Bool => practice).reachable_of_actsWhen (Eq.refl noRequests) hrun
  rw [Bool.and_eq_true, decide_eq_true_iff] at htest
  obtain ⟨hidle, hnamed, hout⟩ := htest
  exact hout ((hclaim Bool _ s hs (Option.isNone_iff_eq_none.mp hidle) 7 false).mp hnamed)

end SnakeArena.Lobby
