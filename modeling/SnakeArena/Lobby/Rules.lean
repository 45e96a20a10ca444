import SnakeArena.Lobby.Seats

/-!
# Lobby — the rules hold over any events

`replay` applies a list of events, each at its clock, to an empty lobby.  `Ruled` is what every
lobby reached so keeps: the roster has no player twice and fits the tier, a deadline stands
exactly while the lobby counts down, and a scheduled lobby does not count down.

`handles` reads `reduceLobby` once: an event is refused, or edits the roster and runs the
auto-start rules, or is a command of the cycle, which settles the status itself.  What an event
can do to a countdown, a launch or a launching roster is a case analysis on it.

None of this needs the clocks to be ordered, the tier to ask for a player, or its short timer to
be the shorter one.
-/

namespace SnakeArena.Lobby

/-- The events in order, each at its clock, rejected or not. -/
def replay (tier : RoomTier) (state : LobbyState) : List (LobbyEvent × ℕ) → LobbyState
  | [] => state
  | (event, now) :: events => replay tier (reduceLobby state event tier now).state events

theorem replay_append (tier : RoomTier) : ∀ (events more : List (LobbyEvent × ℕ))
    (state : LobbyState),
    replay tier state (events ++ more) = replay tier (replay tier state events) more
  | [], _, _ => rfl
  | (event, now) :: events, more, state => by
      rw [List.cons_append, replay, replay, replay_append tier events more]

/-- The roster is within the tier's limit, where it has one. -/
def Fits (tier : RoomTier) (players : List LobbyPlayer) : Prop :=
  ∀ maxPlayers ∈ tier.maxPlayers, players.length ≤ maxPlayers

structure Ruled (tier : RoomTier) (state : LobbyState) : Prop where
  distinct : (state.players.map (·.playerId)).Nodup
  fits : Fits tier state.players
  deadline : state.countdownEndsAt ≠ none ↔ state.status = .countdown
  scheduled : state.scheduled = true → state.status ≠ .countdown

theorem ruled_empty (tier : RoomTier) : Ruled tier emptyLobby where
  distinct := List.nodup_nil
  fits _ _ := Nat.zero_le _
  deadline := by simp [emptyLobby]
  scheduled := nofun

/-! ### The auto-start rules -/

section Settle
variable {tier : RoomTier} {state : LobbyState} {mutated : Bool} {now : ℕ}

/-- The rules leave a scheduled lobby alone. -/
theorem settle_scheduled (h : state.scheduled = true) :
    settle state tier now mutated = ⟨state, mutated, none, false⟩ := by
  rw [settle, if_pos h]

theorem Settles.rejected {t : LobbyTransition} (h : Settles tier state mutated t) :
    t.rejected = none := by
  cases h <;> rfl

theorem Settles.scheduled {t : LobbyTransition} (h : Settles tier state mutated t) :
    t.state.scheduled = state.scheduled := by
  cases h <;> rfl

/-- A deadline stands after the rules exactly while the lobby counts down. -/
theorem Settles.deadline {t : LobbyTransition} (h : Settles tier state mutated t)
    (hstate : state.countdownEndsAt ≠ none ↔ state.status = .countdown) :
    t.state.countdownEndsAt ≠ none ↔ t.state.status = .countdown := by
  cases h with
  | idle => exact hstate
  | sooner h => simpa using h
  | short | begin | unpaid | launch => simp

/-- A lobby that is handed to `launch` had a deadline, and it has passed. -/
theorem settle_launch (h : (settle state tier now mutated).shouldLaunch = true) :
    Over state now := by
  by_cases hscheduled : state.scheduled = true
  · rw [settle_scheduled hscheduled] at h
    cases h
  rw [settle, if_neg hscheduled] at h
  by_cases hshort : state.players.length < tier.minPlayers
  · simp [hshort] at h
  simp only [if_neg hshort] at h
  split at h
  case h_1 => cases h
  case h_2 countdownEndsAt hcountdown hends =>
      split at h
      case isTrue hover =>
          exact ⟨Bool.not_eq_true _ ▸ hscheduled, hcountdown, countdownEndsAt, hends, hover⟩
      case isFalse => split at h <;> cases h
  case h_3 => cases h

/-- The rules move the deadline of a running countdown closer, if at all. -/
theorem settle_deadline (hcountdown : state.status = .countdown) {countdownEndsAt deadline : ℕ}
    (hends : state.countdownEndsAt = some countdownEndsAt)
    (h : (settle state tier now mutated).state.countdownEndsAt = some deadline) :
    deadline ≤ countdownEndsAt := by
  by_cases hscheduled : state.scheduled = true
  · rw [settle_scheduled hscheduled, hends] at h
    exact (Option.some.inj h).ge
  rw [settle, if_neg hscheduled] at h
  by_cases hshort : state.players.length < tier.minPlayers
  · simp [hshort, hcountdown] at h
  simp only [if_neg hshort, hcountdown, hends] at h
  split at h
  case isTrue =>
      -- an expired countdown leaves no deadline, however it ends
      by_cases hfee : tier.entryFeeLamports > 0
      · simp only [expire, hfee, if_true] at h
        split at h <;> cases h
      · simp [expire, hfee] at h
  case isFalse =>
      split at h
      case isTrue hsooner => exact Option.some.inj h ▸ hsooner.le
      case isFalse => exact (Option.some.inj (hends.symm.trans h)).ge

end Settle

/-! ### What an event can do -/

inductive Handles (tier : RoomTier) (state : LobbyState) (now : ℕ) :
    LobbyEvent → LobbyTransition → Prop where
  | refused {event : LobbyEvent} (r : Option LobbyRejection) :
      Handles tier state now event (unchanged state r)
  /-- A player's event edits the roster of a lobby that is not launching. -/
  | edited {event : LobbyEvent} {players : List LobbyPlayer} (h : event.settled = true)
      (hstatus : state.status ≠ .launching)
      (hdistinct : (state.players.map (·.playerId)).Nodup → (players.map (·.playerId)).Nodup)
      (hfits : Fits tier state.players → Fits tier players) :
      Handles tier state now event
        (settle { state with players, version := state.version + 1 } tier now true)
  | ticked : Handles tier state now .tick (settle state tier now false)
  /-- A command of the cycle keeps the roster or clears it. -/
  | commanded {event : LobbyEvent} {next : LobbyState} (h : event.settled = false)
      (hplayers : next.players = state.players ∨ next.players = [])
      (hstatus : next.status = .waiting ∨ next.status = .launching)
      (hends : next.countdownEndsAt = none) :
      Handles tier state now event ⟨next, true, none, false⟩

section Handle
variable {tier : RoomTier} {state : LobbyState} {event : LobbyEvent} {now : ℕ}

/-- Room for one more. -/
theorem Fits.join {players : List LobbyPlayer} {player : LobbyPlayer}
    (h : isAtCapacity players.length tier = false) : Fits tier (players ++ [player]) := by
  intro maxPlayers hmax
  rw [Option.mem_def] at hmax
  simp only [isAtCapacity, hmax, decide_eq_false_iff_not] at h
  rw [List.length_append, List.length_singleton]
  omega

theorem map_playerId_set {players : List LobbyPlayer} {index : ℕ} {existing : LobbyPlayer}
    {ready : Bool} {paidFor : Option ℕ} (hget : players[index]? = some existing) :
    (players.set index { existing with ready, paidFor }).map (·.playerId) =
      players.map (·.playerId) := by
  obtain ⟨hlt, rfl⟩ := List.getElem?_eq_some_iff.mp hget
  have hmap : index < (players.map (·.playerId)).length := by simpa using hlt
  calc (players.set index { players[index] with ready, paidFor }).map (·.playerId)
      = (players.map (·.playerId)).set index (players.map (·.playerId))[index] := by simp
    _ = players.map (·.playerId) := List.set_getElem_self hmap

theorem handles (tier : RoomTier) (state : LobbyState) (event : LobbyEvent) (now : ℕ) :
    Handles tier state now event (reduceLobby state event tier now) := by
  cases event with
  | join playerId nickname wallet =>
      simp only [reduceLobby]
      split_ifs with hlaunching hclosed hjoined hfull
      · exact .refused _
      · exact .refused _
      · exact .refused _
      · exact .refused _
      · refine .edited rfl hlaunching (fun hnodup => ?_) fun _ => .join (by simpa using hfull)
        rw [List.map_append, List.nodup_append]
        refine ⟨hnodup, List.nodup_singleton _, ?_⟩
        rintro a ha b hb rfl
        obtain ⟨p, hp, hid⟩ := List.mem_map.mp ha
        exact hjoined (List.any_eq_true.mpr ⟨p, hp, by simpa [hid] using hb⟩)
  | leave playerId =>
      simp only [reduceLobby]
      split_ifs with hmember hlaunching
      · exact .refused _
      · refine .edited rfl hlaunching (fun hnodup => ?_) fun hfits maxPlayers hmax => ?_
        · exact hnodup.sublist (List.filter_sublist.map _)
        · exact (List.length_filter_le _ _).trans (hfits maxPlayers hmax)
      · exact .refused _
  | ready playerId ready paidFor =>
      simp only [reduceLobby]
      cases hindex : state.players.findIdx? (·.playerId = playerId) with
      | none => exact .refused _
      | some index =>
          simp only
          split_ifs with hlaunching
          · exact .refused _
          cases hget : state.players[index]? with
          | none => exact .refused _
          | some existing =>
              simp only
              split_ifs with hsame
              · exact .refused _
              · refine .edited rfl hlaunching (fun hnodup => ?_) fun hfits maxPlayers hmax => ?_
                · rwa [map_playerId_set hget]
                · rw [List.length_set]
                  exact hfits maxPlayers hmax
  | tick => exact .ticked
  | launched gameId => exact .commanded rfl (.inl rfl) (.inr rfl) rfl
  | «open» gameId scheduled =>
      refine .commanded rfl (.inl ?_) (.inl rfl) rfl
      by_cases hplayers : state.players.length > 0
      · simp [hplayers]
      · obtain hempty : state.players = [] := List.length_eq_zero_iff.mp (by omega)
        simp [hempty, emptyLobby]
  | close =>
      simp only [reduceLobby]
      split_ifs with hlaunching
      · exact .refused _
      · exact .commanded rfl (.inl rfl) (.inr rfl) rfl
  | reset => exact .commanded rfl (.inr rfl) (.inl rfl) rfl

/-- The rules keep a lobby ruled. -/
theorem Ruled.settle {mutated : Bool} (h : Ruled tier state) :
    Ruled tier (settle state tier now mutated).state := by
  by_cases hscheduled : state.scheduled = true
  · rw [settle_scheduled hscheduled]
    exact h
  have hsettles : Settles tier state mutated (Lobby.settle state tier now mutated) := settles
  have hsub := hsettles.players
  exact {
    distinct := h.distinct.sublist (hsub.map _)
    fits := fun maxPlayers hmax => hsub.length_le.trans (h.fits maxPlayers hmax)
    deadline := hsettles.deadline h.deadline
    scheduled := fun hs => absurd (hsettles.scheduled ▸ hs) hscheduled }

/-- **One event keeps a lobby ruled.** -/
theorem Handles.ruled {t : LobbyTransition} (ht : Handles tier state now event t)
    (h : Ruled tier state) : Ruled tier t.state := by
  cases ht with
  | refused => exact h
  | edited _ _ hdistinct hfits =>
      exact Ruled.settle ⟨hdistinct h.distinct, hfits h.fits, h.deadline, h.scheduled⟩
  | ticked => exact h.settle
  | commanded _ hplayers hstatus hends =>
      have hnot : ∀ {status : LobbyStatus}, status = .waiting ∨ status = .launching →
          status ≠ .countdown := by
        rintro _ (rfl | rfl) <;> nofun
      refine ⟨?_, ?_, ?_, fun _ => hnot hstatus⟩
      · rcases hplayers with e | e
        · exact e ▸ h.distinct
        · exact e ▸ List.nodup_nil
      · rcases hplayers with e | e
        · exact e ▸ h.fits
        · exact e ▸ fun _ _ => Nat.zero_le _
      · simp [hends, hnot hstatus]

theorem Ruled.run (h : Ruled tier state) (events : List (LobbyEvent × ℕ)) :
    Ruled tier (replay tier state events) := by
  induction events generalizing state with
  | nil => exact h
  | cons e events ih => exact ih ((handles tier state e.1 e.2).ruled h)

/-! ### Countdowns, launches and rejections -/

theorem Handles.launch {t : LobbyTransition} (ht : Handles tier state now event t)
    (h : t.shouldLaunch = true) :
    Over state now ∧ tier.minPlayers ≤ t.state.players.length ∧
      (tier.entryFeeLamports > 0 → ∀ p ∈ t.state.players, p.ready = true) := by
  cases ht with
  | refused => cases h
  | edited =>
      obtain ⟨-, -, henough, -, hpaid⟩ := settles.launches h
      obtain ⟨hscheduled, hcountdown, hpassed⟩ := settle_launch h
      exact ⟨⟨hscheduled, hcountdown, hpassed⟩, henough, hpaid⟩
  | ticked =>
      obtain ⟨-, -, henough, -, hpaid⟩ := settles.launches h
      exact ⟨settle_launch h, henough, hpaid⟩
  | commanded => cases h

theorem Handles.deadline {t : LobbyTransition} (ht : Handles tier state now event t)
    (hcountdown : state.status = .countdown) {countdownEndsAt deadline : ℕ}
    (hends : state.countdownEndsAt = some countdownEndsAt)
    (h : t.state.countdownEndsAt = some deadline) : deadline ≤ countdownEndsAt := by
  cases ht with
  | refused => exact (Option.some.inj (hends.symm.trans h)).ge
  | edited =>
      refine settle_deadline ?_ ?_ h
      · exact hcountdown
      · exact hends
  | ticked => exact settle_deadline hcountdown hends h
  | commanded _ _ _ hnone => cases hnone.symm.trans h

theorem Handles.scheduled {t : LobbyTransition} (ht : Handles tier state now event t)
    (h : state.scheduled = true) :
    t.shouldLaunch = false ∧ (event.settled = true → t.state.status = state.status) := by
  cases ht with
  | refused => exact ⟨rfl, fun _ => rfl⟩
  | edited =>
      rw [settle_scheduled (by exact h)]
      exact ⟨rfl, fun _ => rfl⟩
  | ticked =>
      rw [settle_scheduled h]
      exact ⟨rfl, fun _ => rfl⟩
  | commanded he => exact ⟨rfl, fun hs => nomatch he.symm.trans hs⟩

theorem Handles.rejected {t : LobbyTransition} (ht : Handles tier state now event t)
    (h : t.rejected ≠ none) : t.state = state := by
  cases ht with
  | refused => rfl
  | edited | ticked => exact absurd settles.rejected h
  | commanded => exact absurd rfl h

/-- Players' events are rejected while the lobby is launching. -/
theorem reduceLobby_launching (h : state.status = .launching) (he : event.settled = true)
    (htick : event ≠ .tick) :
    ∃ r, reduceLobby state event tier now = unchanged state (some r) := by
  cases event with
  | join => exact ⟨_, by simp [reduceLobby, h]; rfl⟩
  | leave playerId =>
      by_cases hmember : state.players.any (·.playerId = playerId)
      · exact ⟨.lobbyLaunching, by simp [reduceLobby, h, hmember]⟩
      · exact ⟨.notJoined, by simp [reduceLobby, hmember]⟩
  | ready playerId ready paidFor =>
      cases hindex : state.players.findIdx? (·.playerId = playerId) with
      | none => exact ⟨.notJoined, by simp only [reduceLobby, hindex]⟩
      | some index => exact ⟨.lobbyLaunching, by simp only [reduceLobby, hindex, h, if_true]⟩
  | tick => exact absurd rfl htick
  | launched | «open» | close | reset => cases he

/-- As long as one countdown runs, its deadline does not move later. -/
theorem Ruled.run_deadline {events : List (LobbyEvent × ℕ)} {countdownEndsAt deadline : ℕ}
    (h : Ruled tier state)
    (hcountdown : ∀ n ≤ events.length, (replay tier state (events.take n)).status = .countdown)
    (hends : state.countdownEndsAt = some countdownEndsAt)
    (hlast : (replay tier state events).countdownEndsAt = some deadline) :
    deadline ≤ countdownEndsAt := by
  induction events generalizing state countdownEndsAt with
  | nil => exact (Option.some.inj (hends.symm.trans hlast)).ge
  | cons e events ih =>
      have hnow : state.status = .countdown := hcountdown 0 (Nat.zero_le _)
      have hnext := hcountdown 1 (by simp)
      have hruled := (handles tier state e.1 e.2).ruled h
      -- the next state counts down, so it has a deadline of its own
      obtain ⟨between, hbetween⟩ := Option.ne_none_iff_exists'.mp (hruled.deadline.mpr hnext)
      calc deadline ≤ between :=
            ih hruled (fun n hn => hcountdown (n + 1) (by simpa using hn)) hbetween hlast
        _ ≤ countdownEndsAt := (handles tier state e.1 e.2).deadline hnow hends hbetween

end Handle

/-! ### Any events -/

/-- What one event may do to a lobby. -/
structure Obeys (tier : RoomTier) (state : LobbyState) (event : LobbyEvent) (now : ℕ)
    (t : LobbyTransition) : Prop where
  /-- Only a countdown that is over launches, and whom it launches is enough and has paid. -/
  launch : t.shouldLaunch = true → Over state now ∧ tier.minPlayers ≤ t.state.players.length ∧
    (tier.entryFeeLamports > 0 → ∀ p ∈ t.state.players, p.ready = true)
  /-- The auto-start rules do nothing to a scheduled lobby. -/
  scheduled : state.scheduled = true →
    t.shouldLaunch = false ∧ (event.settled = true → t.state.status = state.status)
  /-- The roster of a launching lobby is not joined, left or readied. -/
  launching : state.status = .launching → event.settled = true → event ≠ .tick →
    t.state = state ∧ t.rejected ≠ none
  rejected : t.rejected ≠ none → t.state = state

/-- **The lobby rules hold over any events**, at any clocks. -/
theorem lobby_rules (tier : RoomTier) (events : List (LobbyEvent × ℕ)) :
    Ruled tier (replay tier emptyLobby events) ∧
    (∀ event now, Obeys tier (replay tier emptyLobby events) event now
      (reduceLobby (replay tier emptyLobby events) event tier now)) ∧
    ∀ (more : List (LobbyEvent × ℕ)) (countdownEndsAt deadline : ℕ),
      (∀ n ≤ more.length,
        (replay tier emptyLobby (events ++ more.take n)).status = .countdown) →
      (replay tier emptyLobby events).countdownEndsAt = some countdownEndsAt →
      (replay tier emptyLobby (events ++ more)).countdownEndsAt = some deadline →
      deadline ≤ countdownEndsAt := by
  have hruled := (ruled_empty tier).run events
  refine ⟨hruled, fun event now => ?_,
    fun more countdownEndsAt deadline hcountdown hends hlast => ?_⟩
  · have hhandles := handles tier (replay tier emptyLobby events) event now
    refine ⟨hhandles.launch, hhandles.scheduled, fun hlaunching he htick => ?_, hhandles.rejected⟩
    obtain ⟨r, hr⟩ := reduceLobby_launching hlaunching he htick
    rw [hr]
    exact ⟨rfl, nofun⟩
  · simp only [replay_append] at hcountdown hlast
    exact hruled.run_deadline hcountdown hends hlast

/-- Two players count down, and both readying brings the launch forward. -/
example : (replay ⟨0, 2, none, 45, 10⟩ emptyLobby
    [(.join 1 "a" (.key 1), 0), (.join 2 "b" (.key 2), 1000), (.ready 1 true none, 2000),
      (.ready 2 true none, 3000)]).countdownEndsAt = some 13000 := by decide

end SnakeArena.Lobby
