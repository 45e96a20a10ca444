import SnakeArena.Lobby.Payments
import SnakeArena.Lobby.Versions

/-!
# Lobby — who paid keeps the seat

An entry is paid for once a save has written it as ready after a payment check.  `Seats` is what
every step keeps: the saved lobby lists the entries that are paid for, and they stay in the
lobby while the version does.

A paid entry is lost in two ways.  A countdown that is over evicts whoever is not ready, paid or
not.  And a lobby is cleared without a look at its roster: by the reset of a stage or of a
request, by a launch that failed, and by the final reset of one that succeeded.  `KeepsSeats`
excludes both.
-/

namespace SnakeArena.Lobby
open SnakeArena.Library

/-! ### The roster that the auto-start rules see -/

/-- The roster of an event, before the rules. -/
def LobbyState.roster (state : LobbyState) (now : ℕ) : LobbyEvent → List LobbyPlayer
  | .join playerId nickname wallet =>
      state.players ++ [⟨playerId, nickname, wallet, now, false, state.version + 1, none⟩]
  | .leave playerId => state.players.filter (·.playerId ≠ playerId)
  | .ready playerId ready paidFor =>
      match state.players.findIdx? (·.playerId = playerId) with
      | none => state.players
      | some index =>
          match state.players[index]? with
          | none => state.players
          | some existing => state.players.set index { existing with ready, paidFor }
  | _ => state.players

/-- The auto-start rules run on the event. -/
def LobbyEvent.settled : LobbyEvent → Bool
  | .join _ _ _ | .leave _ | .ready _ _ _ | .tick => true
  | .launched _ | .open _ _ | .close | .reset => false

/-- The countdown is over. -/
def Over (state : LobbyState) (now : ℕ) : Prop :=
  state.scheduled = false ∧ state.status = .countdown ∧
    ∃ countdownEndsAt ∈ state.countdownEndsAt, countdownEndsAt ≤ now

/-- The countdown is over, and whoever is not ready is evicted. -/
def Evicts (tier : RoomTier) (state : LobbyState) (now : ℕ) : Prop :=
  tier.entryFeeLamports > 0 ∧ Over state now

instance (state : LobbyState) (now : ℕ) : Decidable (Over state now) := by
  unfold Over
  infer_instance

instance (tier : RoomTier) (state : LobbyState) (now : ℕ) : Decidable (Evicts tier state now) := by
  unfold Evicts
  infer_instance

section Roster
variable {tier : RoomTier} {state : LobbyState} {event : LobbyEvent} {now : ℕ} {mutated : Bool}
  {q : LobbyPlayer}

/-- The rules keep whoever is ready, and everyone while there is time. -/
theorem mem_settle (hq : q ∈ state.players)
    (hready : Evicts tier state now → tier.minPlayers ≤ state.players.length → q.ready = true) :
    q ∈ (settle state tier now mutated).state.players := by
  unfold settle
  by_cases hscheduled : state.scheduled = true
  · rw [if_pos hscheduled]
    exact hq
  rw [if_neg hscheduled]
  by_cases hshort : state.players.length < tier.minPlayers
  · simp only [if_pos hshort]
    split <;> exact hq
  simp only [if_neg hshort]
  split
  case h_1 => exact hq
  case h_2 countdownEndsAt hcountdown hends =>
      split
      case isTrue hover =>
          by_cases hfee : tier.entryFeeLamports > 0
          · have hq' : q ∈ state.players.filter (·.ready) :=
              List.mem_filter.mpr ⟨hq, hready ⟨hfee, Bool.not_eq_true _ ▸ hscheduled, hcountdown,
                countdownEndsAt, hends, hover⟩ (not_lt.mp hshort)⟩
            simp only [expire, hfee, if_true]
            split <;> exact hq'
          · simp only [expire, hfee, if_false]
            exact hq
      case isFalse =>
          split <;> exact hq
  case h_3 => exact hq

/-- A player who is replaced in a roster was the one at that place. -/
theorem mem_set_or {players : List LobbyPlayer} {index : ℕ} {existing : LobbyPlayer}
    (player : LobbyPlayer) (hget : players[index]? = some existing) (hq : q ∈ players) :
    q ∈ players.set index player ∨ q = existing := by
  obtain ⟨i, hi, rfl⟩ := List.mem_iff_getElem.mp hq
  by_cases e : index = i
  · subst e
    exact .inr (Option.some.inj ((List.getElem?_eq_getElem hi).symm.trans hget))
  · refine .inl (List.mem_iff_getElem.mpr ⟨i, by simpa using hi, ?_⟩)
    rw [List.getElem_set_ne e]

/-- Everyone but the player who leaves stays in the roster. -/
theorem mem_roster (event : LobbyEvent) (now : ℕ) (hq : q ∈ state.players) :
    (∃ q' ∈ state.roster now event,
      q'.joinedVersion = q.joinedVersion ∧ q'.playerId = q.playerId) ∨
      event = .leave q.playerId := by
  cases event with
  | join => exact .inl ⟨q, List.mem_append_left _ hq, rfl, rfl⟩
  | leave playerId =>
      by_cases e : q.playerId = playerId
      · exact .inr (e ▸ rfl)
      · exact .inl ⟨q, List.mem_filter.mpr ⟨hq, by simpa using e⟩, rfl, rfl⟩
  | ready playerId ready paidFor =>
      simp only [LobbyState.roster]
      split
      · exact .inl ⟨q, hq, rfl, rfl⟩
      split
      · exact .inl ⟨q, hq, rfl, rfl⟩
      case h_2 index _ existing hget =>
          rcases mem_set_or { existing with ready, paidFor } hget hq with hmem | rfl
          · exact .inl ⟨q, hmem, rfl, rfl⟩
          · obtain ⟨hlt, -⟩ := List.getElem?_eq_some_iff.mp hget
            exact .inl ⟨_, List.mem_set hlt _, rfl, rfl⟩
  | tick | launched | «open» | close | reset => exact .inl ⟨q, hq, rfl, rfl⟩

/-- What the rules leave of the roster, an event that changes the lobby leaves. -/
theorem mem_reduceLobby (hq : q ∈ state.roster now event)
    (hrejected : (reduceLobby state event tier now).rejected = none)
    (hchanged : (reduceLobby state event tier now).changed = true) (hreset : event ≠ .reset)
    (hready : event.settled = true → Evicts tier state now →
      tier.minPlayers ≤ (state.roster now event).length → q.ready = true) :
    q ∈ (reduceLobby state event tier now).state.players := by
  cases event with
  | join playerId nickname wallet =>
      simp only [reduceLobby] at hrejected ⊢
      split_ifs at hrejected ⊢
      iterate 4 cases hrejected
      exact mem_settle hq fun he => hready rfl he
  | leave playerId =>
      simp only [reduceLobby] at hrejected ⊢
      split_ifs at hrejected ⊢
      · cases hrejected
      · exact mem_settle hq fun he => hready rfl he
      · cases hrejected
  | ready playerId ready paidFor =>
      simp only [reduceLobby] at hrejected hchanged ⊢
      simp only [LobbyState.roster] at hq hready
      cases hindex : state.players.findIdx? (·.playerId = playerId) with
      | none =>
          simp only [hindex] at hrejected
          cases hrejected
      | some index =>
          simp only [hindex] at hrejected hchanged hq hready ⊢
          cases hget : state.players[index]? with
          | none =>
              simp only [hget] at hchanged
              split_ifs at hrejected hchanged <;> cases hchanged
          | some existing =>
              simp only [hget] at hrejected hchanged hq hready ⊢
              split_ifs at hrejected hchanged ⊢
              · cases hrejected
              · cases hchanged
              · exact mem_settle hq fun he => hready rfl he
  | tick => exact mem_settle hq fun he => hready rfl he
  | launched gameId => exact hq
  | «open» gameId scheduled =>
      have hplayers : state.players.length > 0 := List.length_pos_of_mem hq
      simp only [reduceLobby, if_pos hplayers]
      exact hq
  | close =>
      simp only [reduceLobby] at hchanged ⊢
      split_ifs at hchanged ⊢
      · cases hchanged
      · exact hq
  | reset => exact absurd rfl hreset

end Roster

/-! ### Paid entries -/

namespace Journal

/-- A save wrote the entry as ready, after a payment check. -/
def PaidFor (j : Journal) (v : ℕ) : Prop :=
  ∃ w ∈ j.saves, ∃ p ∈ w.state.players,
    p.joinedVersion = v ∧ p.ready = true ∧ p.paidFor.isSome = true

instance (j : Journal) (v : ℕ) : Decidable (j.PaidFor v) := by
  unfold PaidFor
  infer_instance

/-- The lobby has no player whose payment was forgotten. -/
def Lists (j : Journal) (state : LobbyState) : Prop :=
  ∀ q ∈ state.players, q.ready = true → q.paidFor.isSome = true → j.PaidFor q.joinedVersion

/-- `state` has the paid players of the lobby, as long as the version stays. -/
structure Seated (j : Journal) (state : LobbyState) : Prop where
  le : state.version ≤ j.store.load.version
  same : j.store.load.version = state.version → ∀ q, j.PaidFor q.joinedVersion →
    (q ∈ j.store.load.players ↔ q ∈ state.players)

/-- The paid players of `current` that a call's save leaves. -/
structure Spares (j : Journal) (current : LobbyState) (event : LobbyEvent)
    (result : LobbyState) : Prop where
  kept : ∀ q ∈ current.players, j.PaidFor q.joinedVersion →
    q.joinedVersion ∈ result.entries ∨ event = .leave q.playerId ∨ event = .reset
  ticked : event = .tick → ∀ q ∈ current.players, j.PaidFor q.joinedVersion → q ∈ result.players

/-- Payments are remembered, and the paid players stay as long as the version does. -/
structure Seats (j j' : Journal) : Prop where
  lists : j'.Lists j'.store.load
  paid : ∀ v, j.PaidFor v → j'.PaidFor v
  load : j.store.load.version < j'.store.load.version ∨
    j'.store.load.version = j.store.load.version ∧ (∀ v, j'.PaidFor v → j.PaidFor v) ∧
      ∀ q, j.PaidFor q.joinedVersion →
        (q ∈ j'.store.load.players ↔ q ∈ j.store.load.players)

variable {j j' : Journal} {state : LobbyState}

theorem Seats.seated (h : j.Seats j') (hs : j.Seated state) : j'.Seated state := by
  obtain ⟨hle, hsame⟩ := hs
  rcases h.load with hlt | ⟨hversion, hpaid, hplayers⟩
  · exact ⟨by omega, fun e => by omega⟩
  · refine ⟨by omega, fun e q hq => ?_⟩
    have hq := hpaid _ hq
    exact (hplayers q hq).trans (hsame (by omega) q hq)

/-- What a call spares, it spares for as long as its save can land. -/
theorem Seats.spares (h : j.Seats j') {current result : LobbyState} {event : LobbyEvent}
    (hle : current.version ≤ j.store.load.version)
    (hs : j.store.load.version = current.version → j.Spares current event result) :
    j'.store.load.version = current.version → j'.Spares current event result := by
  intro e
  rcases h.load with hlt | ⟨hversion, hpaid, -⟩
  · omega
  · obtain ⟨hkept, hticked⟩ := hs (by omega)
    exact ⟨fun q hq hp => hkept q hq (hpaid _ hp), fun ht q hq hp => hticked ht q hq (hpaid _ hp)⟩

end Journal

/-- What a call knows of the paid players, where it stops. -/
def Journal.KnowsSeats (tier : RoomTier) (j : Journal) (p : Call) : Prop :=
  match p.point with
  | .save current result =>
      j.Seated current ∧ j.Lists current ∧ Reduces tier current p.event result ∧
        (j.store.load.version = current.version → j.Spares current p.event result.state)
  | .saveLaunched state marked =>
      j.Seated state ∧ marked.version = state.version + 1 ∧ marked.players = state.players
  | .launch state => j.Seated state
  | _ => True

/-- A countdown that is over finds who paid ready, and a lobby is cleared of paid entries only
when their launch succeeded. -/
def KeepsSeat (tier : RoomTier) (j : Journal) (p : Call) (answer : Answer) : Prop :=
  match p.point, answer with
  | .load, .ok now =>
      p.event.settled = true → Evicts tier j.store.load now →
        tier.minPlayers ≤ (j.store.load.roster now p.event).length →
          ∀ q ∈ j.store.load.roster now p.event, j.PaidFor q.joinedVersion → q.ready = true
  | _, _ =>
      p.clears = true → (p.lands tier j.store answer).isSome = true →
        ∀ q ∈ j.store.load.players, j.PaidFor q.joinedVersion → q.joinedVersion ∈ j.succeeded

def KeepsSeats (tier : RoomTier) (s : System Journal Call) : Act Call Answer Empty → Prop
  | .resume r c => ∀ p ∈ s.procs.get r, KeepsSeat tier s.store p c
  | _ => True

instance (tier : RoomTier) (j : Journal) (p : Call) (answer : Answer) :
    Decidable (KeepsSeat tier j p answer) := by
  unfold KeepsSeat
  rcases p.point <;> rcases answer <;> dsimp only <;> infer_instance

instance (tier : RoomTier) (s : System Journal Call) (a : Act Call Answer Empty) :
    Decidable (KeepsSeats tier s a) :=
  match a with
  | .resume r c => inferInstanceAs (Decidable (∀ p ∈ s.procs.get r, KeepsSeat tier s.store p c))
  | .start _ _ => inferInstanceAs (Decidable True)
  | .crash _ => inferInstanceAs (Decidable True)
  | .other _ => inferInstanceAs (Decidable True)

section Calls
variable {tier : RoomTier} {j j' : Journal} {p : Call} {answer : Answer} {r : ℕ}

theorem Journal.Seats.knows (h : j.Seats j') (hp : j.KnowsSeats tier p) :
    j'.KnowsSeats tier p := by
  obtain ⟨event, attempt, point⟩ := p
  cases point with
  | save current result =>
      obtain ⟨hseated, hlists, hr, hspares⟩ := hp
      exact ⟨h.seated hseated, fun q hq hready hpaid => h.paid _ (hlists q hq hready hpaid), hr,
        h.spares hseated.le hspares⟩
  | saveLaunched state marked => exact ⟨h.seated hp.1, hp.2⟩
  | launch state => exact h.seated hp
  | readyLobby | hasPaid | load | clearPlayers | saveReset | saveFailed => trivial

/-- What a call loads, it spares the paid players of. -/
theorem spares_reduceLobby {event : LobbyEvent} {now : ℕ} {current : LobbyState}
    (hrejected : (reduceLobby current event tier now).rejected = none)
    (hchanged : (reduceLobby current event tier now).changed = true)
    (hready : event.settled = true → Evicts tier current now →
      tier.minPlayers ≤ (current.roster now event).length →
        ∀ q ∈ current.roster now event, j.PaidFor q.joinedVersion → q.ready = true) :
    j.Spares current event (reduceLobby current event tier now).state where
  kept q hq hpaid := by
    by_cases hreset : event = .reset
    · exact .inr (.inr hreset)
    rcases mem_roster event now hq with ⟨q', hq', e, -⟩ | hleave
    · refine .inl (LobbyState.mem_entries.mpr ⟨q', ?_, e⟩)
      exact mem_reduceLobby hq' hrejected hchanged hreset fun hs he hlen =>
        hready hs he hlen q' hq' (e ▸ hpaid)
    · exact .inr (.inl hleave)
  ticked := by
    rintro rfl q hq hpaid
    exact @mem_reduceLobby tier current .tick now q hq hrejected hchanged nofun
      fun hs he hlen => hready hs he hlen q hq hpaid

/-- Who is paid for in the lobby a call saves is paid for afterwards. -/
theorem lists_saved {w : Saved} (hw : w ∈ j.saves) : j.Lists w.state := by
  intro q hq hready hpaid
  exact ⟨w, hw, q, hq, rfl, hready, hpaid⟩

/-- A player who is paid for leaves by their own request, or was launched. -/
def Journal.Spared (j j' : Journal) (event : LobbyEvent) : Prop :=
  ∀ q ∈ j.store.load.players, j.PaidFor q.joinedVersion →
    q.joinedVersion ∉ j'.store.load.entries →
      event = .leave q.playerId ∨ q.joinedVersion ∈ j.succeeded

theorem Journal.PaidFor.grows {v : ℕ} (h : j.PaidFor v) (hsub : j.saves ⊆ j'.saves) :
    j'.PaidFor v := by
  obtain ⟨w, hw, hv⟩ := h
  exact ⟨w, hsub hw, hv⟩

theorem knowsSeats_cleared {event : LobbyEvent} {attempt : ℕ} {state marked : LobbyState}
    {left : List LobbyPlayer} :
    j.KnowsSeats tier ⟨event, attempt, clearPlayers state marked left⟩ := by
  cases left <;> trivial

/-- A save that lands, by a call that knows the paid players. -/
theorem saved_seats {event : LobbyEvent} {attempt : ℕ} {current : LobbyState}
    {result : LobbyTransition} {w : Saved}
    (hp : j.KnowsSeats tier ⟨event, attempt, .save current result⟩)
    (hversion : j.store.load.version = current.version)
    (hsaves : j'.saves = j.saves ++ [w]) (hw : w.state = j'.store.load)
    (hload : ∃ countdown, j'.store.load = { result.state with countdown })
    (hreset : event = .reset → ∀ q ∈ j.store.load.players, j.PaidFor q.joinedVersion →
      q.joinedVersion ∈ j.succeeded) :
    j.Seats j' ∧ j.Spared j' event := by
  obtain ⟨hseated, hlists, hr, hspares⟩ := hp
  obtain ⟨hkept, hticked⟩ := hspares hversion
  have hsame := hseated.same hversion
  obtain ⟨countdown, hload⟩ := hload
  have hplayers : j'.store.load.players = result.state.players := by rw [hload]
  have hentries : j'.store.load.entries = result.state.entries := by rw [hload]; rfl
  have hmem : w ∈ j'.saves := hsaves ▸ List.mem_append_right _ (List.mem_singleton_self w)
  refine ⟨⟨hw ▸ lists_saved hmem, fun v hv => hv.grows ?_, ?_⟩, ?_⟩
  · exact hsaves ▸ List.subset_append_left _ _
  · by_cases htick : event = .tick
    · subst htick
      cases hr with
      | tick ht =>
          have hnew : result.state.version = current.version := ht.version
          refine .inr ⟨by rw [hload, hversion]; exact hnew, ?_, ?_⟩
          · rintro v ⟨w', hw', q, hq, rfl, hready, hpaid⟩
            rcases List.mem_append.mp (hsaves ▸ hw') with hw' | hw'
            · exact ⟨w', hw', q, hq, rfl, hready, hpaid⟩
            · obtain rfl := List.mem_singleton.mp hw'
              rw [hw, hplayers] at hq
              exact hlists q (ht.players.subset hq) hready hpaid
          · intro q hq
            rw [hplayers]
            constructor
            · exact fun h => (hsame q hq).mpr (ht.players.subset h)
            · exact fun h => hticked rfl q ((hsame q hq).mp h) hq
    · refine .inl ?_
      have hnew := hr.bumps htick
      rw [hload, hversion]
      exact hnew ▸ Nat.lt_succ_self _
  · intro q hq hpaid hgone
    rcases hkept q ((hsame q hpaid).mp hq) hpaid with hin | hleave | rfl
    · exact absurd (hentries ▸ hin) hgone
    · exact .inl hleave
    · exact .inr (hreset rfl q hq hpaid)

/-- No save lands. -/
theorem stays_seats (hlists : j.Lists j.store.load) (hload : j'.store.load = j.store.load)
    (hsaves : j'.saves = j.saves) (event : LobbyEvent) : j.Seats j' ∧ j.Spared j' event := by
  have hpaid : ∀ v, j'.PaidFor v ↔ j.PaidFor v := fun v => by
    rw [Journal.PaidFor, Journal.PaidFor, hsaves]
  refine ⟨⟨fun q hq hready h => (hpaid _).mpr ?_, fun v => (hpaid v).mpr,
    .inr ⟨by rw [hload], fun v => (hpaid v).mp, fun q _ => by rw [hload]⟩⟩, ?_⟩
  · exact hlists q (hload ▸ hq) hready h
  · intro q hq _ hgone
    exact absurd (LobbyState.mem_entries.mpr ⟨q, hload ▸ hq, rfl⟩) hgone

/-- A save with a new version. -/
theorem bumped_seats {w : Saved} (hlt : j.store.load.version < j'.store.load.version)
    (hsaves : j'.saves = j.saves ++ [w]) (hw : w.state = j'.store.load) : j.Seats j' := by
  have hmem : w ∈ j'.saves := hsaves ▸ List.mem_append_right _ (List.mem_singleton_self w)
  exact ⟨hw ▸ lists_saved hmem,
    fun v hv => hv.grows (hsaves ▸ List.subset_append_left _ _), .inl hlt⟩

/-- The step of a call. -/
theorem resume_seats (hlists : j.Lists j.store.load) (hp : j.KnowsSeats tier p)
    (hg : KeepsSeat tier j p answer) :
    j.Seats (j.resume tier r p answer).1 ∧ j.Spared (j.resume tier r p answer).1 p.event := by
  cases h : p.lands tier j.store answer with
  | none =>
      exact stays_seats hlists (resume_load_of_none h) (by simp only [Journal.resume, h]) _
  | some base =>
      have hsaves : (j.resume tier r p answer).1.saves =
          j.saves ++ [⟨p, (p.resume tier r j.store answer).1.load, base, j.store.load⟩] := by
        simp only [Journal.resume, h]
      obtain ⟨hversion, state, hw, ⟨countdown, hload⟩, -⟩ := resume_load_of_some (r := r) h
      have hlands : (p.lands tier j.store answer).isSome = true := by rw [h]; rfl
      obtain ⟨event, attempt, point⟩ := p
      cases point with
      | save current result =>
          obtain ⟨rfl, rfl⟩ := Prod.mk.inj (Option.some.inj hw)
          refine saved_seats hp hversion hsaves rfl ⟨countdown, hload⟩ fun hreset => ?_
          exact hg (decide_eq_true hreset) hlands
      | saveLaunched state₀ marked =>
          obtain ⟨rfl, rfl⟩ := Prod.mk.inj (Option.some.inj hw)
          obtain ⟨hseated, hmarked, hplayers⟩ := hp
          refine ⟨bumped_seats ?_ hsaves rfl, fun q hq hpaid hgone => absurd ?_ hgone⟩
          · simp only [Journal.resume, hload, hversion]
            omega
          · refine LobbyState.mem_entries.mpr ⟨q, ?_, rfl⟩
            simp only [Journal.resume, hload, hplayers]
            exact (hseated.same hversion q hpaid).mp hq
      | saveReset state₀ marked =>
          obtain ⟨rfl, rfl⟩ := Prod.mk.inj (Option.some.inj hw)
          refine ⟨bumped_seats ?_ hsaves rfl, fun q hq hpaid _ => .inr (hg rfl hlands q hq hpaid)⟩
          simp only [Journal.resume, hload, hversion]
          exact Nat.lt_succ_self _
      | saveFailed state₀ =>
          obtain ⟨rfl, rfl⟩ := Prod.mk.inj (Option.some.inj hw)
          refine ⟨bumped_seats ?_ hsaves rfl, fun q hq hpaid _ => .inr (hg rfl hlands q hq hpaid)⟩
          simp only [Journal.resume, hload, hversion]
          exact Nat.lt_succ_self _
      | readyLobby | hasPaid | load | launch | clearPlayers => cases hw

/-- What a call knows of the paid players follows it to its next await. -/
theorem resume_knowsSeats (hlists : j.Lists j.store.load) (hp : j.KnowsSeats tier p)
    (hg : KeepsSeat tier j p answer) (hseats : j.Seats (j.resume tier r p answer).1) {p' : Call}
    (h : (j.resume tier r p answer).2 = some p') :
    (j.resume tier r p answer).1.KnowsSeats tier p' := by
  cases resume_goes h with
  | asks | reads | fails => trivial
  | saves now hpoint hanswer hrejected hchanged =>
      simp only [KeepsSeat, hpoint, hanswer] at hg
      have hspares := spares_reduceLobby hrejected hchanged hg
      refine @Journal.Seats.knows tier j _ { p with point := .save _ _ } hseats ?_
      exact ⟨⟨le_rfl, fun _ q _ => Iff.rfl⟩, hlists, reduces hrejected hchanged, fun _ => hspares⟩
  | launches hpoint hlaunch hload =>
      simp only [Journal.KnowsSeats, hpoint] at hp
      obtain ⟨-, hlaunching, -⟩ := hp.2.2.1.launches hlaunch
      have hload := hload (by rw [hlaunching]; nofun)
      exact ⟨hload ▸ le_rfl, fun _ q _ => by rw [← hload]; exact Iff.rfl⟩
  | marks now hpoint =>
      simp only [Journal.KnowsSeats, hpoint] at hp
      exact ⟨hseats.seated hp, rfl, rfl⟩
  | clears => exact knowsSeats_cleared

end Calls

/-! ### Runs -/

theorem matchmaker_seats (tier : RoomTier) :
    (journal tier (matchmaker tier)).Keeps (KeepsSeats tier) (fun j => j.Lists j.store.load)
      (fun j _ p => j.KnowsSeats tier p) fun _ _ => True := by
  refine .of_leads (R := Journal.Seats) (fun _ _ h => h.lists) (fun _ _ _ h => h.knows) ?_ ?_
    (fun _ e => nomatch e)
  · rintro j ⟨event, attempt, point⟩ hstarts
    cases point with
    | readyLobby | hasPaid | load | clearPlayers | saveReset | saveFailed => trivial
    | save | launch | saveLaunched => cases attempt <;> cases hstarts
  · intro s r p c hlists hp hknows hg
    have hseats := (resume_seats (r := r) hlists hknows (hg p hp)).1
    exact ⟨hseats, fun p' => resume_knowsSeats hlists hknows (hg p hp) hseats⟩

theorem noSaves_seats (tier : RoomTier) :
    Processes.Holds (fun j => j.Lists j.store.load) (fun j _ p => j.KnowsSeats tier p)
      (fun _ _ => True) noSaves :=
  have h : ∀ q, q ∉ noSaves.store.store.load.players := fun _ => List.not_mem_nil
  ⟨fun q hq => absurd hq (h q), .empty, fun _ _ _ _ _ _ _ => trivial⟩

/-- The act is of a request of the player to leave. -/
def Leaves (s : System Journal Call) (a : Act Call Answer Empty) (playerId : ℕ) : Prop :=
  ∃ r c p, a = .resume r c ∧ s.procs.get r = some p ∧ p.event = .leave playerId

/-- **Who paid keeps the seat.**  At every step of a run that keeps seats, a player who is paid
for leaves the roster by their own request, or when their launch has succeeded. -/
theorem paid_keeps_seat (tier : RoomTier) {s s' : System Journal Call} {a : Act Call Answer Empty}
    (hs : Reachable (Guarded (journal tier (matchmaker tier)).Step (KeepsSeats tier))
      (noSaves = ·) s)
    (ha : Guarded (journal tier (matchmaker tier)).Step (KeepsSeats tier) s a s') :
    ∀ q ∈ s.store.store.load.players, s.store.PaidFor q.joinedVersion →
      q.joinedVersion ∉ s'.store.store.load.entries →
        Leaves s a q.playerId ∨ q.joinedVersion ∈ s.store.succeeded := by
  intro q hq hpaid hgone
  obtain ⟨hlists, hknows, -⟩ := (matchmaker_seats tier).reachable
    (fun s (e : noSaves = s) => e ▸ noSaves_seats tier) hs
  obtain ⟨hstep, hg⟩ := ha
  have hstays : ∀ store, store = s.store → q.joinedVersion ∈ store.store.load.entries :=
    fun store e => LobbyState.mem_entries.mpr ⟨q, e ▸ hq, rfl⟩
  cases a with
  | resume r c =>
      obtain ⟨p, hp, hstore, -⟩ := Processes.step_resume _ hstep
      obtain ⟨-, hspared⟩ := resume_seats (r := r) hlists (hknows r p hp) (hg p hp)
      rcases hspared q hq hpaid (hstore ▸ hgone) with hleave | hlaunched
      · exact .inl ⟨r, c, p, rfl, hp, hleave⟩
      · exact .inr hlaunched
  | start r p =>
      simp only [Processes.Step, Processes.act, Option.ite_none_right_eq_some] at hstep
      obtain rfl := Option.some.inj hstep.2
      exact absurd (hstays _ rfl) hgone
  | crash r =>
      simp only [Processes.Step, Processes.act, Option.ite_none_right_eq_some] at hstep
      obtain rfl := Option.some.inj hstep.2
      exact absurd (hstays _ rfl) hgone
  | other e => cases e

/-- The tick after the countdown launches them, and clears the lobby but for its last await. -/
def launchBoth : List (Act Call Answer Empty) :=
  [.start 5 ⟨.tick, 0, .load⟩, .resume 5 (.ok 5000), .resume 5 (.ok 5000),
    .resume 5 (.launched 5000 9), .resume 5 (.ok 5000), .resume 5 (.ok 5000),
    .resume 5 (.ok 5000)]

/-- Both who paid leave the lobby by their launch. -/
theorem paid_keeps_seat_launch : ∃ (s s' : System Journal Call) (a : Act Call Answer Empty),
    (s.store.store.load.entries = [2, 3] ∧ s'.store.store.load.entries = []) ∧
      ∀ q ∈ s.store.store.load.players, s.store.PaidFor q.joinedVersion →
        q.joinedVersion ∉ s'.store.store.load.entries →
          Leaves s a q.playerId ∨ q.joinedVersion ∈ s.store.succeeded := by
  have hrun : ((journal bronze (matchmaker bronze)).actsWhen (KeepsSeats bronze) noSaves
      (readyForGame 3 ++ launchBoth)).any
      (fun s => ((journal bronze (matchmaker bronze)).act s (.resume 5 (.ok 5000))).any fun s' =>
        decide (KeepsSeats bronze s (.resume 5 (.ok 5000)) ∧ s.store.store.load.entries = [2, 3] ∧
          s'.store.store.load.entries = [])) = true := by
    decide
  obtain ⟨s, hs, htest⟩ :=
    (journal bronze (matchmaker bronze)).reachable_of_actsWhen (Eq.refl noSaves) hrun
  obtain ⟨s', hstep, htest⟩ := (Option.any_eq_true _ _).mp htest
  obtain ⟨hg, hboth, hnone⟩ := of_decide_eq_true htest
  exact ⟨s, s', _, ⟨hboth, hnone⟩, paid_keeps_seat bronze hs ⟨hstep, hg⟩⟩

/-- Players 7 and 8 have paid, and the stage that archives an earlier game clears the lobby. -/
theorem paid_keeps_seat_archived : ¬ ∀ (tier : RoomTier) (s s' : System Journal Call)
    (a : Act Call Answer Empty), 0 < tier.entryFeeLamports →
      Reachable (journal tier (matchmaker tier)).Step (noSaves = ·) s →
        (journal tier (matchmaker tier)).Step s a s' →
          ∀ q ∈ s.store.store.load.players, s.store.PaidFor q.joinedVersion →
            q.joinedVersion ∉ s'.store.store.load.entries →
              Leaves s a q.playerId ∨ q.joinedVersion ∈ s.store.succeeded := by
  intro hclaim
  have hrun : ((journal bronze (matchmaker bronze)).acts noSaves
      (readyForGame 3 ++ [.start 5 ⟨.reset, 0, .load⟩, .resume 5 (.ok 1000)])).any
      (fun s => ((journal bronze (matchmaker bronze)).act s (.resume 5 (.ok 1000))).any fun s' =>
        decide ((s.procs.get 5).any (fun p => decide (p.event = .reset)) = true ∧
          s.store.succeeded = [] ∧ s'.store.store.load.entries = [] ∧
            ∃ q ∈ s.store.store.load.players, s.store.PaidFor q.joinedVersion)) = true := by
    decide
  obtain ⟨s, hs, htest⟩ :=
    (journal bronze (matchmaker bronze)).reachable_of_acts (Eq.refl noSaves) hrun
  obtain ⟨s', hstep, htest⟩ := (Option.any_eq_true _ _).mp htest
  obtain ⟨hreset, hnone, hempty, q, hq, hpaid⟩ := of_decide_eq_true htest
  obtain ⟨p, hp, hreset⟩ := (Option.any_eq_true _ _).mp hreset
  rcases hclaim bronze s s' _ (by decide) hs hstep q hq hpaid (hempty ▸ List.not_mem_nil) with
    ⟨r, c, p', e, hp', hleave⟩ | hlaunched
  · obtain ⟨rfl, rfl⟩ := e
    obtain rfl := Option.some.inj (hp.symm.trans hp')
    exact nomatch (of_decide_eq_true hreset).symm.trans hleave
  · exact absurd (hnone ▸ hlaunched) List.not_mem_nil

end SnakeArena.Lobby
