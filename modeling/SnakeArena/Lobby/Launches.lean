import SnakeArena.Lobby.Service

/-!
# Lobby — a batch launches at most once

The entries of a roster are named by the version their join wrote, and a countdown by its
number.  `Orderly` is the invariant of the store, `Holding` what a call that launches knows of
the lobby it saved, as long as nobody has bumped its version.

A tick saves without a bump, so that a call that loaded the lobby before can still save; and
`open` keeps the roster of a lobby that is launching.  `InStep` excludes both.
-/

namespace SnakeArena.Lobby
open SnakeArena.Library

/-! ### Entries -/

def LobbyState.entries (state : LobbyState) : List ℕ := state.players.map (·.joinedVersion)

theorem LobbyState.mem_entries {state : LobbyState} {v : ℕ} :
    v ∈ state.entries ↔ ∃ p ∈ state.players, p.joinedVersion = v := List.mem_map

section Entries
variable {tier : RoomTier} {state : LobbyState} {event : LobbyEvent} {t : LobbyTransition}
  {mutated : Bool}

theorem Settles.entries (h : Settles tier state mutated t) :
    t.state.entries.Sublist state.entries := h.players.map _

/-- A player marked ready is the entry it was. -/
theorem entries_set {players : List LobbyPlayer} {index : ℕ} {existing : LobbyPlayer}
    (hget : players[index]? = some existing) (ready : Bool) (paidFor : Option ℕ) :
    (players.set index { existing with ready, paidFor }).map (·.joinedVersion) =
      players.map (·.joinedVersion) := by
  rw [List.map_set]
  refine List.ext_getElem? fun i => ?_
  rw [List.getElem?_set]
  split
  case isTrue e =>
      subst e
      obtain ⟨hlt, rfl⟩ := List.getElem?_eq_some_iff.mp hget
      simp [hlt]
  case isFalse => rfl

/-- The entries an event leaves: those of before, and the one of a join. -/
theorem Reduces.entries (h : Reduces tier state event t) :
    t.state.entries.Sublist state.entries ∨
      t.state.version = state.version + 1 ∧
        t.state.entries.Sublist (state.entries ++ [state.version + 1]) := by
  cases h with
  | join now _ ht =>
      refine .inr ⟨ht.version, ht.entries.trans ?_⟩
      simp [LobbyState.entries]
  | leave _ ht =>
      exact .inl (ht.entries.trans (List.filter_sublist.map _))
  | ready _ hget _ ht =>
      refine .inl (ht.entries.trans ?_)
      rw [LobbyState.entries, entries_set hget]
      exact List.Sublist.refl _
  | tick ht => exact .inl ht.entries
  | «open» | close | launched => exact .inl (List.Sublist.refl _)
  | reset => exact .inl (List.nil_sublist _)

end Entries

/-! ### The store -/

namespace Store
variable {tier : RoomTier} {s s' : Store}

theorem version_eq (s : Store) : s.version = s.load.version := by
  cases h : s.lobby <;> simp [Store.version, Store.load, h, emptyLobby]

/-- The numbers of the countdowns that were launched. -/
def expired (s : Store) : List (Option ℕ) := s.launches.map (·.countdown)

/-- The invariant of the store. -/
structure Orderly (tier : RoomTier) (s : Store) : Prop where
  entries : s.load.entries.Nodup
  entry_le : ∀ v ∈ s.load.entries, v ≤ s.load.version
  handed_le : ∀ v ∈ s.handed, v ≤ s.load.version
  handed : s.handed.Nodup
  /-- Who was handed to `launch` is in the lobby only while it is launching. -/
  held : ∀ v ∈ s.load.entries, v ∈ s.handed →
    s.load.status = .launching ∧ tier.minPlayers ≤ s.load.players.length
  counting : s.load.status = .countdown → ∃ n, s.load.countdown = some n ∧ some n ∉ s.expired
  numbered : ∀ n, s.load.countdown = some n ∨ some n ∈ s.expired → n < s.began
  expired : s.expired.Nodup

/-- A lobby that can be saved over the one in the store. -/
structure Writable (tier : RoomTier) (s : Store) (state : LobbyState) : Prop where
  le : s.load.version ≤ state.version
  entries : state.entries.Nodup
  entry_le : ∀ v ∈ state.entries, v ≤ state.version
  held : ∀ v ∈ state.entries, v ∈ s.handed →
    state.status = .launching ∧ tier.minPlayers ≤ state.players.length
  countdown : state.countdown = s.load.countdown ∨ state.countdown = none
  counting : state.status = .countdown → state.countdown = none ∨
    s.load.status = .countdown ∧ state.countdown = s.load.countdown

/-- What a save that lands writes. -/
theorem save_some {state : LobbyState} {expectedVersion : ℕ}
    (h : s.save state expectedVersion = some s') :
    s.load.version = expectedVersion ∧ s'.launches = s.launches ∧ s'.paid = s.paid ∧
      (s'.load = state ∧ s'.began = s.began ∧
          ¬(state.status = .countdown ∧ state.countdown = none) ∨
        s'.load = { state with countdown := some s.began } ∧ s'.began = s.began + 1 ∧
          state.status = .countdown) := by
  simp only [Store.save, version_eq] at h
  split_ifs at h with hv hnew
  · obtain rfl := Option.some.inj h
    exact ⟨hv, rfl, rfl, .inr ⟨rfl, rfl, hnew.1⟩⟩
  · obtain rfl := Option.some.inj h
    exact ⟨hv, rfl, rfl, .inl ⟨rfl, rfl, hnew⟩⟩

theorem Orderly.save (h : s.Orderly tier) {state : LobbyState} {expectedVersion : ℕ}
    (hw : s.Writable tier state) (hs : s.save state expectedVersion = some s') :
    s'.Orderly tier := by
  obtain ⟨-, hlaunches, -, hload⟩ := save_some hs
  have hhanded : s'.handed = s.handed := by simp only [Store.handed, hlaunches]
  have hexpired : s'.expired = s.expired := by simp only [Store.expired, hlaunches]
  obtain ⟨hload, hbegan, hold⟩ | ⟨hload, hbegan, hnew⟩ := hload
  · refine ⟨?_, ?_, ?_, hhanded ▸ h.handed, ?_, ?_, ?_, hexpired ▸ h.expired⟩ <;>
      simp only [hload, hhanded, hexpired, hbegan]
    · exact hw.entries
    · exact hw.entry_le
    · exact fun v hv => (h.handed_le v hv).trans hw.le
    · exact hw.held
    · intro hcounting
      obtain hnone | ⟨hbefore, hsame⟩ := hw.counting hcounting
      · exact absurd ⟨hcounting, hnone⟩ hold
      · rw [hsame]
        exact h.counting hbefore
    · rintro n (hn | hn)
      · obtain hsame | hnone := hw.countdown
        · exact h.numbered n (.inl (hsame ▸ hn))
        · exact nomatch hnone.symm.trans hn
      · exact h.numbered n (.inr hn)
  · refine ⟨?_, ?_, ?_, hhanded ▸ h.handed, ?_, ?_, ?_, hexpired ▸ h.expired⟩ <;>
      simp only [hload, hhanded, hexpired, hbegan]
    · exact hw.entries
    · exact hw.entry_le
    · exact fun v hv => (h.handed_le v hv).trans hw.le
    · exact hw.held
    · exact fun _ => ⟨s.began, rfl, fun hn => absurd (h.numbered _ (.inr hn)) (lt_irrefl _)⟩
    · rintro n (hn | hn)
      · obtain rfl := Option.some.inj hn
        exact Nat.lt_succ_self _
      · exact (h.numbered n (.inr hn)).trans (Nat.lt_succ_self _)

/-- An event writes a lobby that can be saved, unless it opens one whose roster was launched. -/
theorem Orderly.writable (h : s.Orderly tier) {event : LobbyEvent} {t : LobbyTransition}
    (hr : Reduces tier s.load event t)
    (hopen : ∀ gameId scheduled, event = .open gameId scheduled →
      ∀ v ∈ s.load.entries, v ∉ s.handed) : s.Writable tier t.state := by
  have hfresh : s.load.version + 1 ∉ s.load.entries := fun hv =>
    absurd (h.entry_le _ hv) (Nat.not_succ_le_self _)
  have hversion : s.load.version ≤ t.state.version := by
    obtain e | ⟨e, -⟩ := hr.version <;> omega
  -- an entry is one of before, or the one of this join
  have hentry : ∀ v ∈ t.state.entries, v ∈ s.load.entries ∨
      v = s.load.version + 1 ∧ t.state.version = s.load.version + 1 := by
    intro v hv
    obtain hsub | ⟨e, hsub⟩ := hr.entries
    · exact .inl (hsub.subset hv)
    · obtain hv | hv := List.mem_append.mp (hsub.subset hv)
      · exact .inl hv
      · exact .inr ⟨List.mem_singleton.mp hv, e⟩
  refine ⟨hversion, ?_, fun v hv => ?_, fun v hv hhanded => ?_, hr.countdown, hr.counting⟩
  · obtain hsub | ⟨-, hsub⟩ := hr.entries
    · exact h.entries.sublist hsub
    · refine List.Nodup.sublist hsub (List.nodup_append.mpr ⟨h.entries, by simp, ?_⟩)
      rintro v hv w hw rfl
      obtain rfl := List.mem_singleton.mp hw
      exact hfresh hv
  · obtain hv | ⟨rfl, e⟩ := hentry v hv
    · exact (h.entry_le v hv).trans hversion
    · exact e.ge
  · obtain hv' | ⟨rfl, -⟩ := hentry v hv
    · obtain ⟨hlaunching, henough⟩ := h.held v hv' hhanded
      obtain ⟨_, _, e⟩ | ⟨hstatus, hplayers⟩ | hnil := hr.of_launching hlaunching henough
      · exact absurd hhanded (hopen _ _ e v hv')
      · exact ⟨hstatus, hplayers ▸ henough⟩
      · obtain ⟨p, hp, -⟩ := LobbyState.mem_entries.mp hv
        exact nomatch hnil ▸ hp
    · exact absurd (h.handed_le _ hhanded) (Nat.not_succ_le_self _)

/-! ### Launches -/

/-- What a call that launches knows of the lobby it saved. -/
structure Holding (tier : RoomTier) (s : Store) (state : LobbyState) : Prop where
  launching : state.status = .launching
  enough : tier.minPlayers ≤ state.players.length
  le : state.version ≤ s.load.version
  /-- Nobody has written over it without a bump. -/
  same : s.load.version = state.version → s.load = state

/-- The store is in order, and what calls know of it still holds. -/
structure Moves (tier : RoomTier) (s s' : Store) : Prop where
  orderly : s'.Orderly tier
  holding : ∀ state, s.Holding tier state → s'.Holding tier state

theorem Orderly.stays (h : s.Orderly tier) : Moves tier s s := ⟨h, fun _ => id⟩

/-- A lobby saved over one that is launching has a new version. -/
def Advances (tier : RoomTier) (s : Store) (state : LobbyState) : Prop :=
  state.version = s.load.version + 1 ∨ state.version = s.load.version ∧
    (s.load.status = .launching → s.load.players.length < tier.minPlayers)

theorem Holding.save {held state : LobbyState} {expectedVersion : ℕ} (h : s.Holding tier held)
    (ha : s.Advances tier state) (hs : s.save state expectedVersion = some s') :
    s'.Holding tier held := by
  have hversion : s'.load.version = state.version := by
    obtain ⟨-, -, -, ⟨e, -⟩ | ⟨e, -⟩⟩ := save_some hs <;> rw [e]
  have hle := h.le
  obtain hbump | ⟨hsame, hshort⟩ := ha
  · exact ⟨h.launching, h.enough, by omega, fun _ => by omega⟩
  · refine ⟨h.launching, h.enough, by omega, fun e => ?_⟩
    have hload : s.load = held := h.same (by omega)
    have hlaunching : s.load.status = .launching := hload ▸ h.launching
    exact absurd (hload ▸ h.enough) (not_le.mpr (hshort hlaunching))

/-- A save, whether or not it lands. -/
theorem Orderly.moves (h : s.Orderly tier) {state : LobbyState} {expectedVersion : ℕ}
    (hw : s.load.version = expectedVersion → s.Writable tier state ∧ s.Advances tier state) :
    Moves tier s ((s.save state expectedVersion).getD s) := by
  cases hs : s.save state expectedVersion with
  | none => exact h.stays
  | some s' =>
      obtain ⟨hwrite, hadvance⟩ := hw (save_some hs).1
      exact ⟨h.save hwrite hs, fun _ hheld => hheld.save hadvance hs⟩

/-- A payment check that succeeds. -/
theorem Orderly.pays (h : s.Orderly tier) (paid : List (ℕ × ℕ)) : Moves tier s { s with paid } :=
  ⟨⟨h.entries, h.entry_le, h.handed_le, h.handed, h.held, h.counting, h.numbered, h.expired⟩,
    fun _ hheld => ⟨hheld.launching, hheld.enough, hheld.le, hheld.same⟩⟩

/-- A lobby cleared. -/
theorem writable_reset {state : LobbyState} (now : ℕ) (h : s.load.version = state.version) :
    s.Writable tier (reduceLobby state .reset tier now).state ∧
      s.Advances tier (reduceLobby state .reset tier now).state := by
  refine ⟨⟨?_, List.nodup_nil, nofun, nofun, .inr rfl, nofun⟩, .inl ?_⟩ <;>
    simp only [reduceLobby, h]
  omega

/-- `s` with a request handed to `launch`. -/
def handOver (s : Store) (request : LaunchRequest) : Store :=
  { s with launches := s.launches ++ [request] }

@[simp] theorem handOver_load (s : Store) (request : LaunchRequest) :
    (s.handOver request).load = s.load := rfl

@[simp] theorem handOver_began (s : Store) (request : LaunchRequest) :
    (s.handOver request).began = s.began := rfl

@[simp] theorem handOver_handed (s : Store) (request : LaunchRequest) :
    (s.handOver request).handed = s.handed ++ request.players.map (·.joinedVersion) := by
  simp [handOver, Store.handed]

@[simp] theorem handOver_expired (s : Store) (request : LaunchRequest) :
    (s.handOver request).expired = s.expired ++ [request.countdown] := by
  simp [handOver, Store.expired]

theorem Holding.handOver {state : LobbyState} (h : s.Holding tier state)
    (request : LaunchRequest) : (s.handOver request).Holding tier state :=
  ⟨h.launching, h.enough, h.le, h.same⟩

/-- The roster of a lobby that is launching, handed over when neither it nor its countdown was
before. -/
theorem Orderly.handOver (h : s.Orderly tier) {request : LaunchRequest} {n : ℕ}
    (hplayers : request.players = s.load.players) (hstatus : s.load.status = .launching)
    (henough : tier.minPlayers ≤ s.load.players.length)
    (hfresh : ∀ v ∈ s.load.entries, v ∉ s.handed) (hn : request.countdown = some n)
    (hnew : some n ∉ s.expired) (hlt : n < s.began) : (s.handOver request).Orderly tier := by
  have hentries : request.players.map (·.joinedVersion) = s.load.entries := by
    rw [hplayers, LobbyState.entries]
  refine ⟨h.entries, h.entry_le, ?_, ?_, fun _ _ _ => ⟨hstatus, henough⟩, ?_, ?_, ?_⟩
  · intro v hv
    rw [handOver_handed, hentries] at hv
    exact (List.mem_append.mp hv).elim (h.handed_le v) (h.entry_le v)
  · rw [handOver_handed, hentries]
    exact List.nodup_append.mpr ⟨h.handed, h.entries,
      fun v hold w hw e => hfresh w hw (e ▸ hold)⟩
  · exact fun hcounting => nomatch hstatus.symm.trans hcounting
  · rintro m (hm | hm)
    · exact h.numbered m (.inl hm)
    · rw [handOver_expired, hn] at hm
      obtain hm | hm := List.mem_append.mp hm
      · exact h.numbered m (.inr hm)
      · obtain rfl := Option.some.inj (List.mem_singleton.mp hm)
        exact hlt
  · rw [handOver_expired, hn]
    refine List.nodup_append.mpr ⟨h.expired, by simp, ?_⟩
    rintro c hc d hd rfl
    exact hnew (List.mem_singleton.mp hd ▸ hc)

/-- The roster handed to `launch` was not handed before, nor its countdown. -/
theorem Orderly.launch (h : s.Orderly tier) {event : LobbyEvent} {t : LobbyTransition}
    (hr : Reduces tier s.load event t) (hlaunch : t.shouldLaunch = true)
    (hs : s.save t.state s.load.version = some s') :
    Moves tier s (s'.handOver ⟨t.state.players, t.state.gameId, t.state.countdown⟩) ∧
      Holding tier (s'.handOver ⟨t.state.players, t.state.gameId, t.state.countdown⟩) t.state := by
  obtain ⟨hcounting, hstatus, henough, hcountdown, -⟩ := hr.launches hlaunch
  obtain ⟨n, hn, hnew⟩ := h.counting hcounting
  -- a lobby that counts down holds nobody who was launched
  have hnone : ∀ v ∈ s.load.entries, v ∉ s.handed := fun v hv hhanded =>
    nomatch hcounting.symm.trans (h.held v hv hhanded).1
  have h' := h.save (h.writable hr fun _ _ _ => hnone) hs
  obtain ⟨-, hlaunches, -, ⟨hload, hbegan, -⟩ | ⟨-, -, e⟩⟩ := save_some hs
  swap
  · exact nomatch hstatus.symm.trans e
  have hfresh : ∀ v ∈ s'.load.entries, v ∉ s'.handed := by
    intro v hv hold
    rw [Store.handed, hlaunches, ← Store.handed] at hold
    have hle := h.handed_le v hold
    obtain hsub | ⟨-, hsub⟩ := hr.entries
    · exact hnone v (hsub.subset (hload ▸ hv)) hold
    · obtain hv | hv := List.mem_append.mp (hsub.subset (hload ▸ hv))
      · exact hnone v hv hold
      · obtain rfl := List.mem_singleton.mp hv
        omega
  have hnew' : some n ∉ s'.expired := by rwa [Store.expired, hlaunches]
  have hlt : n < s'.began := hbegan ▸ h.numbered n (.inl hn)
  have horderly :=
    @Orderly.handOver tier s' h' ⟨t.state.players, t.state.gameId, t.state.countdown⟩ n
    (by rw [hload]) (hload ▸ hstatus) (hload ▸ henough) hfresh (hcountdown.trans hn) hnew' hlt
  exact ⟨⟨horderly, fun held hheld => (hheld.save hr.version hs).handOver _⟩,
    ⟨hstatus, henough, hload ▸ le_rfl, fun _ => hload⟩⟩

end Store

/-! ### Calls -/

/-- What a call knows where it stops. -/
def Store.Knows (tier : RoomTier) (s : Store) (p : Call) : Prop :=
  match p.point with
  | .save current result => Reduces tier current p.event result
  | .launch state => s.Holding tier state
  | .saveLaunched state marked =>
      s.Holding tier state ∧ ∃ gameId t, Reduces tier state (.launched gameId) t ∧ t.state = marked
  | _ => True

def LobbyEvent.opens : LobbyEvent → Bool
  | .open _ _ => true
  | _ => false

/-- A save that lands finds the lobby its call loaded, and opens none whose roster was handed
to `launch`. -/
def SavesInStep (s : Store) (p : Call) : Prop :=
  match p.point with
  | .save current _ =>
      s.load.version = current.version →
        s.load = current ∧ (p.event.opens = true → ∀ v ∈ current.entries, v ∉ s.handed)
  | _ => True

def InStep (s : System Store Call) : Act Call Answer Empty → Prop
  | .resume r c => c ≠ .throw → ∀ p ∈ s.procs.get r, SavesInStep s.store p
  | _ => True

instance (s : Store) (p : Call) : Decidable (SavesInStep s p) := by
  unfold SavesInStep
  rcases p.point <;> dsimp only <;> infer_instance

instance (s : System Store Call) (a : Act Call Answer Empty) : Decidable (InStep s a) :=
  match a with
  | .resume r c => inferInstanceAs (Decidable (c ≠ .throw → ∀ p ∈ s.procs.get r, _))
  | .start _ _ => inferInstanceAs (Decidable True)
  | .crash _ => inferInstanceAs (Decidable True)
  | .other _ => inferInstanceAs (Decidable True)

section Calls
variable {tier : RoomTier} {s s' : Store} {p : Call}

theorem Store.Moves.knows (h : Store.Moves tier s s') (hp : s.Knows tier p) : s'.Knows tier p := by
  obtain ⟨event, attempt, point⟩ := p
  cases point with
  | launch state => exact h.holding _ hp
  | saveLaunched state marked => exact ⟨h.holding _ hp.1, hp.2⟩
  | readyLobby | hasPaid | load | save | clearPlayers | saveReset | saveFailed => exact hp

theorem knows_clearPlayers (event : LobbyEvent) (attempt : ℕ) (state marked : LobbyState)
    (left : List LobbyPlayer) : s.Knows tier ⟨event, attempt, clearPlayers state marked left⟩ := by
  cases left <;> trivial

/-- A call of `apply` saves. -/
theorem save_moves (h : s.Orderly tier) {event : LobbyEvent} {attempt : ℕ} {current : LobbyState}
    {result : LobbyTransition} (hr : Reduces tier current event result)
    (hstep : SavesInStep s ⟨event, attempt, .save current result⟩) :
    Store.Moves tier s ((s.save result.state current.version).getD s) :=
  h.moves fun e => by
    obtain ⟨rfl, hopen⟩ := hstep e
    exact ⟨h.writable hr fun _ _ e => hopen (e ▸ rfl), hr.version⟩

theorem save_leads (h : s.Orderly tier) {event : LobbyEvent} {attempt : ℕ} {current : LobbyState}
    {result : LobbyTransition} (hr : Reduces tier current event result)
    (hstep : SavesInStep s ⟨event, attempt, .save current result⟩)
    (r now : ℕ) :
    Processes.Leads (Store.Moves tier) (Store.Knows tier) s
      (Call.resume tier r s ⟨event, attempt, .save current result⟩ (.ok now)) := by
  have hmoves := save_moves h hr hstep
  simp only [Call.resume]
  cases hs : s.save result.state current.version with
  | none =>
      simp only
      split
      · exact .goes h.stays trivial
      · exact .ends h.stays
  | some s' =>
      simp only [hs, Option.getD_some] at hmoves
      simp only
      split
      case isTrue hlaunch =>
          obtain ⟨rfl, -⟩ := hstep (Store.save_some hs).1
          obtain ⟨hmoves, hholding⟩ := h.launch hr hlaunch hs
          exact .goes hmoves hholding
      case isFalse => exact .ends hmoves

/-- A call saves the lobby it launched, with its game. -/
theorem saveLaunched_moves (h : s.Orderly tier) {state marked : LobbyState}
    (hp : s.Knows tier ⟨event, attempt, .saveLaunched state marked⟩) :
    Store.Moves tier s ((s.save marked state.version).getD s) := by
  obtain ⟨hholding, gameId, t, hr, rfl⟩ := hp
  refine h.moves fun e => ?_
  obtain rfl := hholding.same e
  exact ⟨h.writable hr nofun, hr.version⟩

/-- The step of a call. -/
theorem resume_leads (h : s.Orderly tier) (hp : s.Knows tier p) {c : Answer}
    (hc : c ≠ .throw → SavesInStep s p) (r : ℕ) :
    Processes.Leads (Store.Moves tier) (Store.Knows tier) s
      (p.resume tier r s c) := by
  obtain ⟨event, attempt, point⟩ := p
  cases point with
  | readyLobby =>
      cases c with
      | ok now =>
          simp only [Call.resume]
          split
          · exact .ends h.stays
          · exact .goes h.stays trivial
      | lost | throw | paid | launched => exact .ends h.stays
  | hasPaid gameId =>
      cases c with
      | paid now paid =>
          cases paid with
          | false => exact .ends h.stays
          | true =>
              cases event with
              | ready playerId ready paidFor => exact .goes (h.pays _) trivial
              | join | leave | tick | launched | «open» | close | reset => exact .ends h.stays
      | ok | lost | throw | launched => exact .ends h.stays
  | load =>
      cases c with
      | ok now =>
          simp only [Call.resume]
          split
          · exact .ends h.stays
          case isFalse hrejected =>
              split
              · exact .ends h.stays
              case isFalse hchanged =>
                  exact .goes h.stays (reduces (not_not.mp hrejected) (not_not.mp hchanged))
      | lost | throw | paid | launched => exact .ends h.stays
  | save current result =>
      cases c with
      | throw => exact .ends h.stays
      | lost => exact .ends (save_moves h hp (hc nofun))
      | ok now | paid now _ | launched now _ => exact save_leads h hp (hc nofun) r now
  | launch state =>
      cases c with
      | launched now randomUUID =>
          exact .goes h.stays ⟨hp, _, _, reduces rfl rfl, rfl⟩
      | ok | lost | throw | paid => exact .goes h.stays trivial
  | saveLaunched state marked =>
      cases c with
      | throw => exact .goes h.stays trivial
      | lost => exact .goes (saveLaunched_moves h hp) trivial
      | ok | paid | launched =>
          exact .goes (saveLaunched_moves h hp) (knows_clearPlayers _ _ _ _ _)
  | clearPlayers state marked left =>
      cases c with
      | ok now => exact .goes h.stays (knows_clearPlayers _ _ _ _ _)
      | lost | throw | paid | launched => exact .goes h.stays trivial
  | saveReset state marked =>
      cases c with
      | throw => exact .goes h.stays trivial
      | lost => exact .goes (h.moves (Store.writable_reset 0)) trivial
      | ok | paid | launched => exact .ends (h.moves (Store.writable_reset 0))
  | saveFailed state =>
      cases c with
      | throw => exact .ends h.stays
      | ok | lost | paid | launched => exact .ends (h.moves (Store.writable_reset 0))

end Calls

/-- What each call knows, and the order of the store, are kept by every step in step. -/
theorem service_keeps (tier : RoomTier) :
    (service tier).Keeps InStep (Store.Orderly tier) (fun s _ p => s.Knows tier p)
      fun _ _ => True := by
  refine .of_leads (R := Store.Moves tier) (fun _ _ h => h.orderly) (fun _ _ _ h => h.knows) ?_ ?_
    (fun _ e => nomatch e)
  · rintro s ⟨event, attempt, point⟩ hstarts
    cases point with
    | readyLobby | load => trivial
    | hasPaid | save | launch | saveLaunched | clearPlayers | saveReset | saveFailed =>
        cases attempt <;> cases hstarts
  · exact fun s r p c horderly hp hknows hg => resume_leads horderly hknows (fun hc => hg hc p hp) r

theorem noLobby_holds (tier : RoomTier) :
    Processes.Holds (Store.Orderly tier) (fun s _ p => s.Knows tier p) (fun _ _ => True) noLobby :=
  ⟨⟨List.nodup_nil, nofun, nofun, List.nodup_nil, nofun, nofun, nofun, List.nodup_nil⟩, .empty,
    fun _ _ _ _ _ _ _ => trivial⟩

/-- **A batch launches at most once.**  In a run in step, no countdown that expires hands its
roster to `launch` twice, and no entry is handed over twice. -/
theorem launched_once (tier : RoomTier) {s : System Store Call}
    (hs : Reachable (Guarded (service tier).Step InStep) (noLobby = ·) s) :
    (s.store.launches.map (·.countdown)).Nodup ∧
      (s.store.launches.flatMap fun request => request.players.map (·.joinedVersion)).Nodup := by
  have hs := (service_keeps tier).reachable (fun s (e : noLobby = s) => e ▸ noLobby_holds tier) hs
  exact ⟨hs.1.expired, hs.1.handed⟩

def practice : RoomTier := ⟨0, 1, none, 10, 5⟩

/-- Player 7 joins, and the next tick after the countdown launches them.  A tick of another replica
finds the batch launched; when the lobby is reset, player 8 joins and is launched. -/
theorem launched_once_practice : ∃ s : System Store Call, s.store.handed = [1, 4] ∧
    s.store.launches.map (·.countdown) = [some 0, some 1] ∧
      (s.store.launches.map (·.countdown)).Nodup ∧
        (s.store.launches.flatMap fun request => request.players.map (·.joinedVersion)).Nodup := by
  have hrun : ((service practice).actsWhen InStep noLobby
      [.start 0 ⟨.join 7 "ada" (.key 7), 0, .load⟩, .resume 0 (.ok 0), .resume 0 (.ok 0),
        .start 1 ⟨.tick, 0, .load⟩, .resume 1 (.ok 10000), .resume 1 (.ok 10000),
        .start 2 ⟨.tick, 0, .load⟩, .resume 2 (.ok 10000), .resume 1 (.launched 10000 9),
        .resume 1 (.ok 10000), .resume 1 (.ok 10000), .resume 1 (.ok 10000),
        .start 0 ⟨.join 8 "bob" (.key 8), 0, .load⟩, .resume 0 (.ok 20000), .resume 0 (.ok 20000),
        .start 2 ⟨.tick, 0, .load⟩, .resume 2 (.ok 30000), .resume 2 (.ok 30000)]).any
      (fun s => decide (s.store.handed = [1, 4]) &&
        decide (s.store.launches.map (·.countdown) = [some 0, some 1])) = true := by
    decide
  obtain ⟨s, hs, htest⟩ := (service practice).reachable_of_actsWhen (Eq.refl noLobby) hrun
  rw [Bool.and_eq_true, decide_eq_true_eq, decide_eq_true_eq] at htest
  exact ⟨s, htest.1, htest.2, launched_once practice hs⟩

/-- Two replicas tick after the countdown: both load it, and a tick bumps no version, so both
save and both launch. -/
theorem launched_once_two_ticks : ¬ ∀ (tier : RoomTier) (s : System Store Call),
    Reachable (service tier).Step (noLobby = ·) s →
      (s.store.launches.map (·.countdown)).Nodup ∧
        (s.store.launches.flatMap fun request => request.players.map (·.joinedVersion)).Nodup := by
  intro hclaim
  have hrun : ((service practice).acts noLobby
      [.start 0 ⟨.join 7 "ada" (.key 7), 0, .load⟩, .resume 0 (.ok 0), .resume 0 (.ok 0),
        .start 1 ⟨.tick, 0, .load⟩, .start 2 ⟨.tick, 0, .load⟩, .resume 1 (.ok 10000),
        .resume 2 (.ok 10000), .resume 1 (.ok 10000), .resume 2 (.ok 10000)]).any
      (fun s => decide (s.store.handed = [1, 1])) = true := by
    decide
  obtain ⟨s, hs, htest⟩ := (service practice).reachable_of_acts (Eq.refl noLobby) hrun
  obtain ⟨-, hnodup⟩ := hclaim practice s hs
  have hhanded : s.store.handed = [1, 1] := of_decide_eq_true htest
  rw [Store.handed] at hhanded
  rw [hhanded] at hnodup
  exact absurd hnodup (by decide)

end SnakeArena.Lobby
