import SnakeArena.Program.State

/-!
# Lobby — the lobby state machine

`packages/lobby/src/state.ts`, for one tier.  `reduceLobby` gives the next state from a state,
an event and a clock; `settle` applies the auto-start rules on the way.

`settles` says what the auto-start rules can do to a lobby (`Settles`), and `reduces` from it
what an event that changes a lobby can (`Reduces`).
-/

namespace SnakeArena.Lobby
open SnakeArena.Program

structure RoomTier where
  /-- Zero means free to play. -/
  entryFeeLamports : ℕ
  minPlayers : ℕ
  /-- `none` for no limit. -/
  maxPlayers : Option ℕ
  countdownSeconds : ℕ
  readyCountdownSeconds : ℕ

inductive LobbyStatus where
  | waiting | countdown | launching | closed
deriving DecidableEq

structure LobbyPlayer where
  playerId : ℕ
  nickname : String
  wallet : Pubkey
  joinedAt : ℕ
  ready : Bool
  /-- The version its join wrote.  No service stores this. -/
  joinedVersion : ℕ
  /-- The game that the request which marked it ready had found paid.  No service stores this. -/
  paidFor : Option ℕ
deriving DecidableEq

structure LobbyState where
  status : LobbyStatus
  players : List LobbyPlayer
  /-- In ms.  None unless the status is `countdown`. -/
  countdownEndsAt : Option ℕ
  /-- The game the lobby was opened for, or became. -/
  gameId : Option ℕ
  scheduled : Bool
  /-- The guard of the compare-and-set. -/
  version : ℕ
  /-- The number of the last countdown; a new one has none yet.  No service stores this. -/
  countdown : Option ℕ
deriving DecidableEq

inductive LobbyEvent where
  | join (playerId : ℕ) (nickname : String) (wallet : Pubkey)
  | leave (playerId : ℕ)
  | ready (playerId : ℕ) (ready : Bool) (paidFor : Option ℕ)
  | tick
  | launched (gameId : ℕ)
  | open (gameId : Option ℕ) (scheduled : Bool)
  | close
  | reset
deriving DecidableEq

inductive LobbyRejection where
  | lobbyFull | alreadyJoined | notJoined | lobbyLaunching | lobbyClosed
deriving DecidableEq

structure LobbyTransition where
  state : LobbyState
  changed : Bool
  /-- Why the event was refused. -/
  rejected : Option LobbyRejection
  shouldLaunch : Bool
deriving DecidableEq

def emptyLobby : LobbyState := ⟨.waiting, [], none, none, false, 0, none⟩

def unchanged (state : LobbyState) (rejected : Option LobbyRejection) : LobbyTransition :=
  ⟨state, false, rejected, false⟩

def isAtCapacity (count : ℕ) (tier : RoomTier) : Bool :=
  match tier.maxPlayers with
  | none => false
  | some maxPlayers => maxPlayers ≤ count

/-- The short timer, when the lobby is full or everyone in it is ready. -/
def candidateDeadline (state : LobbyState) (tier : RoomTier) (now : ℕ) : ℕ :=
  let everyoneReady := state.players.all (·.ready)
  let seconds :=
    if everyoneReady || isAtCapacity state.players.length tier then tier.readyCountdownSeconds
    else tier.countdownSeconds
  now + seconds * 1000

/-- What `settle` does once the countdown has expired. -/
def expire (state : LobbyState) (tier : RoomTier) : LobbyTransition :=
  if tier.entryFeeLamports > 0 then
    let paid := state.players.filter (·.ready)
    if paid.length < tier.minPlayers then
      ⟨{ state with players := paid, status := .waiting, countdownEndsAt := none }, true, none,
        false⟩
    else
      ⟨{ state with players := paid, status := .launching, countdownEndsAt := none }, true, none,
        true⟩
  else ⟨{ state with status := .launching, countdownEndsAt := none }, true, none, true⟩

def settle (state : LobbyState) (tier : RoomTier) (now : ℕ) (mutated : Bool) : LobbyTransition :=
  if state.scheduled then ⟨state, mutated, none, false⟩
  else
    let count := state.players.length
    if count < tier.minPlayers then
      let statusChanged := state.status ≠ .waiting || state.countdownEndsAt ≠ none
      ⟨if statusChanged then { state with status := .waiting, countdownEndsAt := none } else state,
        mutated || statusChanged, none, false⟩
    else
      let candidateDeadline := candidateDeadline state tier now
      match state.status, state.countdownEndsAt with
      | .waiting, _ =>
          ⟨{ state with
              status := .countdown
              countdownEndsAt := some candidateDeadline
              countdown := none }, true, none, false⟩
      | .countdown, some countdownEndsAt =>
          if countdownEndsAt ≤ now then expire state tier
          else if candidateDeadline < countdownEndsAt then
            ⟨{ state with countdownEndsAt := some candidateDeadline }, true, none, false⟩
          else ⟨state, mutated, none, false⟩
      | _, _ => ⟨state, mutated, none, false⟩

def reduceLobby (state : LobbyState) (event : LobbyEvent) (tier : RoomTier) (now : ℕ) :
    LobbyTransition :=
  match event with
  | .join playerId nickname wallet =>
      if state.status = .launching then unchanged state (some .lobbyLaunching)
      else if state.status = .closed then unchanged state (some .lobbyClosed)
      else if state.players.any (·.playerId = playerId) then unchanged state (some .alreadyJoined)
      else if isAtCapacity state.players.length tier then unchanged state (some .lobbyFull)
      else
        let player := ⟨playerId, nickname, wallet, now, false, state.version + 1, none⟩
        settle { state with players := state.players ++ [player], version := state.version + 1 }
          tier now true
  | .leave playerId =>
      if ¬state.players.any (·.playerId = playerId) then unchanged state (some .notJoined)
      else if state.status = .launching then unchanged state (some .lobbyLaunching)
      else
        settle
          { state with
            players := state.players.filter (·.playerId ≠ playerId)
            version := state.version + 1 } tier now true
  | .ready playerId ready paidFor =>
      match state.players.findIdx? (·.playerId = playerId) with
      | none => unchanged state (some .notJoined)
      | some index =>
          if state.status = .launching then unchanged state (some .lobbyLaunching)
          else
            match state.players[index]? with
            | none => unchanged state none
            | some existing =>
                if existing.ready = ready then unchanged state none
                else
                  settle
                    { state with
                      players := state.players.set index { existing with ready, paidFor }
                      version := state.version + 1 } tier now true
  | .tick => settle state tier now false
  | .open gameId scheduled =>
      -- whoever is queued stays queued
      let base := if state.players.length > 0 then state else emptyLobby
      ⟨{ base with
          status := .waiting
          countdownEndsAt := none
          gameId
          scheduled
          version := state.version + 1 }, true, none, false⟩
  | .close =>
      if state.status = .launching then unchanged state none
      else
        ⟨{ state with
            status := .launching
            countdownEndsAt := none
            version := state.version + 1 }, true, none, false⟩
  | .launched gameId =>
      ⟨{ state with
          status := .launching
          gameId := some gameId
          countdownEndsAt := none
          version := state.version + 1 }, true, none, false⟩
  | .reset => ⟨{ emptyLobby with version := state.version + 1 }, true, none, false⟩

/-- What the auto-start rules can do. -/
inductive Settles (tier : RoomTier) (state : LobbyState) (mutated : Bool) :
    LobbyTransition → Prop where
  | idle : Settles tier state mutated ⟨state, mutated, none, false⟩
  /-- Too few players. -/
  | short (h : state.players.length < tier.minPlayers) :
      Settles tier state mutated
        ⟨{ state with status := .waiting, countdownEndsAt := none }, true, none, false⟩
  | begin (h : state.status = .waiting) (deadline : ℕ) :
      Settles tier state mutated
        ⟨{ state with
            status := .countdown
            countdownEndsAt := some deadline
            countdown := none }, true, none, false⟩
  | sooner (h : state.status = .countdown) (deadline : ℕ) :
      Settles tier state mutated
        ⟨{ state with countdownEndsAt := some deadline }, true, none, false⟩
  /-- Too few paid. -/
  | unpaid (h : state.status = .countdown) :
      Settles tier state mutated
        ⟨{ state with
            players := state.players.filter (·.ready)
            status := .waiting
            countdownEndsAt := none }, true, none, false⟩
  | launch (h : state.status = .countdown) (players : List LobbyPlayer)
      (sub : players.Sublist state.players) (enough : tier.minPlayers ≤ players.length)
      (paid : tier.entryFeeLamports > 0 → ∀ p ∈ players, p.ready = true) :
      Settles tier state mutated
        ⟨{ state with players, status := .launching, countdownEndsAt := none }, true, none, true⟩

section Settle
variable {tier : RoomTier} {state : LobbyState} {mutated : Bool} {now : ℕ}

theorem expires (h : state.status = .countdown) (henough : tier.minPlayers ≤ state.players.length) :
    Settles tier state mutated (expire state tier) := by
  unfold expire
  by_cases hfee : tier.entryFeeLamports > 0
  · by_cases hpaid : (state.players.filter (·.ready)).length < tier.minPlayers
    · simp only [hfee, hpaid, if_true]
      exact .unpaid h
    · simp only [hfee, hpaid, if_true, if_false]
      exact .launch h _ List.filter_sublist (not_lt.mp hpaid) fun _ p hp =>
        (List.mem_filter.mp hp).2
  · simp only [hfee, if_false]
    exact .launch h _ (List.Sublist.refl _) henough fun h => absurd h hfee

theorem settles : Settles tier state mutated (settle state tier now mutated) := by
  unfold settle
  by_cases hscheduled : state.scheduled = true
  · rw [if_pos hscheduled]
    exact .idle
  rw [if_neg hscheduled]
  by_cases hshort : state.players.length < tier.minPlayers
  · simp only [if_pos hshort]
    split
    case isTrue hchanged =>
        simp only [hchanged, Bool.or_true]
        exact .short hshort
    case isFalse hchanged =>
        simp only [Bool.not_eq_true _ ▸ hchanged, Bool.or_false]
        exact .idle
  simp only [if_neg hshort]
  split
  case h_1 hwaiting => exact .begin hwaiting _
  case h_2 hcountdown _ =>
      split
      · exact expires hcountdown (not_lt.mp hshort)
      split
      · exact .sooner hcountdown _
      · exact .idle
  case h_3 => exact .idle

/-- A lobby that is launching with enough players is left as it is. -/
theorem settle_launching (h : state.status = .launching)
    (henough : tier.minPlayers ≤ state.players.length) :
    settle state tier now mutated = ⟨state, mutated, none, false⟩ := by
  unfold settle
  split
  · rfl
  · simp only [not_lt.mpr henough, h, if_false]

namespace Settles
variable {t : LobbyTransition}

theorem players (h : Settles tier state mutated t) : t.state.players.Sublist state.players := by
  cases h with
  | idle | short | begin | sooner => exact List.Sublist.refl _
  | unpaid => exact List.filter_sublist
  | launch _ _ sub => exact sub

theorem version (h : Settles tier state mutated t) : t.state.version = state.version := by
  cases h <;> rfl

theorem gameId (h : Settles tier state mutated t) : t.state.gameId = state.gameId := by
  cases h <;> rfl

theorem countdown (h : Settles tier state mutated t) :
    t.state.countdown = state.countdown ∨ t.state.countdown = none := by
  cases h with
  | begin => exact .inr rfl
  | idle | short | sooner | unpaid | launch => exact .inl rfl

/-- A lobby that counts down has begun to, or did before. -/
theorem counting (h : Settles tier state mutated t) (ht : t.state.status = .countdown) :
    t.state.countdown = none ∨
      state.status = .countdown ∧ t.state.countdown = state.countdown := by
  cases h with
  | idle => exact .inr ⟨ht, rfl⟩
  | begin => exact .inl rfl
  | sooner h => exact .inr ⟨h, rfl⟩
  | short | unpaid | launch => cases ht

/-- What is handed to `launch`. -/
theorem launches (h : Settles tier state mutated t) (ht : t.shouldLaunch = true) :
    state.status = .countdown ∧ t.state.status = .launching ∧
      tier.minPlayers ≤ t.state.players.length ∧ t.state.countdown = state.countdown ∧
      (tier.entryFeeLamports > 0 → ∀ p ∈ t.state.players, p.ready = true) := by
  cases h with
  | launch h _ _ enough paid => exact ⟨h, rfl, enough, rfl, paid⟩
  | idle | short | begin | sooner | unpaid => cases ht

end Settles

end Settle

/-- What an event that changes the lobby can do. -/
inductive Reduces (tier : RoomTier) (state : LobbyState) : LobbyEvent → LobbyTransition → Prop where
  | join {playerId : ℕ} {nickname : String} {wallet : Pubkey} {t : LobbyTransition} (now : ℕ)
      (h : state.status ≠ .launching)
      (ht : Settles tier
        { state with
          players := state.players ++
            [⟨playerId, nickname, wallet, now, false, state.version + 1, none⟩]
          version := state.version + 1 } true t) :
      Reduces tier state (.join playerId nickname wallet) t
  | leave {playerId : ℕ} {t : LobbyTransition} (h : state.status ≠ .launching)
      (ht : Settles tier
        { state with
          players := state.players.filter (·.playerId ≠ playerId)
          version := state.version + 1 } true t) :
      Reduces tier state (.leave playerId) t
  | ready {playerId : ℕ} {ready : Bool} {paidFor : Option ℕ} {t : LobbyTransition}
      (h : state.status ≠ .launching) {index : ℕ} {existing : LobbyPlayer}
      (hget : state.players[index]? = some existing) (hid : existing.playerId = playerId)
      (ht : Settles tier
        { state with
          players := state.players.set index { existing with ready, paidFor }
          version := state.version + 1 } true t) :
      Reduces tier state (.ready playerId ready paidFor) t
  | tick {t : LobbyTransition} (ht : Settles tier state false t)
      (h : state.status = .launching → state.players.length < tier.minPlayers) :
      Reduces tier state .tick t
  | open {gameId : Option ℕ} {scheduled : Bool} {countdown : Option ℕ}
      (h : countdown = state.countdown ∨ countdown = none) :
      Reduces tier state (.open gameId scheduled)
        ⟨{ state with
            status := .waiting
            countdownEndsAt := none
            gameId
            scheduled
            countdown
            version := state.version + 1 }, true, none, false⟩
  | close (h : state.status ≠ .launching) :
      Reduces tier state .close
        ⟨{ state with
            status := .launching
            countdownEndsAt := none
            version := state.version + 1 }, true, none, false⟩
  | launched {gameId : ℕ} :
      Reduces tier state (.launched gameId)
        ⟨{ state with
            status := .launching
            gameId := some gameId
            countdownEndsAt := none
            version := state.version + 1 }, true, none, false⟩
  | reset :
      Reduces tier state .reset ⟨{ emptyLobby with version := state.version + 1 },
        true, none, false⟩

section Reduce
variable {tier : RoomTier} {state : LobbyState} {event : LobbyEvent} {now : ℕ}

theorem reduces (hrejected : (reduceLobby state event tier now).rejected = none)
    (hchanged : (reduceLobby state event tier now).changed = true) :
    Reduces tier state event (reduceLobby state event tier now) := by
  cases event with
  | join playerId nickname wallet =>
      simp only [reduceLobby] at hrejected ⊢
      split_ifs at hrejected ⊢ with hlaunching
      · exact nomatch hrejected
      · exact nomatch hrejected
      · exact nomatch hrejected
      · exact nomatch hrejected
      · exact .join now hlaunching settles
  | leave playerId =>
      simp only [reduceLobby] at hrejected ⊢
      split_ifs at hrejected ⊢ with _ hlaunching
      · exact nomatch hrejected
      · exact .leave hlaunching settles
      · exact nomatch hrejected
  | ready playerId ready paidFor =>
      simp only [reduceLobby] at hrejected hchanged ⊢
      cases hindex : state.players.findIdx? (·.playerId = playerId) with
      | none =>
          simp only [hindex] at hrejected
          exact nomatch hrejected
      | some index =>
          obtain ⟨hlt, hid, -⟩ := List.findIdx?_eq_some_iff_getElem.mp hindex
          have hget : state.players[index]? = some state.players[index] :=
            List.getElem?_eq_getElem hlt
          simp only [hindex, hget] at hrejected hchanged ⊢
          split_ifs at hrejected hchanged ⊢ with hlaunching hsame
          · exact nomatch hrejected
          · exact nomatch hchanged
          · exact .ready hlaunching hget (by simpa using hid) settles
  | tick =>
      refine .tick settles fun hlaunching => not_le.mp fun henough => ?_
      simp [reduceLobby, settle_launching hlaunching henough] at hchanged
  | launched gameId => exact .launched
  | «open» gameId scheduled =>
      simp only [reduceLobby]
      split
      · exact .open (.inl rfl)
      case isFalse hempty =>
          have hplayers : state.players = [] := List.length_eq_zero_iff.mp (by omega)
          simpa [emptyLobby, hplayers] using
            @Reduces.open tier state gameId scheduled none (.inr rfl)
  | close =>
      simp only [reduceLobby] at hchanged ⊢
      split_ifs at hchanged ⊢ with hlaunching
      · exact nomatch hchanged
      · exact .close hlaunching
  | reset => exact .reset

namespace Reduces
variable {t : LobbyTransition}

/-- Every event bumps the version, except a tick. -/
theorem version (h : Reduces tier state event t) :
    t.state.version = state.version + 1 ∨
      t.state.version = state.version ∧
        (state.status = .launching → state.players.length < tier.minPlayers) := by
  cases h with
  | join _ _ ht | leave _ ht | ready _ _ _ ht => exact .inl ht.version
  | tick ht h => exact .inr ⟨ht.version, h⟩
  | «open» | close | launched | reset => exact .inl rfl

theorem countdown (h : Reduces tier state event t) :
    t.state.countdown = state.countdown ∨ t.state.countdown = none := by
  cases h with
  | join _ _ ht | leave _ ht | ready _ _ _ ht | tick ht => exact ht.countdown
  | «open» h => exact h
  | close | launched => exact .inl rfl
  | reset => exact .inr rfl

theorem counting (h : Reduces tier state event t) (ht : t.state.status = .countdown) :
    t.state.countdown = none ∨
      state.status = .countdown ∧ t.state.countdown = state.countdown := by
  cases h with
  | join _ _ h | leave _ h | ready _ _ _ h | tick h => exact h.counting ht
  | «open» | close | launched | reset => cases ht

theorem launches (h : Reduces tier state event t) (ht : t.shouldLaunch = true) :
    state.status = .countdown ∧ t.state.status = .launching ∧
      tier.minPlayers ≤ t.state.players.length ∧ t.state.countdown = state.countdown ∧
      (tier.entryFeeLamports > 0 → ∀ p ∈ t.state.players, p.ready = true) := by
  cases h with
  | join _ _ h | leave _ h | ready _ _ _ h | tick h => exact h.launches ht
  | «open» | close | launched | reset => cases ht

/-- Nobody joins or leaves a lobby that is launching with enough players, unless it is opened
again or cleared. -/
theorem of_launching (h : Reduces tier state event t) (hlaunching : state.status = .launching)
    (henough : tier.minPlayers ≤ state.players.length) :
    (∃ gameId scheduled, event = .open gameId scheduled) ∨
      t.state.status = .launching ∧ t.state.players = state.players ∨ t.state.players = [] := by
  cases h with
  | join _ h | leave h | ready h | close h => exact absurd hlaunching h
  | tick _ h => exact absurd (h hlaunching) (not_lt.mpr henough)
  | «open» => exact .inl ⟨_, _, rfl⟩
  | launched => exact .inr (.inl ⟨rfl, rfl⟩)
  | reset => exact .inr (.inr rfl)

end Reduces

end Reduce

end SnakeArena.Lobby
