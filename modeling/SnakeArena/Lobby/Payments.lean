import SnakeArena.Lobby.Launches

/-!
# Lobby — who is launched has paid

In a paid room a player is ready when a request found their payment for the game the lobby
named.  `LobbyState.Paid` says that this is still the game the lobby names.

The flag does not say which game: `open` keeps it and rebinds the game, and the route checks
the payment before it sets the flag.  `KeepsGame` excludes a game that changes there.
-/

namespace SnakeArena.Lobby
open SnakeArena.Library

/-- Who is ready paid into the game of the lobby. -/
def LobbyState.Paid (paid : List (ℕ × ℕ)) (state : LobbyState) : Prop :=
  ∀ p ∈ state.players, p.ready = true →
    ∃ g, state.gameId = some g ∧ p.paidFor = some g ∧ (p.playerId, g) ∈ paid

/-- Everyone in the roster paid into the game it is launched with. -/
def LaunchRequest.Paid (paid : List (ℕ × ℕ)) (request : LaunchRequest) : Prop :=
  ∀ p ∈ request.players,
    ∃ g, request.gameId = some g ∧ p.paidFor = some g ∧ (p.playerId, g) ∈ paid

/-- A ready flag that a request may set once its payment is found. -/
def LobbyEvent.Checked (paid : List (ℕ × ℕ)) : LobbyEvent → Prop
  | .ready playerId true (some g) => (playerId, g) ∈ paid
  | .ready _ true none => False
  | .launched _ => False
  | _ => True

/-- Nobody's payment is for another game than the lobby names after the event. -/
def KeepsGame (current : LobbyState) : LobbyEvent → Prop
  | .open gameId _ => (∃ p ∈ current.players, p.ready = true) → gameId = current.gameId
  | .ready _ true (some g) => current.gameId = some g
  | _ => True

section Events
variable {tier : RoomTier} {state : LobbyState} {event : LobbyEvent} {t : LobbyTransition}
  {paid paid' : List (ℕ × ℕ)} {mutated : Bool}

theorem LobbyState.Paid.mono (h : state.Paid paid) (hsub : paid ⊆ paid') : state.Paid paid' :=
  fun p hp hready => by
    obtain ⟨g, hg, hfor, hmem⟩ := h p hp hready
    exact ⟨g, hg, hfor, hsub hmem⟩

/-- Fewer players, in the same game. -/
theorem LobbyState.Paid.fewer {state' : LobbyState} (h : state.Paid paid)
    (hplayers : state'.players ⊆ state.players) (hgame : state'.gameId = state.gameId) :
    state'.Paid paid := fun p hp hready => hgame ▸ h p (hplayers hp) hready

theorem LobbyState.Paid.settles (h : state.Paid paid) (ht : Settles tier state mutated t) :
    t.state.Paid paid := h.fewer ht.players.subset ht.gameId

theorem LobbyState.Paid.reduces (h : state.Paid paid) (hr : Reduces tier state event t)
    (hchecked : event.Checked paid) (hgame : KeepsGame state event) : t.state.Paid paid := by
  cases hr with
  | join now _ ht =>
      refine LobbyState.Paid.settles (fun p hp hready => ?_) ht
      obtain hp | hp := List.mem_append.mp hp
      · exact h p hp hready
      · obtain rfl := List.mem_singleton.mp hp
        exact nomatch hready
  | leave _ ht =>
      refine LobbyState.Paid.settles (fun p hp hready => ?_) ht
      exact h p (List.mem_filter.mp hp).1 hready
  | @ready playerId ready paidFor _ _ index existing hget hid ht =>
      refine LobbyState.Paid.settles (fun p hp hready => ?_) ht
      obtain hp | rfl := List.mem_or_eq_of_mem_set hp
      · exact h p hp hready
      · obtain rfl : ready = true := hready
        cases paidFor with
        | none => exact hchecked.elim
        | some g => exact ⟨g, hgame, rfl, hid ▸ hchecked⟩
  | tick ht => exact h.settles ht
  | «open» =>
      intro p hp hready
      obtain rfl := hgame ⟨p, hp, hready⟩
      exact h p hp hready
  | close => exact h
  | launched => exact hchecked.elim
  | reset => exact nofun

/-- The launched lobby names the game it was opened for. -/
theorem LobbyState.Paid.launched (h : state.Paid paid) (now randomUUID : ℕ) :
    (reduceLobby state (.launched (state.gameId.getD randomUUID)) tier now).state.Paid paid := by
  intro p hp hready
  obtain ⟨g, hg, hfor, hmem⟩ := h p hp hready
  exact ⟨g, by simp [reduceLobby, hg], hfor, hmem⟩

theorem LobbyState.Paid.reset {now : ℕ} :
    (reduceLobby state .reset tier now).state.Paid paid := fun _ hp => by cases hp

end Events

/-! ### Calls -/

namespace Store

/-- The invariant of the store. -/
structure Staked (s : Store) : Prop where
  lobby : s.load.Paid s.paid
  launches : ∀ request ∈ s.launches, request.Paid s.paid

/-- What a call knows where it stops. -/
def KnowsPaid (tier : RoomTier) (s : Store) (p : Call) : Prop :=
  match p.point with
  | .load => p.event.Checked s.paid
  | .save current result =>
      p.event.Checked s.paid ∧ Reduces tier current p.event result ∧ current.Paid s.paid
  | .launch state => state.Paid s.paid
  | .saveLaunched _ marked => marked.Paid s.paid
  | _ => True

/-- The store after a step: in order, with no payment forgotten. -/
structure Stakes (s s' : Store) : Prop where
  staked : s'.Staked
  paid : s.paid ⊆ s'.paid

end Store

/-- A save that lands keeps the game of whoever is ready. -/
def SavesInGame (s : Store) (p : Call) : Prop :=
  match p.point with
  | .save current _ => s.load.version = current.version → KeepsGame current p.event
  | _ => True

def InGame (s : System Store Call) : Act Call Answer Empty → Prop
  | .resume r c => c ≠ .throw → ∀ p ∈ s.procs.get r, SavesInGame s.store p
  | _ => True

instance (current : LobbyState) (event : LobbyEvent) : Decidable (KeepsGame current event) := by
  unfold KeepsGame
  rcases event with _ | _ | ⟨_, _ | _, _ | _⟩ | _ | _ | _ | _ | _ <;> dsimp only <;> infer_instance

instance (s : Store) (p : Call) : Decidable (SavesInGame s p) := by
  unfold SavesInGame
  rcases p.point <;> dsimp only <;> infer_instance

instance (s : System Store Call) (a : Act Call Answer Empty) : Decidable (InGame s a) :=
  match a with
  | .resume r c => inferInstanceAs (Decidable (c ≠ .throw → ∀ p ∈ s.procs.get r, _))
  | .start _ _ => inferInstanceAs (Decidable True)
  | .crash _ => inferInstanceAs (Decidable True)
  | .other _ => inferInstanceAs (Decidable True)

section Calls
variable {tier : RoomTier} {s s' : Store} {p : Call}

theorem LobbyEvent.Checked.mono {event : LobbyEvent} {paid paid' : List (ℕ × ℕ)}
    (h : event.Checked paid) (hsub : paid ⊆ paid') : event.Checked paid' := by
  match event, h with
  | .ready _ true (some _), h => exact hsub h
  | .ready _ false _, _ | .join _ _ _, _ | .leave _, _ | .tick, _ | .open _ _, _ | .close, _
  | .reset, _ => trivial

theorem Store.Stakes.knows (h : s.Stakes s') (hp : s.KnowsPaid tier p) : s'.KnowsPaid tier p := by
  obtain ⟨event, attempt, point⟩ := p
  cases point with
  | load => exact LobbyEvent.Checked.mono hp h.paid
  | save current result => exact ⟨hp.1.mono h.paid, hp.2.1, hp.2.2.mono h.paid⟩
  | launch state => exact LobbyState.Paid.mono hp h.paid
  | saveLaunched state marked => exact LobbyState.Paid.mono hp h.paid
  | readyLobby | hasPaid | clearPlayers | saveReset | saveFailed => trivial

theorem knowsPaid_clearPlayers (event : LobbyEvent) (attempt : ℕ) (state marked : LobbyState)
    (left : List LobbyPlayer) :
    s.KnowsPaid tier ⟨event, attempt, clearPlayers state marked left⟩ := by
  cases left <;> trivial

theorem Store.Staked.stays (h : s.Staked) : s.Stakes s := ⟨h, fun _ => id⟩

theorem Store.Staked.pays (h : s.Staked) (check : ℕ × ℕ) :
    s.Stakes { s with paid := check :: s.paid } := by
  refine ⟨⟨h.lobby.mono (List.subset_cons_self _ _), fun request hrequest p hp => ?_⟩,
    List.subset_cons_self _ _⟩
  obtain ⟨g, hg, hfor, hmem⟩ := h.launches request hrequest p hp
  exact ⟨g, hg, hfor, List.mem_cons_of_mem _ hmem⟩

theorem Store.Staked.save (h : s.Staked) {state : LobbyState} {expectedVersion : ℕ}
    (hpaid : state.Paid s.paid) (hs : s.save state expectedVersion = some s') : s.Stakes s' := by
  obtain ⟨-, hlaunches, hsame, hload⟩ := Store.save_some hs
  refine ⟨⟨?_, ?_⟩, hsame ▸ fun _ => id⟩
  · rw [hsame]
    obtain ⟨e, -⟩ | ⟨e, -⟩ := hload
    · exact e ▸ hpaid
    · rw [e]
      exact hpaid.fewer (List.Subset.refl _) rfl
  · rw [hlaunches, hsame]
    exact h.launches

theorem Store.Staked.saves (h : s.Staked) {state : LobbyState} {expectedVersion : ℕ}
    (hpaid : s.load.version = expectedVersion → state.Paid s.paid) :
    s.Stakes ((s.save state expectedVersion).getD s) := by
  cases hs : s.save state expectedVersion with
  | none => exact h.stays
  | some s' => exact h.save (hpaid (Store.save_some hs).1) hs

theorem Store.Staked.launch (h : s.Staked) {event : LobbyEvent} {t : LobbyTransition}
    {current : LobbyState} (hfee : 0 < tier.entryFeeLamports) (hr : Reduces tier current event t)
    (hlaunch : t.shouldLaunch = true) (hpaid : t.state.Paid s.paid) :
    s.Stakes (s.handOver ⟨t.state.players, t.state.gameId, t.state.countdown⟩) := by
  obtain ⟨-, -, -, -, hready⟩ := hr.launches hlaunch
  refine ⟨⟨h.lobby, fun request hrequest => ?_⟩, fun _ => id⟩
  obtain hrequest | hrequest := List.mem_append.mp hrequest
  · exact h.launches request hrequest
  · obtain rfl := List.mem_singleton.mp hrequest
    exact fun p hp => hpaid p hp (hready hfee p hp)

theorem save_stakes (h : s.Staked) {event : LobbyEvent} {attempt : ℕ} {current : LobbyState}
    {result : LobbyTransition} (hfee : 0 < tier.entryFeeLamports)
    (hp : s.KnowsPaid tier ⟨event, attempt, .save current result⟩)
    (hgame : s.load.version = current.version → KeepsGame current event) (r now : ℕ) :
    Processes.Leads Store.Stakes (Store.KnowsPaid tier) s
      (Call.resume tier r s ⟨event, attempt, .save current result⟩ (.ok now)) := by
  obtain ⟨hchecked, hr, hpaid⟩ := hp
  simp only [Call.resume]
  cases hs : s.save result.state current.version with
  | none =>
      simp only
      split
      · exact .goes h.stays hchecked
      · exact .ends h.stays
  | some s' =>
      have hresult := hpaid.reduces hr hchecked (hgame (Store.save_some hs).1)
      obtain ⟨hstaked, hsub⟩ := h.save hresult hs
      simp only
      split
      case isTrue hlaunch =>
          have hlaunched := hstaked.launch hfee hr hlaunch (hresult.mono hsub)
          exact .goes ⟨hlaunched.staked, fun _ hmem => hlaunched.paid (hsub hmem)⟩
            (hresult.mono hsub)
      case isFalse => exact .ends ⟨hstaked, hsub⟩

/-- The step of a call. -/
theorem resume_stakes (h : s.Staked) (hfee : 0 < tier.entryFeeLamports)
    (hp : s.KnowsPaid tier p) {c : Answer}
    (hc : c ≠ .throw → SavesInGame s p) (r : ℕ) :
    Processes.Leads Store.Stakes (Store.KnowsPaid tier) s (p.resume tier r s c) := by
  obtain ⟨event, attempt, point⟩ := p
  cases point with
  | readyLobby =>
      cases c with
      | ok now =>
          simp only [Call.resume]
          split
          · exact .ends h.stays
          · exact .goes h.stays trivial
      | lost | throw | paid | launched => exact .ends h.stays
  | hasPaid gameId =>
      cases c with
      | paid now paid =>
          cases paid with
          | false => exact .ends h.stays
          | true =>
              cases event with
              | ready playerId ready paidFor =>
                  refine .goes (h.pays (playerId, gameId)) ?_
                  cases ready with
                  | true => exact List.mem_cons_self
                  | false => trivial
              | join | leave | tick | launched | «open» | close | reset => exact .ends h.stays
      | ok | lost | throw | launched => exact .ends h.stays
  | load =>
      cases c with
      | ok now =>
          simp only [Call.resume]
          split
          · exact .ends h.stays
          case isFalse hrejected =>
              split
              · exact .ends h.stays
              case isFalse hchanged =>
                  exact .goes h.stays
                    ⟨hp, reduces (not_not.mp hrejected) (not_not.mp hchanged), h.lobby⟩
      | lost | throw | paid | launched => exact .ends h.stays
  | save current result =>
      cases c with
      | throw => exact .ends h.stays
      | lost =>
          obtain ⟨hchecked, hr, hpaid⟩ := hp
          exact .ends (h.saves fun e => hpaid.reduces hr hchecked (hc (by rintro ⟨⟩) e))
      | ok now | paid now _ | launched now _ =>
          exact save_stakes h hfee hp (hc (by rintro ⟨⟩)) r now
  | launch state =>
      cases c with
      | launched now randomUUID => exact .goes h.stays (LobbyState.Paid.launched hp now randomUUID)
      | ok | lost | throw | paid => exact .goes h.stays trivial
  | saveLaunched state marked =>
      cases c with
      | throw => exact .goes h.stays trivial
      | lost => exact .goes (h.saves fun _ => hp) trivial
      | ok | paid | launched => exact .goes (h.saves fun _ => hp) (knowsPaid_clearPlayers _ _ _ _ _)
  | clearPlayers state marked left =>
      cases c with
      | ok now => exact .goes h.stays (knowsPaid_clearPlayers _ _ _ _ _)
      | lost | throw | paid | launched => exact .goes h.stays trivial
  | saveReset state marked =>
      cases c with
      | throw => exact .goes h.stays trivial
      | lost => exact .goes (h.saves fun _ => LobbyState.Paid.reset) trivial
      | ok | paid | launched => exact .ends (h.saves fun _ => LobbyState.Paid.reset)
  | saveFailed state =>
      cases c with
      | throw => exact .ends h.stays
      | ok | lost | paid | launched => exact .ends (h.saves fun _ => LobbyState.Paid.reset)

end Calls

theorem knowsPaid_starts {tier : RoomTier} (hfee : 0 < tier.entryFeeLamports) {s : Store}
    {p : Call} (h : (matchmaker tier).starts p = true) : s.KnowsPaid tier p := by
  obtain ⟨event, attempt, point⟩ := p
  cases point with
  | load =>
      cases attempt with
      | succ => cases h
      | zero =>
          match event, h with
          | .ready _ true none, h => exact absurd (of_decide_eq_true h) hfee.ne'
          | .ready _ false none, _ | .join _ _ _, _ | .leave _, _ | .tick, _ | .open _ _, _
          | .close, _ | .reset, _ => trivial
  | readyLobby | hasPaid | clearPlayers | saveReset | saveFailed => trivial
  | save | launch | saveLaunched => cases attempt <;> cases h

theorem matchmaker_keeps {tier : RoomTier} (hfee : 0 < tier.entryFeeLamports) :
    (matchmaker tier).Keeps InGame Store.Staked (fun s _ p => s.KnowsPaid tier p)
      fun _ _ => True := by
  refine .of_leads (R := Store.Stakes) (fun _ _ h => h.staked) (fun _ _ _ h => h.knows) ?_ ?_
    (fun _ e => nomatch e)
  · exact fun s p => knowsPaid_starts hfee
  · exact fun s r p c hstaked hp hknows hg =>
      resume_stakes hstaked hfee hknows (fun hc => hg hc p hp) r

/-- **Who is launched has paid.**  In a paid room, and a run where the game stays the one that
was paid for, everyone handed to `launch` with a game was marked ready by a request whose
payment check succeeded for that game. -/
theorem launched_paid {tier : RoomTier} (hfee : 0 < tier.entryFeeLamports)
    {s : System Store Call}
    (hs : Reachable (Guarded (matchmaker tier).Step InGame) (noLobby = ·) s) :
    ∀ request ∈ s.store.launches, request.Paid s.store.paid :=
  ((matchmaker_keeps hfee).reachable
    (fun s (e : noLobby = s) => e ▸ ⟨⟨nofun, nofun⟩, .empty, fun _ _ _ _ _ _ _ => trivial⟩)
      hs).1.launches

def bronze : RoomTier := ⟨10000000, 2, none, 45, 5⟩

/-- The lobby is opened for a game, and players 7 and 8 join and pay for it. -/
def readyForGame (gameId : ℕ) : List (Act Call Answer Empty) :=
  [.start 0 ⟨.open (some gameId) false, 0, .load⟩, .resume 0 (.ok 0), .resume 0 (.ok 0),
    .start 1 ⟨.join 7 "ada" (.key 7), 0, .load⟩, .resume 1 (.ok 0), .resume 1 (.ok 0),
    .start 2 ⟨.join 8 "bob" (.key 8), 0, .load⟩, .resume 2 (.ok 0), .resume 2 (.ok 0),
    .start 3 ⟨.ready 7 true none, 0, .readyLobby⟩, .resume 3 (.ok 0), .resume 3 (.paid 0 true),
    .resume 3 (.ok 0), .resume 3 (.ok 0),
    .start 4 ⟨.ready 8 true none, 0, .readyLobby⟩, .resume 4 (.ok 0), .resume 4 (.paid 0 true),
    .resume 4 (.ok 0), .resume 4 (.ok 0)]

/-- The next tick after the countdown launches them. -/
theorem launched_paid_bronze : ∃ s : System Store Call, s.store.handed = [2, 3] ∧
    ∀ request ∈ s.store.launches, request.Paid s.store.paid := by
  have hrun : ((matchmaker bronze).actsWhen InGame noLobby
      (readyForGame 3 ++ [.start 5 ⟨.tick, 0, .load⟩, .resume 5 (.ok 5000),
        .resume 5 (.ok 5000)])).any
      (fun s => decide (s.store.handed = [2, 3])) = true := by
    decide
  obtain ⟨s, hs, htest⟩ := (matchmaker bronze).reachable_of_actsWhen (Eq.refl noLobby) hrun
  exact ⟨s, of_decide_eq_true htest, launched_paid (by decide) hs⟩

/-- Between their payment and the launch, the next cycle opens the lobby for game 4. -/
theorem launched_paid_rebound : ¬ ∀ (tier : RoomTier) (s : System Store Call),
    0 < tier.entryFeeLamports → Reachable (matchmaker tier).Step (noLobby = ·) s →
      ∀ request ∈ s.store.launches, ∀ p ∈ request.players, ∀ g, request.gameId = some g →
        (p.playerId, g) ∈ s.store.paid := by
  intro hclaim
  have hrun : ((matchmaker bronze).acts noLobby
      (readyForGame 3 ++ [.start 5 ⟨.open (some 4) false, 0, .load⟩, .resume 5 (.ok 1000),
        .resume 5 (.ok 1000), .start 6 ⟨.tick, 0, .load⟩, .resume 6 (.ok 2000),
        .resume 6 (.ok 2000), .start 7 ⟨.tick, 0, .load⟩, .resume 7 (.ok 7000),
        .resume 7 (.ok 7000)])).any
      (fun s => decide (s.store.paid = [(8, 3), (7, 3)]) &&
        s.store.launches.any fun request => decide (request.gameId = some 4) &&
          request.players.any fun p => decide (p.playerId = 7)) = true := by
    decide
  obtain ⟨s, hs, htest⟩ := (matchmaker bronze).reachable_of_acts (Eq.refl noLobby) hrun
  simp only [Bool.and_eq_true, List.any_eq_true, decide_eq_true_iff] at htest
  obtain ⟨hpaid, request, hrequest, hgame, p, hp, hid⟩ := htest
  have hmem := hclaim bronze s (by decide) hs request hrequest p hp 4 hgame
  rw [hpaid, hid] at hmem
  exact absurd hmem (by decide)

end SnakeArena.Lobby
