import SnakeArena.Lobby.Requests

/-!
# Lobby — one queue per player

No player is in the rosters of two lobbies (`OneQueue`).  A join leaves the lobby that the index
names before it joins, so that it relies on the index, on the leave, and on no other join of the
player in between; `InTurn` says so.  And a save must not bring back who has left since its
lobby was loaded, which a version alone does not ensure.
-/

namespace SnakeArena.Lobby
open SnakeArena.Library

/-! ### Players -/

/-- The players, in the order that they joined. -/
def LobbyState.ids (state : LobbyState) : List ℕ := state.players.map (·.playerId)

theorem LobbyState.mem_ids {state : LobbyState} {playerId : ℕ} :
    playerId ∈ state.ids ↔ ∃ p ∈ state.players, p.playerId = playerId := List.mem_map

section Events
variable {tier : RoomTier} {state : LobbyState} {event : LobbyEvent} {t : LobbyTransition}
  {mutated : Bool} {playerId : ℕ}

/-- Settling takes players out, and puts none in. -/
theorem Settles.ids (h : Settles tier state mutated t) : t.state.ids ⊆ state.ids :=
  (h.players.map _).subset

/-- An event adds nobody but the player who joins. -/
theorem Reduces.ids (h : Reduces tier state event t) (hp : playerId ∈ t.state.ids) :
    playerId ∈ state.ids ∨ event.joiner = some playerId := by
  cases h with
  | join now _ ht =>
      obtain ⟨p, hmem, rfl⟩ := LobbyState.mem_ids.mp (ht.ids hp)
      rcases List.mem_append.mp hmem with hmem | hmem
      · exact .inl (LobbyState.mem_ids.mpr ⟨p, hmem, rfl⟩)
      · obtain rfl := List.mem_singleton.mp hmem
        exact .inr rfl
  | leave _ ht =>
      obtain ⟨p, hmem, rfl⟩ := LobbyState.mem_ids.mp (ht.ids hp)
      exact .inl (LobbyState.mem_ids.mpr ⟨p, (List.mem_filter.mp hmem).1, rfl⟩)
  | ready _ hget _ ht =>
      obtain ⟨p, hmem, rfl⟩ := LobbyState.mem_ids.mp (ht.ids hp)
      rcases List.mem_or_eq_of_mem_set hmem with hmem | rfl
      · exact .inl (LobbyState.mem_ids.mpr ⟨p, hmem, rfl⟩)
      · exact .inl (LobbyState.mem_ids.mpr ⟨_, List.mem_of_getElem? hget, rfl⟩)
  | tick ht => exact .inl (ht.ids hp)
  | «open» | close | launched => exact .inl hp
  | reset => cases hp

/-- Who leaves is out. -/
theorem Reduces.not_mem_ids (h : Reduces tier state event t) (he : event = .leave playerId) :
    playerId ∉ t.state.ids := by
  intro hp
  cases h with
  | leave _ ht =>
      obtain rfl := LobbyEvent.leave.inj he
      obtain ⟨p, hmem, e⟩ := LobbyState.mem_ids.mp (ht.ids hp)
      exact absurd e (by simpa using (List.mem_filter.mp hmem).2)
  | join | ready | tick | «open» | close | launched | reset => cases he

/-- A leave is refused when the lobby is launching, and else leaves the player out of it. -/
theorem rejected_leave {now : ℕ}
    (h : (reduceLobby state (.leave playerId) tier now).rejected ≠ none ∨
      (reduceLobby state (.leave playerId) tier now).changed = false)
    (hlaunching : state.status = .launching → playerId ∉ state.ids) : playerId ∉ state.ids := by
  intro hp
  have hany : state.players.any (·.playerId = playerId) = true := by
    obtain ⟨p, hmem, e⟩ := LobbyState.mem_ids.mp hp
    exact List.any_eq_true.mpr ⟨p, hmem, decide_eq_true e⟩
  by_cases hstatus : state.status = .launching
  · exact hlaunching hstatus hp
  · simp only [reduceLobby, hany, hstatus, not_true_eq_false, if_false] at h
    have hsettles : ∀ s : LobbyState, (settle s tier now true).rejected = none ∧
        (settle s tier now true).changed = true := fun s => by
      cases hs : settle s tier now true with
      | mk =>
          have := hs ▸ @settles tier s true now
          cases this <;> exact ⟨rfl, rfl⟩
    rcases h with h | h
    · exact h (hsettles _).1
    · rw [(hsettles _).2] at h
      cases h

end Events

/-! ### Calls -/

/-- What a call carries was derived by its event. -/
def Call.Derived (tier : RoomTier) (p : Call) : Prop :=
  match p.point with
  | .save current result => Reduces tier current p.event result
  | .saveLaunched state marked => marked.players = state.players
  | _ => True

/-- A write that lands brings nobody back: who was in the lobby it was derived from still is. -/
def Current (tier : RoomTier) (s : Store) (p : Call) (answer : Answer) : Prop :=
  ∀ base ∈ p.lands tier s answer, p.clears = false → base.ids ⊆ s.load.ids

instance (tier : RoomTier) (s : Store) (p : Call) (answer : Answer) :
    Decidable (Current tier s p answer) := by
  unfold Current
  infer_instance

section Calls
variable {tier : RoomTier} {s : Store} {p p' : Call} {answer : Answer} {r playerId : ℕ}

/-- A call goes on with what it has derived. -/
theorem Call.Derived.of_resume (h : (p.resume tier r s answer).2 = some p') :
    p'.Derived tier := by
  cases resume_goes h with
  | asks | reads | launches | fails => trivial
  | saves now hpoint hanswer hrejected hchanged => exact reduces hrejected hchanged
  | marks => rfl
  | @clears _ _ left => cases left <;> trivial

/-- A call that starts has derived nothing. -/
theorem Call.Derived.of_starts (h : (service tier).starts p = true) : p.Derived tier := by
  obtain ⟨event, attempt, point⟩ := p
  cases point with
  | readyLobby | hasPaid | load | launch | clearPlayers | saveReset | saveFailed => trivial
  | save | saveLaunched => cases attempt <;> cases h

/-- A step of a call adds nobody but the player who joins. -/
theorem Call.Derived.ids (hp : p.Derived tier) (hcurrent : Current tier s p answer)
    (h : playerId ∈ (p.resume tier r s answer).1.load.ids) :
    playerId ∈ s.load.ids ∨ p.event.joiner = some playerId ∧ p.launching = none := by
  cases hlands : p.lands tier s answer with
  | none => exact .inl (resume_load_of_none hlands ▸ h)
  | some base =>
      obtain ⟨-, state, hw, ⟨countdown, hload⟩, -⟩ := resume_load_of_some (r := r) hlands
      have hstate : playerId ∈ state.ids := by rwa [hload] at h
      obtain ⟨event, attempt, point⟩ := p
      cases point with
      | save current result =>
          obtain ⟨rfl, rfl⟩ := Prod.mk.inj (Option.some.inj hw)
          by_cases hreset : event = .reset
          · subst hreset
            cases hp with
            | reset => cases hstate
          · rcases hp.ids hstate with hin | hjoin
            · exact .inl (hcurrent _ hlands (decide_eq_false hreset) hin)
            · exact .inr ⟨hjoin, rfl⟩
      | saveLaunched state₀ marked =>
          obtain ⟨rfl, rfl⟩ := Prod.mk.inj (Option.some.inj hw)
          have hplayers : marked.players = state₀.players := hp
          refine .inl (hcurrent _ hlands rfl ?_)
          rwa [LobbyState.ids, ← hplayers]
      | saveReset state₀ marked =>
          obtain ⟨rfl, rfl⟩ := Prod.mk.inj (Option.some.inj hw)
          cases hstate
      | saveFailed state₀ =>
          obtain ⟨rfl, rfl⟩ := Prod.mk.inj (Option.some.inj hw)
          cases hstate
      | readyLobby | hasPaid | load | launch | clearPlayers => cases hw

/-- The event of a call that joins or leaves stays. -/
theorem resume_joiner (h : (p.resume tier r s answer).2 = some p') :
    p'.event.joiner = p.event.joiner ∧
      ∀ playerId, p.event = .leave playerId → p'.event = .leave playerId := by
  obtain ⟨event, attempt, point⟩ := p
  cases point with
  | readyLobby =>
      cases answer with
      | ok now =>
          simp only [Call.resume] at h
          split at h <;> cases h
          exact ⟨rfl, fun _ => id⟩
      | lost | throw | paid | launched => cases h
  | hasPaid gameId =>
      cases answer with
      | paid now paid =>
          cases paid <;> cases event <;> cases h
          exact ⟨rfl, by rintro _ ⟨⟩⟩
      | ok | lost | throw | launched => cases h
  | load =>
      cases answer with
      | ok now =>
          simp only [Call.resume] at h
          split at h
          · cases h
          · split at h <;> cases h
            exact ⟨rfl, fun _ => id⟩
      | lost | throw | paid | launched => cases h
  | save current result =>
      cases answer with
      | lost | throw => cases h
      | ok | paid | launched =>
          simp only [Call.resume] at h
          split at h <;> split at h <;> cases h <;> exact ⟨rfl, fun _ => id⟩
  | launch state => cases answer <;> cases h <;> exact ⟨rfl, fun _ => id⟩
  | saveLaunched state marked => cases answer <;> cases h <;> exact ⟨rfl, fun _ => id⟩
  | clearPlayers state marked left => cases answer <;> cases h <;> exact ⟨rfl, fun _ => id⟩
  | saveReset state marked => cases answer <;> cases h <;> exact ⟨rfl, fun _ => id⟩
  | saveFailed state => cases answer <;> cases h

/-- A leave that lands leaves the player out of the lobby. -/
theorem Call.Derived.leaves (hp : p.Derived tier) (hleave : p.event = .leave playerId)
    {current : LobbyState} {result : LobbyTransition} (hpoint : p.point = .save current result)
    {base : LobbyState} (hlands : p.lands tier s answer = some base) :
    playerId ∉ (p.resume tier r s answer).1.load.ids := by
  obtain ⟨-, state, hw, ⟨countdown, hload⟩, -⟩ := resume_load_of_some (r := r) hlands
  obtain ⟨event, attempt, point⟩ := p
  obtain rfl : event = .leave playerId := hleave
  obtain rfl : point = .save current result := hpoint
  obtain ⟨rfl, rfl⟩ := Prod.mk.inj (Option.some.inj hw)
  rw [hload]
  exact Reduces.not_mem_ids hp rfl

/-- A leave that launches the others has landed. -/
theorem Call.Derived.leave_launches (hp : p.Derived tier) (hleave : p.event = .leave playerId)
    (h : (p.resume tier r s answer).2 = some p') (hbefore : p.launching = none)
    (hafter : p'.launching ≠ none) : playerId ∉ (p.resume tier r s answer).1.load.ids := by
  cases resume_goes h with
  | asks | reads | saves => exact absurd rfl hafter
  | @launches current result hpoint hlaunch hload =>
      have hr : Reduces tier current p.event result := by simpa only [Call.Derived, hpoint] using hp
      rw [hload (by rw [(hr.launches hlaunch).2.1]; rintro ⟨⟩)]
      exact hr.not_mem_ids hleave
  | marks now hpoint => simp [Call.launching, hpoint] at hbefore
  | clears hlaunch | fails hlaunch => cases hbefore.symm.trans hlaunch

/-- A leave that ends without a throw has left, or found the player gone. -/
theorem Call.Derived.leave_ends (hp : p.Derived tier) (hleave : p.event = .leave playerId)
    (h : (p.resume tier r s answer).2 = none) (hbefore : p.launching = none)
    (houtcome : p.outcome tier s answer ≠ .thrown)
    (hlaunching : answer ≠ .throw → p.point = .load → s.load.status = .launching →
      playerId ∉ s.load.ids) : playerId ∉ (p.resume tier r s answer).1.load.ids := by
  obtain ⟨event, attempt, point⟩ := p
  obtain rfl : event = .leave playerId := hleave
  cases point with
  | load =>
      cases answer with
      | ok now =>
          have hgone := hlaunching (by rintro ⟨⟩) rfl
          simp only [Call.resume] at h ⊢
          split at h
          case isTrue hrejected =>
              simp only [if_pos hrejected]
              exact rejected_leave (.inl hrejected) hgone
          case isFalse hrejected =>
              split at h
              case isTrue hchanged =>
                  simp only [if_neg hrejected, if_pos hchanged]
                  exact rejected_leave (.inr (by simpa using hchanged)) hgone
              case isFalse => cases h
      | lost | throw | paid | launched => exact absurd rfl houtcome
  | save current result =>
      have hversion : answer ≠ .throw ∧ s.version = current.version := by
        cases answer with
        | lost | throw => exact absurd rfl houtcome
        | ok | paid | launched =>
            refine ⟨by rintro ⟨⟩, by_contra fun hne => houtcome ?_⟩
            simp only [Call.outcome, if_neg hne]
      have hlands : Call.lands tier s ⟨.leave playerId, attempt, .save current result⟩ answer =
          some current := by simp only [Call.lands, Call.writes, if_pos hversion]
      exact Call.Derived.leaves hp rfl rfl hlands
  | launch | saveLaunched | clearPlayers | saveReset | saveFailed => cases hbefore
  | readyLobby | hasPaid => exact absurd rfl houtcome

/-- A step that throws reads nothing. -/
theorem current_throw : Current tier s p .throw := by
  intro base hbase
  unfold Call.lands at hbase
  split at hbase
  · cases hbase
  · simp at hbase

end Calls

/-! ### Requests -/

variable {T : Type} [DecidableEq T]

/-- The player is in the roster of the lobby. -/
def Lobbies.In (l : Lobbies T) (playerId : ℕ) (tierId : T) : Prop :=
  playerId ∈ (l.stores tierId).load.ids

instance (l : Lobbies T) (playerId : ℕ) (tierId : T) : Decidable (l.In playerId tierId) := by
  unfold Lobbies.In
  infer_instance

/-- A player is in one lobby at most. -/
def Lobbies.OneQueue (l : Lobbies T) : Prop :=
  ∀ playerId a b, l.In playerId a → l.In playerId b → a = b

/-- The player whose join has read the index, and has not landed. -/
def Request.joining (q : Request T) : Option ℕ :=
  match q.point with
  | .leave _ _ | .left _ => q.event.joiner
  | .apply call => if call.launching = none then q.event.joiner else none
  | .findPlayerLobby | .setPlayerLobby => none

/-- What a request knows of the lobbies its player may still be in. -/
def Request.Knows (tiers : T → RoomTier) (l : Lobbies T) (q : Request T) : Prop :=
  match q.point with
  | .leave existing call =>
      call.Derived (tiers existing) ∧ ∃ playerId, q.event.joiner = some playerId ∧
        call.event = .leave playerId ∧
        ∀ a ≠ q.tierId, l.In playerId a → a = existing ∧ call.launching = none
  | .left _ => ∀ playerId, q.event.joiner = some playerId → ∀ a ≠ q.tierId, ¬l.In playerId a
  | .apply call =>
      call.Derived (tiers q.tierId) ∧ call.event.joiner = q.event.joiner ∧
        ∀ playerId, q.joining = some playerId → ∀ a ≠ q.tierId, ¬l.In playerId a
  | .findPlayerLobby | .setPlayerLobby => True

/-- Two joins of one player are for one lobby. -/
def Request.Apart (q q' : Request T) : Prop :=
  ∀ playerId, q.joining = some playerId → q'.joining = some playerId → q.tierId = q'.tierId

/-- The write of a request brings nobody back. -/
def Request.Current (tiers : T → RoomTier) (l : Lobbies T) (q : Request T) (answer : Answer) :
    Prop :=
  match q.point with
  | .leave existing call => Lobby.Current (tiers existing) (l.stores existing) call answer
  | .apply call => Lobby.Current (tiers q.tierId) (l.stores q.tierId) call answer
  | .findPlayerLobby | .left _ | .setPlayerLobby => True

/-- A join reads the index when it names any other lobby of the player, and its leave does not
find them in a lobby that is launching. -/
def Request.Reads (l : Lobbies T) (q : Request T) : Prop :=
  match q.point with
  | .findPlayerLobby => ∀ playerId ∈ q.event.joiner, ∀ a, a ≠ q.tierId → l.In playerId a →
      l.index.get playerId = some a
  | .leave existing ⟨_, _, .load⟩ => (l.stores existing).load.status = .launching →
      ∀ playerId ∈ q.event.joiner, ¬l.In playerId existing
  | _ => True

/-- When a join reads the index, no other join of the player to another lobby is on its way. -/
def Request.Sole (procs : Table ℕ (Request T)) (r : ℕ) (q : Request T) : Prop :=
  match q.point with
  | .findPlayerLobby => ∀ playerId ∈ q.event.joiner, ∀ r' ≠ r, ∀ q' ∈ procs.get r',
      q'.joining = some playerId → q'.tierId = q.tierId
  | _ => True

/-- The condition: a request reads what is current when it is answered, and no other request of its
player is under way. -/
def InTurn (tiers : T → RoomTier) (s : System (Lobbies T) (Request T)) :
    Act (Request T) Answer ℕ → Prop
  | .resume r c => c ≠ .throw → ∀ q ∈ s.procs.get r,
      q.Current tiers s.store c ∧ q.Reads s.store ∧ q.Sole s.procs r
  | _ => True

section Requests
variable {tiers : T → RoomTier} {l l' : Lobbies T} {q q' : Request T} {answer : Answer}
  {r playerId : ℕ} {a tierId : T}

/-- A call of one lobby leaves the others. -/
theorem resume_in {call : Call} :
    (l.resume tiers r tierId call answer).1.In playerId a ↔
      if a = tierId then
        playerId ∈ (call.resume (tiers tierId) r (l.stores tierId) answer).1.load.ids
      else l.In playerId a := by
  by_cases e : a = tierId
  · subst e
    simp [Lobbies.In, Lobbies.resume]
  · simp [Lobbies.In, Lobbies.resume, e]

/-- A call of a request adds nobody but the player who joins. -/
theorem resume_grows {call : Call} (hcall : call.Derived (tiers tierId))
    (hcurrent : Current (tiers tierId) (l.stores tierId) call answer)
    (h : (l.resume tiers r tierId call answer).1.In playerId a) :
    l.In playerId a ∨ a = tierId ∧ call.event.joiner = some playerId ∧ call.launching = none := by
  rw [resume_in] at h
  split at h
  case isTrue e =>
      subst e
      exact (hcall.ids hcurrent h).imp_right fun h => ⟨rfl, h⟩
  case isFalse => exact .inl h

/-- What a request leaves of the lobbies. -/
theorem Request.resume_stores :
    (q.resume tiers r l answer).1.stores =
      match q.point with
      | .leave existing call => (l.resume tiers r existing call answer).1.stores
      | .apply call => (l.resume tiers r q.tierId call answer).1.stores
      | .findPlayerLobby | .left _ | .setPlayerLobby => l.stores := by
  obtain ⟨tierId, event, point⟩ := q
  cases point with
  | findPlayerLobby =>
      cases event with
      | join playerId nickname wallet =>
          cases answer with
          | ok now =>
              rw [Request.resume_find]
              rcases l.index.get playerId with _ | existing
              · rfl
              · by_cases e : existing = tierId <;> simp [e]
          | lost | throw | paid | launched => rfl
      | leave | ready | tick | launched | «open» | close | reset => cases answer <;> rfl
  | leave existing call =>
      rw [Request.resume_leave]
      rcases (l.resume tiers r existing call answer).2 with _ | call'
      · cases call.outcome (tiers existing) (l.stores existing) answer <;> rfl
      · rfl
  | left existing =>
      cases event with
      | join => cases answer <;> rfl
      | leave | ready | tick | launched | «open» | close | reset => rfl
  | apply call =>
      rw [Request.resume_apply]
      rcases (l.resume tiers r tierId call answer).2 with _ | call'
      · cases call.outcome (tiers tierId) (l.stores tierId) answer <;> cases event <;> rfl
      · rfl
  | setPlayerLobby => cases answer <;> cases event <;> rfl

/-- A request adds nobody but the player whose join lands. -/
theorem Request.Knows.grows (hq : q.Knows tiers l) (hcurrent : q.Current tiers l answer)
    (h : (q.resume tiers r l answer).1.In playerId a) :
    l.In playerId a ∨ a = q.tierId ∧ q.joining = some playerId ∧
      ∀ b ≠ q.tierId, ¬l.In playerId b := by
  rw [Lobbies.In, Request.resume_stores] at h
  obtain ⟨tierId, event, point⟩ := q
  cases point with
  | leave existing call =>
      obtain ⟨hcall, leaver, -, hleave, -⟩ := hq
      rcases resume_grows hcall hcurrent h with hin | ⟨-, hjoin, -⟩
      · exact .inl hin
      · exact nomatch (hleave ▸ hjoin :)
  | apply call =>
      obtain ⟨hcall, hevent, halone⟩ := hq
      rcases resume_grows hcall hcurrent h with hin | ⟨rfl, hjoin, hlaunch⟩
      · exact .inl hin
      · have hjoining : Request.joining ⟨a, event, .apply call⟩ = some playerId := by
          show (if call.launching = none then event.joiner else none) = some playerId
          rw [if_pos hlaunch]
          exact hevent ▸ hjoin
        exact .inr ⟨rfl, hjoining, halone playerId hjoining⟩
  | findPlayerLobby | left | setPlayerLobby => exact .inl h

omit [DecidableEq T] in
/-- A join that is to be applied, when its player is in no other lobby. -/
theorem knows_apply {event : LobbyEvent}
    (h : ∀ playerId, event.joiner = some playerId → ∀ a ≠ tierId, ¬l.In playerId a) :
    Request.Knows tiers l ⟨tierId, event, .apply ⟨event, 0, .load⟩⟩ :=
  ⟨trivial, rfl, h⟩

/-- The leave inside a join, from one await to the next. -/
theorem knows_leave {event : LobbyEvent} {existing : T} {call : Call}
    (hq : Request.Knows tiers l ⟨tierId, event, .leave existing call⟩)
    (hcurrent : Current (tiers existing) (l.stores existing) call answer)
    (hreads : answer ≠ .throw → Request.Reads l ⟨tierId, event, .leave existing call⟩)
    (h : (Request.resume tiers r l ⟨tierId, event, .leave existing call⟩ answer).2 = some q') :
    q'.Knows tiers (Request.resume tiers r l ⟨tierId, event, .leave existing call⟩ answer).1 ∧
      q'.tierId = tierId ∧ (q'.joining = event.joiner) := by
  obtain ⟨hcall, playerId, hjoiner, hleave, hwhere⟩ := hq
  have hother : ∀ a, (l.resume tiers r existing call answer).1.In playerId a →
      a ≠ tierId → l.In playerId a ∧ a = existing ∧ call.launching = none := by
    intro a hin hne
    rcases resume_grows hcall hcurrent hin with hold | ⟨-, hjoin, -⟩
    · exact ⟨hold, hwhere a hne hold⟩
    · exact nomatch (hleave ▸ hjoin :)
  cases hnext : (l.resume tiers r existing call answer).2 with
  | some call' =>
      simp only [Request.resume_leave, hnext, Option.some.injEq] at h ⊢
      subst h
      refine ⟨⟨Call.Derived.of_resume hnext, playerId, hjoiner,
        (resume_joiner hnext).2 playerId hleave, fun a hne hin => ?_⟩, rfl, rfl⟩
      obtain ⟨hold, rfl, hbefore⟩ := hother a hin hne
      refine ⟨rfl, by_contra fun hafter => ?_⟩
      have hout := hcall.leave_launches hleave hnext hbefore hafter
      rw [resume_in, if_pos rfl] at hin
      exact hout hin
  | none =>
      -- the leave has ended, and the player is in no other lobby unless it threw
      have hgone : call.outcome (tiers existing) (l.stores existing) answer ≠ .thrown →
          ∀ id, event.joiner = some id → ∀ a ≠ tierId,
            ¬(l.resume tiers r existing call answer).1.In id a := by
        intro houtcome id hid a hne hin
        obtain rfl := Option.some.inj (hjoiner.symm.trans hid)
        obtain ⟨hold, rfl, hbefore⟩ := hother a hin hne
        have hout := hcall.leave_ends hleave hnext hbefore houtcome
          fun hanswer hpoint hstatus => by
            obtain ⟨_, _, point⟩ := call
            obtain rfl : point = .load := hpoint
            exact hreads hanswer hstatus playerId hjoiner
        rw [resume_in, if_pos rfl] at hin
        exact hout hin
      cases houtcome : call.outcome (tiers existing) (l.stores existing) answer with
      | done =>
          simp only [Request.resume_leave, hnext, houtcome, Option.some.injEq] at h ⊢
          subst h
          exact ⟨hgone (by rw [houtcome]; nofun), rfl, rfl⟩
      | rejected =>
          simp only [Request.resume_leave, hnext, houtcome, Option.some.injEq] at h ⊢
          subst h
          exact ⟨knows_apply (hgone (by rw [houtcome]; nofun)), rfl, rfl⟩
      | thrown =>
          simp only [Request.resume_leave, hnext, houtcome] at h
          cases h

/-- A call of a request, from one await to the next. -/
theorem knows_call {event : LobbyEvent} {call : Call}
    (hq : Request.Knows tiers l ⟨tierId, event, .apply call⟩)
    (h : (Request.resume tiers r l ⟨tierId, event, .apply call⟩ answer).2 = some q') :
    q'.Knows tiers (Request.resume tiers r l ⟨tierId, event, .apply call⟩ answer).1 ∧
      q'.tierId = tierId ∧ ∀ playerId, q'.joining = some playerId →
        Request.joining ⟨tierId, event, .apply call⟩ = some playerId := by
  obtain ⟨hcall, hevent, halone⟩ := hq
  cases hnext : (l.resume tiers r tierId call answer).2 with
  | some call' =>
      simp only [Request.resume_apply, hnext, Option.some.injEq] at h ⊢
      subst h
      have hjoining : ∀ id, Request.joining ⟨tierId, event, .apply call'⟩ = some id →
          Request.joining ⟨tierId, event, .apply call⟩ = some id := by
        intro id hid
        simp only [Request.joining] at hid ⊢
        split at hid
        case isTrue hafter => rwa [if_pos (launching_of_resume hnext hafter)]
        case isFalse => cases hid
      refine ⟨⟨Call.Derived.of_resume hnext, (resume_joiner hnext).1.trans hevent,
        fun id hid a hne hin => ?_⟩, rfl, hjoining⟩
      rw [resume_in, if_neg hne] at hin
      exact halone id (hjoining id hid) a hne hin
  | none =>
      cases houtcome : call.outcome (tiers tierId) (l.stores tierId) answer with
      | done =>
          cases event with
          | join | leave =>
              simp only [Request.resume_apply, hnext, houtcome, Option.some.injEq] at h ⊢
              subst h
              exact ⟨trivial, rfl, nofun⟩
          | ready | tick | launched | «open» | close | reset =>
              simp only [Request.resume_apply, hnext, houtcome] at h
              cases h
      | rejected | thrown =>
          simp only [Request.resume_apply, hnext, houtcome] at h
          cases h

omit [DecidableEq T] in
/-- What is in turn is read as it is. -/
theorem current_of_answer (hturn : answer ≠ .throw → q.Current tiers l answer) :
    q.Current tiers l answer := by
  by_cases hanswer : answer = .throw
  · subst hanswer
    obtain ⟨tierId, event, point⟩ := q
    cases point with
    | leave | apply => exact current_throw
    | findPlayerLobby | left | setPlayerLobby => trivial
  · exact hturn hanswer

/-- A join that reads the index. -/
theorem knows_find {event : LobbyEvent}
    (hreads : answer ≠ .throw → Request.Reads l ⟨tierId, event, .findPlayerLobby⟩)
    (h : (Request.resume tiers r l ⟨tierId, event, .findPlayerLobby⟩ answer).2 = some q') :
    q'.Knows tiers l ∧ q'.tierId = tierId ∧ q'.joining = event.joiner ∧
      (Request.resume tiers r l ⟨tierId, event, .findPlayerLobby⟩ answer).1 = l ∧
        answer ≠ .throw := by
  cases event with
  | join playerId nickname wallet =>
      cases answer with
      | ok now =>
          have hnamed := hreads nofun playerId rfl
          have halone : (∀ a ≠ tierId, l.index.get playerId ≠ some a) →
              ∀ id, (LobbyEvent.join playerId nickname wallet).joiner = some id →
                ∀ a ≠ tierId, ¬l.In id a := by
            intro hindex id hid a hne hin
            obtain rfl := Option.some.inj hid
            exact hindex a hne (hnamed a hne hin)
          cases hindex : l.index.get playerId with
          | none =>
              simp only [Request.resume_find, hindex, Option.some.injEq] at h ⊢
              subst h
              exact ⟨knows_apply (halone fun a _ => hindex ▸ nofun), rfl, rfl, trivial, nofun⟩
          | some existing =>
              by_cases hsame : existing = tierId
              · simp only [Request.resume_find, hindex, hsame, ne_eq, not_true_eq_false, if_false,
                  Option.some.injEq] at h ⊢
                subst h
                refine ⟨knows_apply (halone fun a hne e => ?_), rfl, rfl, trivial, nofun⟩
                exact hne ((Option.some.inj (hindex.symm.trans e)).symm.trans hsame)
              · simp only [Request.resume_find, hindex, ne_eq, hsame, not_false_eq_true, if_true,
                  Option.some.injEq] at h ⊢
                subst h
                refine ⟨⟨trivial, playerId, rfl, rfl, fun a hne hin => ?_⟩, rfl, rfl,
                  trivial, nofun⟩
                have hname := hnamed a hne hin
                exact ⟨Option.some.inj (hname.symm.trans hindex), rfl⟩
      | lost | throw | paid | launched => cases h
  | leave | ready | tick | launched | «open» | close | reset => cases answer <;> cases h

/-- What a request knows follows it to its next await. -/
theorem Request.Knows.next (hq : q.Knows tiers l) (hcurrent : q.Current tiers l answer)
    (hreads : answer ≠ .throw → q.Reads l) (h : (q.resume tiers r l answer).2 = some q') :
    q'.Knows tiers (q.resume tiers r l answer).1 ∧ q'.tierId = q.tierId ∧
      ∀ playerId, q'.joining = some playerId → q.joining = some playerId ∨
        q.point = .findPlayerLobby ∧ q.event.joiner = some playerId ∧ answer ≠ .throw := by
  obtain ⟨tierId, event, point⟩ := q
  cases point with
  | findPlayerLobby =>
      obtain ⟨hknows, htier, hjoining, hstore, hanswer⟩ := knows_find hreads h
      refine ⟨?_, htier, fun id hid => .inr ⟨rfl, hjoining.symm.trans hid, hanswer⟩⟩
      rw [hstore]
      exact hknows
  | leave existing call =>
      obtain ⟨hknows, htier, hjoining⟩ :=
        knows_leave hq hcurrent hreads h
      exact ⟨hknows, htier, fun id hid => .inl (hjoining.symm.trans hid)⟩
  | left existing =>
      cases event with
      | join playerId nickname wallet =>
          cases answer with
          | ok now =>
              cases h
              exact ⟨knows_apply hq, rfl, fun id hid => .inl hid⟩
          | lost | throw | paid | launched => cases h
      | leave | ready | tick | launched | «open» | close | reset => cases answer <;> cases h
  | apply call =>
      obtain ⟨hknows, htier, hjoining⟩ := knows_call hq h
      exact ⟨hknows, htier, fun id hid => .inl (hjoining id hid)⟩
  | setPlayerLobby => cases answer <;> cases event <;> cases h

omit [DecidableEq T] in
/-- What a request knows stays, when only a join of another player, or to the same lobby,
lands. -/
theorem Request.Knows.stays (hq' : q'.Knows tiers l)
    (hgrows : ∀ playerId a, l'.In playerId a →
      l.In playerId a ∨ a = q.tierId ∧ q.joining = some playerId)
    (hapart : q.Apart q') : q'.Knows tiers l' := by
  -- nobody who joins with `q'` is added to another lobby
  have hadds : ∀ id, q'.joining = some id → ∀ a ≠ q'.tierId, l'.In id a → l.In id a := by
    intro id hid a hne hin
    rcases hgrows id a hin with hold | ⟨rfl, hjoining⟩
    · exact hold
    · exact absurd (hapart id hjoining hid) hne
  obtain ⟨tierId, event, point⟩ := q'
  cases point with
  | leave existing call =>
      obtain ⟨hcall, playerId, hjoiner, hleave, hwhere⟩ := hq'
      exact ⟨hcall, playerId, hjoiner, hleave,
        fun a hne hin => hwhere a hne (hadds playerId hjoiner a hne hin)⟩
  | left existing =>
      exact fun id hid a hne hin => hq' id hid a hne (hadds id hid a hne hin)
  | apply call =>
      obtain ⟨hcall, hevent, halone⟩ := hq'
      exact ⟨hcall, hevent, fun id hid a hne hin => halone id hid a hne (hadds id hid a hne hin)⟩
  | findPlayerLobby | setPlayerLobby => trivial

end Requests

/-! ### Runs -/

/-- The rule's invariant: one queue for each player. -/
theorem requests_keep (tiers : T → RoomTier) :
    (requests tiers).Keeps (InTurn tiers) Lobbies.OneQueue (fun l _ q => q.Knows tiers l)
      Request.Apart where
  symm q q' h playerId hq' hq := (h playerId hq hq').symm
  start := by
    rintro s r ⟨tierId, event, point⟩ - - hstarts
    cases point with
    | findPlayerLobby => exact ⟨trivial, fun _ _ h => by cases h⟩
    | apply call =>
        simp only [requests, Bool.and_eq_true, decide_eq_true_eq] at hstarts
        obtain ⟨⟨hjoiner, hevent⟩, hcall⟩ := hstarts
        have hnone : event.joiner = none := Option.isNone_iff_eq_none.mp hjoiner
        have hjoining : Request.joining ⟨tierId, event, .apply call⟩ = none := by
          show (if call.launching = none then event.joiner else none) = none
          rw [hnone, ite_self]
        refine ⟨⟨Call.Derived.of_starts hcall, hevent ▸ rfl, fun id hid => ?_⟩, fun _ id hid => ?_⟩
        · exact nomatch hjoining.symm.trans hid
        · exact nomatch hjoining.symm.trans hid
    | leave | left | setPlayerLobby => cases hstarts
  resume := by
    rintro s r q answer ⟨hone, hknows, hapart⟩ hq hg
    have hself := hknows r q hq
    have hturn := fun hanswer : answer ≠ .throw => hg hanswer q hq
    have hcurrent := current_of_answer fun hanswer => (hturn hanswer).1
    have hgrows := fun id a h => @Request.Knows.grows T _ tiers s.store q answer r id a
      hself hcurrent h
    refine ⟨?_, fun q' hq' => ?_, fun r' hne q' hq' => ?_⟩
    · -- one queue
      intro id a b ha hb
      rcases hgrows id a ha with ha | ⟨rfl, -, halone⟩ <;>
        rcases hgrows id b hb with hb | ⟨rfl, -, halone'⟩
      · exact hone id a b ha hb
      · exact by_contra fun hne => halone' a hne ha
      · exact by_contra fun hne => halone b (Ne.symm hne) hb
      · rfl
    · obtain ⟨hknows', htier, hjoining⟩ :=
        hself.next hcurrent (fun hanswer => (hturn hanswer).2.1) hq'
      refine ⟨hknows', fun r' hne q'' hq'' id hid hid'' => ?_⟩
      rw [htier]
      rcases hjoining id hid with hold | ⟨hpoint, hjoiner, hanswer⟩
      · exact hapart r r' q q'' hne.symm hq hq'' id hold hid''
      · have hsole := (hturn hanswer).2.2
        simp only [Request.Sole, hpoint] at hsole
        exact (hsole id hjoiner r' hne q'' hq'' hid'').symm
    · refine (hknows r' q' hq').stays (q := q) (fun id a hin => ?_)
        (hapart r r' q q' hne.symm hq hq')
      exact (hgrows id a hin).imp_right fun h => ⟨h.1, h.2.1⟩
  other := by
    rintro s playerId l ⟨hone, hknows, -⟩ - h
    cases h
    exact ⟨hone, hknows⟩

def noRequests : System (Lobbies T) (Request T) := ⟨noLobbies, .empty⟩

/-- **One queue per player.**  In a run in turn, no player is in the rosters of two lobbies. -/
theorem one_queue (tiers : T → RoomTier) {s : System (Lobbies T) (Request T)}
    (hs : Reachable (Guarded (requests tiers).Step (InTurn tiers)) (noRequests = ·) s) :
    ∀ playerId a b, s.store.In playerId a → s.store.In playerId b → a = b := by
  refine ((requests_keep tiers).reachable ?_ hs).1
  rintro s rfl
  exact ⟨fun _ _ _ h => (List.not_mem_nil h).elim, .empty, fun _ _ _ _ _ h => by cases h⟩

/-! ### Requests one after the other -/

section Single
variable (tiers : T → RoomTier)

/-- Only request 0 runs. -/
def Single (s : System (Lobbies T) (Request T)) (a : Act (Request T) Answer ℕ) : Prop :=
  a.proc = some 0 ∧ match a with
    | .resume r c => c ≠ .throw → ∀ q ∈ s.procs.get r, q.Current tiers s.store c ∧ q.Reads s.store
    | _ => True

/-- A single request is in turn. -/
theorem single_inTurn {init : System (Lobbies T) (Request T) → Prop}
    (h₀ : ∀ s, init s → s.procs = .empty) {s : System (Lobbies T) (Request T)}
    (hs : Reachable (Guarded (requests tiers).Step (Single tiers)) init s) :
    Reachable (Guarded (requests tiers).Step (InTurn tiers)) init s := by
  obtain ⟨s₀, as, hinit, hrun⟩ := hs
  refine ⟨s₀, as, hinit, hrun.under (I := fun s => ∀ r ≠ 0, s.procs.get r = none) ?_ ?_ ?_⟩
  · rintro s a s' hnone ⟨hstep, hproc, -⟩ r hr
    rw [(requests tiers).step_frame hstep (r := r) (hproc ▸ fun e => hr (Option.some.inj e).symm)]
    exact hnone r hr
  · rintro s a s' hnone ⟨hstep, hproc, hg⟩
    refine ⟨hstep, ?_⟩
    cases a with
    | resume r c =>
        obtain rfl : r = 0 := Option.some.inj hproc
        intro hanswer q hq
        obtain ⟨hcurrent, hreads⟩ := hg hanswer q hq
        refine ⟨hcurrent, hreads, ?_⟩
        unfold Request.Sole
        split
        · intro playerId _ r' hne q' hq'
          exact nomatch (hnone r' hne).symm.trans hq'
        · trivial
    | start | crash | other => trivial
  · rintro r -
    rw [h₀ s₀ hinit, Table.get_empty]

instance (l : Lobbies T) (q : Request T) (c : Answer) : Decidable (q.Current tiers l c) := by
  unfold Request.Current
  rcases q.point <;> dsimp only <;> infer_instance

variable [Fintype T]

instance (l : Lobbies T) (q : Request T) : Decidable (q.Reads l) := by
  unfold Request.Reads
  rcases q.point with _ | ⟨_, _, _, point⟩ | _ | _ | _
  on_goal 2 => rcases point
  all_goals
    dsimp only
    infer_instance

instance (s : System (Lobbies T) (Request T)) (a : Act (Request T) Answer ℕ) :
    Decidable (Single tiers s a) :=
  match a with
  | .resume r c => inferInstanceAs (Decidable (_ ∧ (c ≠ .throw → ∀ q ∈ s.procs.get r, _)))
  | .start _ _ => inferInstanceAs (Decidable (_ ∧ True))
  | .crash _ => inferInstanceAs (Decidable (_ ∧ True))
  | .other _ => inferInstanceAs (Decidable (_ ∧ True))

end Single

/-- Player 7 joins the lobby. -/
def joins (tierId : Bool) : Request Bool := ⟨tierId, .join 7 "ada" (.key 7), .findPlayerLobby⟩

/-- Player 7 joins one lobby and then the other: they leave the first. -/
theorem one_queue_twice : ∃ s : System (Lobbies Bool) (Request Bool), s.store.In 7 true ∧
    ∀ playerId a b, s.store.In playerId a → s.store.In playerId b → a = b := by
  have hrun : ((requests fun _ : Bool => practice).actsWhen (Single fun _ => practice) noRequests
      [.start 0 (joins false), .resume 0 (.ok 0), .resume 0 (.ok 0), .resume 0 (.ok 0),
        .resume 0 (.ok 0),
        .start 0 (joins true), .resume 0 (.ok 0), .resume 0 (.ok 0), .resume 0 (.ok 0),
        .resume 0 (.ok 0), .resume 0 (.ok 0), .resume 0 (.ok 0), .resume 0 (.ok 0)]).any
      (fun s => decide (s.store.In 7 true ∧ ¬s.store.In 7 false)) = true := by
    decide
  obtain ⟨s, hs, htest⟩ :=
    (requests fun _ : Bool => practice).reachable_of_actsWhen (Eq.refl noRequests) hrun
  have hs := single_inTurn _ (fun s (e : noRequests = s) => e ▸ rfl) hs
  exact ⟨s, (of_decide_eq_true htest).1, one_queue _ hs⟩

/-- Two joins of player 7 both read the index before either has written it. -/
theorem one_queue_both : ¬ ∀ (T : Type) [DecidableEq T] (tiers : T → RoomTier)
    (s : System (Lobbies T) (Request T)), Reachable (requests tiers).Step (noRequests = ·) s →
      ∀ playerId a b, s.store.In playerId a → s.store.In playerId b → a = b := by
  intro hclaim
  have hrun : ((requests fun _ : Bool => practice).acts noRequests
      [.start 0 (joins false), .start 1 (joins true), .resume 0 (.ok 0), .resume 1 (.ok 0),
        .resume 0 (.ok 0), .resume 0 (.ok 0), .resume 1 (.ok 0), .resume 1 (.ok 0)]).any
      (fun s => decide (s.store.In 7 true ∧ s.store.In 7 false)) = true := by
    decide
  obtain ⟨s, hs, htest⟩ :=
    (requests fun _ : Bool => practice).reachable_of_acts (Eq.refl noRequests) hrun
  obtain ⟨htrue, hfalse⟩ := of_decide_eq_true htest
  exact nomatch hclaim Bool _ s hs 7 true false htrue hfalse

end SnakeArena.Lobby
