import SnakeArena.Lobby.Launches

/-!
# Lobby — a version names one state

The compare-and-set trusts that a version names one state.  A `Journal` is the store with every
save that landed (what it wrote, what its writer derived it from, and what it replaced), and with
who was launched.

Two places break the trust.  A tick saves without a bump.  And a launch whose `launched` save
was refused still expects, for its final reset, the version that save would have written; an
`open` in between has exactly that version.  `InOrder` excludes the two.
-/

namespace SnakeArena.Lobby
open SnakeArena.Library

/-- A save that landed. -/
structure Saved where
  /-- The call, at the await it saved at. -/
  call : Call
  state : LobbyState
  /-- What the writer derived it from. -/
  base : LobbyState
  replaced : LobbyState

structure Journal where
  store : Store
  saves : List Saved
  /-- The entries handed to a launch that succeeded. -/
  succeeded : List ℕ

/-- What a call writes at its await when the write goes through, and what it derived that from. -/
def Call.writes (tier : RoomTier) (p : Call) : Option (LobbyState × LobbyState) :=
  match p.point with
  | .save current result => some (result.state, current)
  | .saveLaunched state marked => some (marked, state)
  | .saveReset _ marked => some ((reduceLobby marked .reset tier 0).state, marked)
  | .saveFailed state => some ((reduceLobby state .reset tier 0).state, state)
  | _ => none

/-- The base of the save that an answer lets land. -/
def Call.lands (tier : RoomTier) (s : Store) (p : Call) (answer : Answer) : Option LobbyState :=
  match p.writes tier with
  | none => none
  | some (_, base) => if answer ≠ .throw ∧ s.version = base.version then some base else none

/-- The write of the call leaves nobody in the lobby. -/
def Call.clears (p : Call) : Bool :=
  match p.point with
  | .save _ _ => p.event = .reset
  | .saveReset _ _ | .saveFailed _ => true
  | _ => false

/-- A call, with its saves noted. -/
def Journal.resume (tier : RoomTier) (r : ℕ) (j : Journal) (p : Call) (answer : Answer) :
    Journal × Option Call :=
  let out := p.resume tier r j.store answer
  (⟨out.1,
    match p.lands tier j.store answer with
    | none => j.saves
    | some base => j.saves ++ [⟨p, out.1.load, base, j.store.load⟩],
    match p.point, answer with
    | .launch state, .launched _ _ => j.succeeded ++ state.players.map (·.joinedVersion)
    | _, _ => j.succeeded⟩, out.2)

/-- The calls `M` makes, with a journal. -/
def journal (tier : RoomTier) (M : Processes Store Call Answer Empty) :
    Processes Journal Call Answer Empty where
  starts := M.starts
  resume := Journal.resume tier
  other _ e := nomatch e

def noSaves : System Journal Call := ⟨⟨noLobby.store, [], []⟩, .empty⟩

/-! ### One state for a version -/

namespace Journal
variable {tier : RoomTier} {j j' : Journal} {state : LobbyState}

structure Linear (j : Journal) : Prop where
  le : ∀ w ∈ j.saves, w.state.version ≤ j.store.load.version
  /-- The lobby in the store is the one saved last. -/
  current : ∀ w ∈ j.saves, w.state.version = j.store.load.version → w.state = j.store.load
  unique : ∀ a ∈ j.saves, ∀ b ∈ j.saves, a.state.version = b.state.version → a.state = b.state
  derived : ∀ w ∈ j.saves, w.replaced = w.base

/-- `state` was in the store, and is for as long as the version stays. -/
def Seen (j : Journal) (state : LobbyState) : Prop :=
  state.version ≤ j.store.load.version ∧
    (j.store.load.version = state.version → j.store.load = state)

/-- The saves stay linear, and the lobby stays or gets a new version. -/
structure Extends (j j' : Journal) : Prop where
  linear : j'.Linear
  load : j'.store.load = j.store.load ∨ j.store.load.version < j'.store.load.version

theorem Extends.seen (h : j.Extends j') (hs : j.Seen state) : j'.Seen state := by
  obtain ⟨hle, hsame⟩ := hs
  obtain e | hlt := h.load
  · exact ⟨e ▸ hle, e ▸ hsame⟩
  · exact ⟨by omega, fun e => by omega⟩

theorem Linear.stays (h : j.Linear) {store : Store} (hload : store.load = j.store.load)
    (succeeded : List ℕ) : j.Extends ⟨store, j.saves, succeeded⟩ where
  linear := by
    refine ⟨?_, ?_, h.unique, h.derived⟩ <;> simp only [hload]
    · exact h.le
    · exact h.current
  load := .inl hload

/-- A save over what it was derived from, with a new version. -/
theorem Linear.saved (h : j.Linear) {store : Store} {p : Call}
    (hnew : store.load.version = j.store.load.version + 1) (succeeded : List ℕ) :
    j.Extends ⟨store, j.saves ++ [⟨p, store.load, j.store.load, j.store.load⟩], succeeded⟩ where
  linear := by
    have hlt : ∀ w ∈ j.saves, w.state.version < store.load.version := fun w hw => by
      have := h.le w hw
      omega
    refine ⟨fun w hw => ?_, fun w hw e => ?_, fun a ha b hb e => ?_, fun w hw => ?_⟩
    · obtain hw | hw := List.mem_append.mp hw
      · exact (hlt w hw).le
      · obtain rfl := List.mem_singleton.mp hw
        exact le_rfl
    · obtain hw | hw := List.mem_append.mp hw
      · exact absurd e (hlt w hw).ne
      · obtain rfl := List.mem_singleton.mp hw
        rfl
    · obtain ha | ha := List.mem_append.mp ha <;> obtain hb | hb := List.mem_append.mp hb
      · exact h.unique a ha b hb e
      · obtain rfl := List.mem_singleton.mp hb
        exact absurd e (hlt a ha).ne
      · obtain rfl := List.mem_singleton.mp ha
        exact absurd e (hlt b hb).ne'
      · obtain rfl := List.mem_singleton.mp ha
        obtain rfl := List.mem_singleton.mp hb
        rfl
    · obtain hw | hw := List.mem_append.mp hw
      · exact h.derived w hw
      · obtain rfl := List.mem_singleton.mp hw
        rfl
  load := .inr (by simp only; omega)

end Journal

/-! ### What an await does to the lobby -/

section Resume
variable {tier : RoomTier} {s : Store} {p : Call} {answer : Answer} {r : ℕ}

theorem save_getD {state : LobbyState} {expectedVersion : ℕ} :
    (s.version ≠ expectedVersion → s.save state expectedVersion = none) ∧
      (s.version = expectedVersion → ∃ s', s.save state expectedVersion = some s' ∧
        (∃ countdown, s'.load = { state with countdown }) ∧
        (state.status ≠ .countdown → s'.load = state)) := by
  refine ⟨fun h => if_neg h, fun h => ?_⟩
  unfold Store.save
  rw [if_pos h]
  split
  case isTrue hnew => exact ⟨_, rfl, ⟨_, rfl⟩, fun hstatus => absurd hnew.1 hstatus⟩
  case isFalse => exact ⟨_, rfl, ⟨_, rfl⟩, fun _ => rfl⟩

/-- An await whose write does not land leaves the lobby. -/
theorem resume_load_of_none (h : p.lands tier s answer = none) :
    (p.resume tier r s answer).1.load = s.load := by
  obtain ⟨event, attempt, point⟩ := p
  have hsave : ∀ state base : LobbyState, answer ≠ .throw →
      (if answer ≠ .throw ∧ s.version = base.version then some base else none) = none →
      s.save state base.version = none := fun state base hanswer hnone =>
    save_getD.1 fun e => by simp [hanswer, e] at hnone
  cases point with
  | readyLobby =>
      cases answer with
      | ok now =>
          simp only [Call.resume]
          split <;> rfl
      | lost | throw | paid | launched => rfl
  | hasPaid gameId =>
      cases answer with
      | paid now paid => cases paid <;> cases event <;> rfl
      | ok | lost | throw | launched => rfl
  | load =>
      cases answer with
      | ok now =>
          simp only [Call.resume]
          split
          · rfl
          · split <;> rfl
      | lost | throw | paid | launched => rfl
  | save current result =>
      cases answer with
      | throw => rfl
      | lost =>
          simp only [Call.resume, hsave result.state current (by rintro ⟨⟩) h, Option.getD_none]
      | ok | paid | launched =>
          simp only [Call.resume, hsave result.state current (by rintro ⟨⟩) h]
          split <;> rfl
  | launch state => cases answer <;> rfl
  | saveLaunched state marked =>
      cases answer with
      | throw => rfl
      | lost | ok | paid | launched =>
          simp only [Call.resume, hsave marked state (by rintro ⟨⟩) h, Option.getD_none]
  | clearPlayers state marked left => cases answer <;> rfl
  | saveReset state marked =>
      cases answer with
      | throw => rfl
      | lost | ok | paid | launched =>
          simp only [Call.resume, hsave _ marked (by rintro ⟨⟩) h, Option.getD_none]
  | saveFailed state =>
      cases answer with
      | throw => rfl
      | lost | ok | paid | launched =>
          simp only [Call.resume, hsave _ state (by rintro ⟨⟩) h, Option.getD_none]

/-- A write that lands leaves what it wrote, up to the number of a countdown that begins. -/
theorem resume_load_of_some {base : LobbyState} (h : p.lands tier s answer = some base) :
    s.load.version = base.version ∧ ∃ state, p.writes tier = some (state, base) ∧
      (∃ countdown, (p.resume tier r s answer).1.load = { state with countdown }) ∧
      (state.status ≠ .countdown → (p.resume tier r s answer).1.load = state) := by
  unfold Call.lands at h
  cases hw : p.writes tier with
  | none => simp [hw] at h
  | some out =>
      obtain ⟨state, base'⟩ := out
      simp only [hw, Option.ite_none_right_eq_some, Option.some.injEq] at h
      obtain ⟨⟨hanswer, hversion⟩, rfl⟩ := h
      obtain ⟨s', hs', hload⟩ := (@save_getD s state base'.version).2 hversion
      refine ⟨(Store.version_eq s).symm.trans hversion, state, rfl, ?_⟩
      have hout : (p.resume tier r s answer).1.load = s'.load := by
        obtain ⟨event, attempt, point⟩ := p
        cases point with
        | save current result =>
            obtain ⟨rfl, rfl⟩ := Prod.mk.inj (Option.some.inj hw)
            cases answer with
            | throw => exact absurd rfl hanswer
            | lost => simp only [Call.resume, hs', Option.getD_some]
            | ok | paid | launched =>
                simp only [Call.resume, hs']
                split <;> rfl
        | saveLaunched state₀ marked =>
            obtain ⟨rfl, rfl⟩ := Prod.mk.inj (Option.some.inj hw)
            cases answer with
            | throw => exact absurd rfl hanswer
            | lost | ok | paid | launched => simp only [Call.resume, hs', Option.getD_some]
        | saveReset state₀ marked =>
            obtain ⟨rfl, rfl⟩ := Prod.mk.inj (Option.some.inj hw)
            cases answer with
            | throw => exact absurd rfl hanswer
            | lost | ok | paid | launched => simp only [Call.resume, hs', Option.getD_some]
        | saveFailed state₀ =>
            obtain ⟨rfl, rfl⟩ := Prod.mk.inj (Option.some.inj hw)
            cases answer with
            | throw => exact absurd rfl hanswer
            | lost | ok | paid | launched => simp only [Call.resume, hs', Option.getD_some]
        | readyLobby | hasPaid | load | launch | clearPlayers => cases hw
      rw [hout]
      exact hload

/-- The lobby that the call launches. -/
def Call.launching (p : Call) : Option LobbyState :=
  match p.point with
  | .launch state | .saveLaunched state _ | .clearPlayers state _ _ | .saveReset state _
  | .saveFailed state => some state
  | _ => none

/-- Where a call waits next, once its await has left the store `s'`. -/
inductive Goes (tier : RoomTier) (s : Store) (p : Call) (answer : Answer) (s' : Store) :
    Call → Prop where
  | asks {gameId : ℕ} (hlaunch : p.launching = none) :
      Goes tier s p answer s' { p with point := .hasPaid gameId }
  | reads {event : LobbyEvent} {attempt : ℕ} (hlaunch : p.launching = none) :
      Goes tier s p answer s' ⟨event, attempt, .load⟩
  | saves (now : ℕ) (hpoint : p.point = .load) (hanswer : answer = .ok now)
      (hrejected : (reduceLobby s.load p.event tier now).rejected = none)
      (hchanged : (reduceLobby s.load p.event tier now).changed = true) :
      Goes tier s p answer s' { p with point := .save s.load (reduceLobby s.load p.event tier now) }
  | launches {current : LobbyState} {result : LobbyTransition}
      (hpoint : p.point = .save current result) (hlaunch : result.shouldLaunch = true)
      (hload : result.state.status ≠ .countdown → s'.load = result.state) :
      Goes tier s p answer s' { p with point := .launch result.state }
  | marks {state : LobbyState} {gameId : ℕ} (now : ℕ) (hpoint : p.point = .launch state) :
      Goes tier s p answer s'
        { p with
          point := .saveLaunched state (reduceLobby state (.launched gameId) tier now).state }
  | clears {state marked : LobbyState} {left : List LobbyPlayer}
      (hlaunch : p.launching = some state) :
      Goes tier s p answer s' { p with point := clearPlayers state marked left }
  | fails {state : LobbyState} (hlaunch : p.launching = some state) :
      Goes tier s p answer s' { p with point := .saveFailed state }

theorem resume_goes {p' : Call} (h : (p.resume tier r s answer).2 = some p') :
    Goes tier s p answer (p.resume tier r s answer).1 p' := by
  obtain ⟨event, attempt, point⟩ := p
  cases point with
  | readyLobby =>
      cases answer with
      | ok now =>
          simp only [Call.resume] at h
          split at h <;> cases h
          exact .asks rfl
      | lost | throw | paid | launched => cases h
  | hasPaid gameId =>
      cases answer with
      | paid now paid =>
          cases paid <;> cases event <;> cases h
          exact .reads rfl
      | ok | lost | throw | launched => cases h
  | load =>
      cases answer with
      | ok now =>
          simp only [Call.resume] at h
          split at h
          · cases h
          case isFalse hrejected =>
              split at h
              · cases h
              case isFalse hchanged =>
                  cases h
                  exact .saves now rfl rfl (not_not.mp hrejected) (not_not.mp hchanged)
      | lost | throw | paid | launched => cases h
  | save current result =>
      cases answer with
      | lost | throw => cases h
      | ok | paid | launched =>
          cases hs : s.save result.state current.version with
          | none =>
              simp only [Call.resume, hs] at h
              split at h <;> cases h
              exact .reads rfl
          | some s' =>
              by_cases hlaunch : result.shouldLaunch = true
              · simp only [Call.resume, hs, hlaunch, if_true, Option.some.injEq] at h
                subst h
                refine .launches rfl hlaunch fun hstatus => ?_
                obtain ⟨-, -, -, ⟨hload, -⟩ | ⟨-, -, e⟩⟩ := Store.save_some hs
                · simp only [Call.resume, hs, hlaunch, if_true]
                  exact hload
                · exact absurd e hstatus
              · simp only [Call.resume, hs, hlaunch] at h
                cases h
  | launch state =>
      cases answer with
      | launched now randomUUID =>
          cases h
          exact .marks now rfl
      | ok | lost | throw | paid =>
          cases h
          exact .fails rfl
  | saveLaunched state marked =>
      cases answer with
      | throw | lost =>
          cases h
          exact .fails rfl
      | ok | paid | launched =>
          cases h
          exact .clears rfl
  | clearPlayers state marked left =>
      cases answer with
      | ok =>
          cases h
          exact .clears rfl
      | lost | throw | paid | launched =>
          cases h
          exact .fails rfl
  | saveReset state marked =>
      cases answer with
      | throw | lost =>
          cases h
          exact .fails rfl
      | ok | paid | launched => cases h
  | saveFailed state => cases answer <;> cases h

/-- A call that launches stays one that does. -/
theorem launching_of_resume {p' : Call} (h : (p.resume tier r s answer).2 = some p')
    (hp' : p'.launching = none) : p.launching = none := by
  cases resume_goes h with
  | asks hlaunch | reads hlaunch => exact hlaunch
  | saves now hpoint | launches hpoint => simp only [Call.launching, hpoint]
  | marks | fails => cases hp'
  | @clears _ _ left => cases left <;> cases hp'

end Resume

/-! ### Calls -/

/-- What a call knows of the lobby, where it stops. -/
def Journal.Knows (tier : RoomTier) (j : Journal) (p : Call) : Prop :=
  match p.point with
  | .save current result => j.Seen current ∧ Reduces tier current p.event result
  | .saveLaunched state marked => j.Seen state ∧ marked.version = state.version + 1
  | .launch state | .clearPlayers state _ _ | .saveReset state _ | .saveFailed state => j.Seen state
  | .readyLobby | .hasPaid _ | .load => True

/-- No tick lands, and a launch whose `launched` save was refused does not clear the lobby. -/
def SavesInOrder (j : Journal) (p : Call) : Prop :=
  match p.point with
  | .save current _ => j.store.version = current.version → p.event ≠ .tick
  | .saveReset _ marked => j.store.version = marked.version → ∃ w ∈ j.saves, w.state = marked
  | _ => True

def InOrder (s : System Journal Call) : Act Call Answer Empty → Prop
  | .resume r c => c ≠ .throw → ∀ p ∈ s.procs.get r, SavesInOrder s.store p
  | _ => True

instance (j : Journal) (p : Call) : Decidable (SavesInOrder j p) := by
  unfold SavesInOrder
  rcases p.point <;> dsimp only <;> infer_instance

instance (s : System Journal Call) (a : Act Call Answer Empty) : Decidable (InOrder s a) :=
  match a with
  | .resume r c => inferInstanceAs (Decidable (c ≠ .throw → ∀ p ∈ s.procs.get r, _))
  | .start _ _ => inferInstanceAs (Decidable True)
  | .crash _ => inferInstanceAs (Decidable True)
  | .other _ => inferInstanceAs (Decidable True)

section Calls
variable {tier : RoomTier} {j j' : Journal} {p : Call} {answer : Answer} {r : ℕ}

/-- A call that launches has seen the lobby it launches. -/
theorem Journal.Knows.seen (hp : j.Knows tier p) {state : LobbyState}
    (h : p.launching = some state) : j.Seen state := by
  obtain ⟨event, attempt, point⟩ := p
  cases point with
  | launch | clearPlayers | saveReset | saveFailed =>
      obtain rfl := Option.some.inj h
      exact hp
  | saveLaunched =>
      obtain rfl := Option.some.inj h
      exact hp.1
  | readyLobby | hasPaid | load | save => cases h

theorem knows_cleared {event : LobbyEvent} {attempt : ℕ} {state marked : LobbyState}
    {left : List LobbyPlayer} (h : j.Seen state) :
    j.Knows tier ⟨event, attempt, clearPlayers state marked left⟩ := by
  cases left <;> exact h

theorem Journal.Extends.knows (h : j.Extends j') (hp : j.Knows tier p) : j'.Knows tier p := by
  obtain ⟨event, attempt, point⟩ := p
  cases point with
  | save current result => exact ⟨h.seen hp.1, hp.2⟩
  | saveLaunched state marked => exact ⟨h.seen hp.1, hp.2⟩
  | launch | clearPlayers | saveReset | saveFailed => exact h.seen hp
  | readyLobby | hasPaid | load => trivial

/-- An event other than a tick bumps the version. -/
theorem Reduces.bumps {state : LobbyState} {event : LobbyEvent} {t : LobbyTransition}
    (h : Reduces tier state event t) (hevent : event ≠ .tick) :
    t.state.version = state.version + 1 := by
  cases h with
  | tick => exact absurd rfl hevent
  | join _ _ ht | leave _ ht | ready _ _ _ ht => exact ht.version
  | «open» | close | launched | reset => rfl

/-- A write that lands is over the lobby it was derived from, with a new version. -/
theorem lands_over (hj : j.Linear) (hp : j.Knows tier p) (hc : answer ≠ .throw → SavesInOrder j p)
    {base : LobbyState} (h : p.lands tier j.store answer = some base) :
    j.store.load = base ∧
      (p.resume tier r j.store answer).1.load.version = j.store.load.version + 1 := by
  obtain ⟨hversion, state, hw, ⟨countdown, hload⟩, -⟩ := resume_load_of_some (r := r) h
  have hanswer : answer ≠ .throw := by
    rintro rfl
    simp [Call.lands, hw] at h
  have hstored : j.store.version = base.version := (Store.version_eq _).trans hversion
  rw [hload]
  obtain ⟨event, attempt, point⟩ := p
  cases point with
  | save current result =>
      obtain ⟨rfl, rfl⟩ := Prod.mk.inj (Option.some.inj hw)
      obtain ⟨hseen, hr⟩ := hp
      obtain rfl := hseen.2 hversion
      exact ⟨rfl, hr.bumps (hc hanswer hstored)⟩
  | saveLaunched state₀ marked =>
      obtain ⟨rfl, rfl⟩ := Prod.mk.inj (Option.some.inj hw)
      obtain ⟨hseen, hmarked⟩ := hp
      obtain rfl := hseen.2 hversion
      exact ⟨rfl, hmarked⟩
  | saveReset state₀ marked =>
      obtain ⟨rfl, rfl⟩ := Prod.mk.inj (Option.some.inj hw)
      obtain ⟨w, hmem, rfl⟩ := hc hanswer hstored
      obtain e := hj.current w hmem hversion.symm
      exact ⟨e.symm, by rw [e]; rfl⟩
  | saveFailed state₀ =>
      obtain ⟨rfl, rfl⟩ := Prod.mk.inj (Option.some.inj hw)
      obtain rfl := hp.2 hversion
      exact ⟨rfl, rfl⟩
  | readyLobby | hasPaid | load | launch | clearPlayers => cases hw

theorem resume_extends (hj : j.Linear) (hp : j.Knows tier p)
    (hc : answer ≠ .throw → SavesInOrder j p) : j.Extends (j.resume tier r p answer).1 := by
  unfold Journal.resume
  cases h : p.lands tier j.store answer with
  | none => exact hj.stays (resume_load_of_none h) _
  | some base =>
      obtain ⟨rfl, hnew⟩ := lands_over (r := r) hj hp hc h
      exact hj.saved hnew _

/-- What a call knows of the lobby follows it to its next await. -/
theorem resume_knows (hp : j.Knows tier p) (hext : j.Extends (j.resume tier r p answer).1)
    {p' : Call} (h : (j.resume tier r p answer).2 = some p') :
    (j.resume tier r p answer).1.Knows tier p' := by
  cases resume_goes h with
  | asks | reads => trivial
  | saves now hpoint hanswer hrejected hchanged =>
      exact ⟨hext.seen ⟨le_rfl, fun _ => rfl⟩, reduces hrejected hchanged⟩
  | launches hpoint hlaunch hload =>
      simp only [Journal.Knows, hpoint] at hp
      obtain ⟨-, hlaunching, -⟩ := hp.2.launches hlaunch
      have hload := hload (by rw [hlaunching]; nofun)
      exact ⟨hload ▸ le_rfl, fun _ => hload⟩
  | marks now hpoint =>
      simp only [Journal.Knows, hpoint] at hp
      exact ⟨hext.seen hp, rfl⟩
  | clears hlaunch => exact knows_cleared (hext.seen (hp.seen hlaunch))
  | fails hlaunch => exact hext.seen (hp.seen hlaunch)

end Calls

theorem service_linear (tier : RoomTier) :
    (journal tier (service tier)).Keeps InOrder Journal.Linear
      (fun j _ p => j.Knows tier p) fun _ _ => True := by
  refine .of_leads (R := Journal.Extends) (fun _ _ h => h.linear) (fun _ _ _ h => h.knows) ?_ ?_
    (fun _ e => nomatch e)
  · rintro j ⟨event, attempt, point⟩ hstarts
    cases point with
    | readyLobby | load => trivial
    | hasPaid | save | launch | saveLaunched | clearPlayers | saveReset | saveFailed =>
        cases attempt <;> cases hstarts
  · intro s r p c hj hp hknows hg
    have hext := resume_extends (r := r) hj hknows fun hc => hg hc p hp
    exact ⟨hext, fun p' => resume_knows hknows hext⟩

theorem noSaves_linear (tier : RoomTier) :
    Processes.Holds Journal.Linear (fun j _ p => j.Knows tier p) (fun _ _ => True) noSaves :=
  have h : ∀ w, w ∉ noSaves.store.saves := fun _ => List.not_mem_nil
  ⟨⟨fun w hw => absurd hw (h w), fun w hw => absurd hw (h w), fun w hw => absurd hw (h w),
    fun w hw => absurd hw (h w)⟩, .empty, fun _ _ _ _ _ _ _ => trivial⟩

/-- **A version names one state.**  In a run in order, no two states saved share a version, and
a save replaces the lobby that its writer derived it from. -/
theorem versions_linear (tier : RoomTier) {s : System Journal Call}
    (hs : Reachable (Guarded (journal tier (service tier)).Step InOrder) (noSaves = ·) s) :
    (∀ a ∈ s.store.saves, ∀ b ∈ s.store.saves,
        a.state.version = b.state.version → a.state = b.state) ∧
      ∀ w ∈ s.store.saves, w.replaced = w.base := by
  have hs := (service_linear tier).reachable
    (fun s (e : noSaves = s) => e ▸ noSaves_linear tier) hs
  exact ⟨hs.1.unique, hs.1.derived⟩

/-- Player 7 joins, and once the countdown is over `event` makes call 1 launch them. -/
def launchAfter (event : LobbyEvent) : List (Act Call Answer Empty) :=
  [.start 0 ⟨.join 7 "ada" (.key 7), 0, .load⟩, .resume 0 (.ok 0), .resume 0 (.ok 0),
    .start 1 ⟨event, 0, .load⟩, .resume 1 (.ok 10000), .resume 1 (.ok 10000)]

/-- The launch of call 1 succeeds, and it clears the lobby. -/
def clearAfter : List (Act Call Answer Empty) :=
  [.resume 1 (.launched 10000 9), .resume 1 (.ok 10000), .resume 1 (.ok 10000),
    .resume 1 (.ok 10000)]

theorem versions_linear_ready : ∃ s : System Journal Call,
    s.store.saves.map (·.state.version) = [1, 2, 3, 4] ∧
      (∀ a ∈ s.store.saves, ∀ b ∈ s.store.saves,
          a.state.version = b.state.version → a.state = b.state) ∧
        ∀ w ∈ s.store.saves, w.replaced = w.base := by
  have hrun : ((journal practice (service practice)).actsWhen InOrder noSaves
      (launchAfter (.ready 7 true none) ++ clearAfter)).any
      (fun s => decide (s.store.saves.map (·.state.version) = [1, 2, 3, 4])) = true := by
    decide
  obtain ⟨s, hs, htest⟩ :=
    (journal practice (service practice)).reachable_of_actsWhen (Eq.refl noSaves) hrun
  exact ⟨s, of_decide_eq_true htest, versions_linear practice hs⟩

/-- The tick that launches saves a second state under version 1.  In the second run, the worker
opens the lobby for game 4 during the launch: the `launched` save is refused, and the final reset
clears what was opened. -/
theorem versions_linear_launch :
    (¬ ∀ (tier : RoomTier) (s : System Journal Call),
      Reachable (journal tier (service tier)).Step (noSaves = ·) s →
        ∀ a ∈ s.store.saves, ∀ b ∈ s.store.saves,
          a.state.version = b.state.version → a.state = b.state) ∧
      ¬ ∀ (tier : RoomTier) (s : System Journal Call),
        Reachable (journal tier (service tier)).Step (noSaves = ·) s →
          ∀ w ∈ s.store.saves, w.replaced = w.base := by
  constructor <;> intro hclaim
  · have hrun : ((journal practice (service practice)).acts noSaves (launchAfter .tick)).any
        (fun s => s.store.saves.any fun a => s.store.saves.any fun b =>
          decide (a.state.version = b.state.version ∧ a.state ≠ b.state)) = true := by
      decide
    obtain ⟨s, hs, htest⟩ :=
      (journal practice (service practice)).reachable_of_acts (Eq.refl noSaves) hrun
    simp only [List.any_eq_true, decide_eq_true_iff] at htest
    obtain ⟨a, ha, b, hb, hversion, hne⟩ := htest
    exact hne (hclaim practice s hs a ha b hb hversion)
  · have hrun : ((journal practice (service practice)).acts noSaves
        (launchAfter (.ready 7 true none) ++
          [.start 2 ⟨.open (some 4) true, 0, .load⟩, .resume 2 (.ok 10000),
            .resume 2 (.ok 10000)] ++ clearAfter)).any
        (fun s => s.store.saves.any fun w =>
          decide (w.replaced.gameId = some 4 ∧ w.base.gameId = some 9)) = true := by
      decide
    obtain ⟨s, hs, htest⟩ :=
      (journal practice (service practice)).reachable_of_acts (Eq.refl noSaves) hrun
    simp only [List.any_eq_true, decide_eq_true_iff] at htest
    obtain ⟨w, hw, hreplaced, hbase⟩ := htest
    have hsame := hclaim practice s hs w hw
    rw [hsame, hbase] at hreplaced
    exact absurd hreplaced (by decide)

end SnakeArena.Lobby
