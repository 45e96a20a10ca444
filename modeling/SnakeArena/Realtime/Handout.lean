import SnakeArena.Realtime.Admission

/-!
# Realtime — how long a ticket is good that was handed out

Every ticket that is stored or answered was minted, and expires when its claims say so.  A ticket
that `/matchmake` mints is answered with that time.  A ticket that a launch staged is answered with
a time counted from when it is collected, and a launch may have staged it long before.

* `handed_out`: where a staged ticket is collected when it was minted, every ticket is good until
  the time it was answered with.
-/

namespace SnakeArena.Realtime
open SnakeArena.Library SnakeArena.Matchmaker

section Handing
variable (config : MatchConfig)

/-- The ticket was minted, and does not expire before that time. -/
def Good (s : Store) (ticket : String) (time : ℕ) : Prop :=
  ∃ claims ∈ s.history.minted,
    ticket = mintTicket config.format claims config.jwtSecret ∧ time ≤ claims.expiresAt

structure Handing (s : Store) : Prop where
  dated : ∀ claims ∈ s.history.minted, claims.expiresAt = claims.issuedAt + ticketTtlMs
  tickets : s.tickets.All fun _ held => Good config s held.value 0
  responses : ∀ response ∈ s.history.responses, Good config s response.ticket response.expiresAt

/-- What a request holds that waits there. -/
def MatchHanded (s : Store) : MatchPoint → Prop
  | .moveStaged _ issued | .noteStaged _ issued | .delStaged _ issued | .delTicket _ issued _ =>
      Good config s issued 0
  | .setTicket minted | .setNote minted => Good config s minted.ticket minted.expiresAt
  | _ => True

def LaunchHanded (s : Store) : LaunchPoint → Prop
  | .setTicket _ _ ticket _ _ => Good config s ticket 0
  | _ => True

def Flow.Handed (s : Store) : Flow → Prop
  | .matchmake p => MatchHanded config s p.point
  | .launch p => LaunchHanded config s p.point
  | .handshake _ => True

/-- What a step keeps. -/
def Hands (s s' : Store) : Prop := s.history.minted ⊆ s'.history.minted ∧ Handing config s'

end Handing

variable {config : MatchConfig} {s s' s'' : Store}

/-! ### The store -/

/-- A ticket that was minted stays minted. -/
theorem Good.mono {ticket : String} {time : ℕ} (h : Good config s ticket time)
    (hsub : s.history.minted ⊆ s'.history.minted) : Good config s' ticket time := by
  obtain ⟨claims, hclaims, hgood⟩ := h
  exact ⟨claims, hsub hclaims, hgood⟩

/-- A ticket is good for less time, too. -/
theorem Good.of_le {ticket : String} {time time' : ℕ} (h : Good config s ticket time)
    (hle : time' ≤ time) : Good config s ticket time' := by
  obtain ⟨claims, hclaims, hticket, htime⟩ := h
  exact ⟨claims, hclaims, hticket, hle.trans htime⟩

/-- What a flow has in hand stays good. -/
theorem Flow.Handed.mono {flow : Flow} (h : flow.Handed config s)
    (hsub : s.history.minted ⊆ s'.history.minted) : flow.Handed config s' := by
  cases flow with
  | matchmake p =>
      obtain ⟨request, point⟩ := p
      cases point with
      | moveStaged | noteStaged | delStaged | delTicket | setTicket | setNote =>
          exact Good.mono h hsub
      | _ => trivial
  | launch p =>
      obtain ⟨request, point⟩ := p
      cases point with
      | setTicket => exact Good.mono h hsub
      | _ => trivial
  | handshake p => trivial

/-- A step that registers no ticket, mints none and answers none. -/
theorem Handing.same (h : Handing config s)
    (htickets : ∀ key held, s'.tickets.get key = some held → s.tickets.get key = some held)
    (hminted : s'.history.minted = s.history.minted)
    (hresponses : s'.history.responses = s.history.responses) : Hands config s s' := by
  have hsub : s.history.minted ⊆ s'.history.minted := by
    rw [hminted]
    exact List.Subset.refl _
  refine ⟨hsub, ?_, ?_, ?_⟩
  · rw [hminted]
    exact h.dated
  · exact fun key held hheld => (h.tickets key held (htickets key held hheld)).mono hsub
  · rw [hresponses]
    exact fun response hresponse => (h.responses response hresponse).mono hsub

/-- A ticket is stored that was minted. -/
theorem Handing.setTicket (h : Handing config s) {ticket : String}
    (hticket : Good config s ticket 0)
    (playerId : String) (ttlMs : ℕ) : Hands config s (s.setTicket playerId ticket ttlMs) :=
  ⟨List.Subset.refl _, h.dated, h.tickets.upd hticket, h.responses⟩

/-- A note of a room hands out nothing. -/
theorem Handing.setNote (h : Handing config s) (playerId roomId : String) (ttlMs : ℕ) :
    Hands config s (s.setNote playerId roomId ttlMs) := h.same (fun _ _ => id) rfl rfl

/-- A staged match hands out nothing yet. -/
theorem Handing.setStaged (h : Handing config s) (playerId : String) (staged : StagedMatch)
    (ttlMs : ℕ) : Hands config s (s.setStaged playerId staged ttlMs) :=
  h.same (fun _ _ => id) rfl rfl

theorem Handing.delStaged (h : Handing config s) (playerId : String) :
    Hands config s { s with staged := s.staged.del playerId } := h.same (fun _ _ => id) rfl rfl

theorem Handing.del (h : Handing config s) (playerId : String) :
    Hands config s { s with tickets := s.tickets.del playerId } :=
  h.same (fun _ _ hheld => (Table.get_of_del hheld).2) rfl rfl

/-- A ticket is minted for its whole time. -/
theorem Handing.mint (h : Handing config s) {claims : TicketClaims}
    (hdated : claims.expiresAt = claims.issuedAt + ticketTtlMs) :
    Hands config s (s.mint claims) := by
  have hsub : s.history.minted ⊆ (s.mint claims).history.minted := List.subset_cons_self _ _
  refine ⟨hsub, List.forall_mem_cons.mpr ⟨hdated, h.dated⟩, ?_, ?_⟩
  · exact h.tickets.mono fun _ _ hgood => hgood.mono hsub
  · exact fun response hresponse => (h.responses response hresponse).mono hsub

/-- A response with a good ticket. -/
theorem Handing.respond (h : Handing config s) {response : MatchTicket}
    (hgood : Good config s response.ticket response.expiresAt) :
    Hands config s (s.respond response) := by
  refine ⟨List.Subset.refl _, h.dated, h.tickets, ?_⟩
  rintro r hr
  rcases List.mem_append.mp hr with hr | hr
  · exact h.responses r hr
  · obtain rfl := List.mem_singleton.mp hr
    exact hgood

/-- What two steps do, one after the other. -/
theorem Hands.trans (h : Hands config s s') (h' : Hands config s' s'') : Hands config s s'' :=
  ⟨fun _ hmem => h'.1 (h.1 hmem), h'.2⟩

theorem Handing.refl (h : Handing config s) : Hands config s s := ⟨List.Subset.refl _, h⟩

/-! ### A request -/

/-- What a request leaves, and where it waits. -/
def Leaves (config : MatchConfig) (s : Store) (out : Store × Option Match) : Prop :=
  Hands config s out.1 ∧ ∀ p, out.2 = some p → MatchHanded config out.1 p.point

/-- A flow that ends has nothing in hand. -/
theorem Leaves.ends (h : Hands config s s') : Leaves config s (s', none) :=
  ⟨h, fun _ hp => by cases hp⟩

/-- A flow goes on with what it has in hand. -/
theorem Leaves.goto {p : Match} (h : Hands config s s') {point : MatchPoint}
    (hpoint : MatchHanded config s' point) : Leaves config s (p.goto s' point) :=
  ⟨h, fun _ hp => Option.some.inj hp ▸ hpoint⟩

/-- A flow ends with a response. -/
theorem Leaves.respond {p : Match} (h : Hands config s s') {roomId url ticket : String} {time : ℕ}
    (hgood : Good config s' ticket time) : Leaves config s (p.respond s' roomId url ticket time) :=
  .ends (h.trans (h.2.respond hgood))

/-- A flow mints a ticket and responds with it. -/
theorem Leaves.mintFor {p : Match} (h : Hands config s s') (roomId nodeId url : String)
    (gameId : Option String) (now : ℕ) :
    Leaves config s (p.mintFor config s' roomId nodeId url gameId now) := by
  refine .goto (h.trans (h.2.mint rfl)) ?_
  exact ⟨_, List.mem_cons_self, rfl, le_rfl⟩

/-- A flow that was placed goes on to its ticket. -/
theorem Leaves.unstaged {p : Match} (h : Handing config s) (healthy : List NodeCandidate)
    (decision : PlacementDecision) : Leaves config s (p.unstaged s healthy decision) := by
  rw [Match.unstaged]
  split
  · exact .goto h.refl trivial
  · exact .goto h.refl trivial

/-- The request answers with a staged ticket, and not later than it was minted. -/
def Prompt (config : MatchConfig) (s : Store) (given : Given) : MatchPoint → Prop
  | .delTicket _ issued false =>
      ∃ claims ∈ s.history.minted,
        issued = mintTicket config.format claims config.jwtSecret ∧ given.now ≤ claims.issuedAt
  | _ => True

/-- **Every step of a match hands out good tickets only**: one minted here, or one that was
stored. -/
theorem proceed_leaves {p : Match} (h : Handing config s) (hp : MatchHanded config s p.point)
    {given : Given} (hprompt : Prompt config s given p.point) :
    Leaves config s (p.proceed config s given) := by
  obtain ⟨request, point⟩ := p
  have hset : ∀ key world ttlMs, Hands config s (s.setOpenMatch key world ttlMs) :=
    fun _ _ _ => h.same (fun _ _ => id) rfl rfl
  cases point with
  | loadNodes =>
      simp only [Match.proceed]
      split
      · exact .ends h.refl
      · exact .goto h.refl trivial
  | getStaged healthy decision =>
      simp only [Match.proceed]
      split
      · exact .goto h.refl trivial
      · exact .unstaged h healthy decision
  | getIssued healthy decision staged =>
      simp only [Match.proceed]
      split
      next issued hissued =>
        refine .goto h.refl ?_
        -- a key that is live holds what was minted
        obtain ⟨held, hheld, hlive⟩ := Option.bind_eq_some_iff.mp hissued
        obtain ⟨-, hvalue⟩ := Option.ite_none_right_eq_some.mp hlive
        obtain rfl := Option.some.inj hvalue
        exact h.tickets _ _ hheld
      next => exact .unstaged h healthy decision
  | moveStaged staged issued => exact .goto (h.setTicket hp _ _) hp
  | noteStaged staged issued => exact .goto (h.setNote _ _ _) hp
  | delStaged staged issued => exact .goto (h.delStaged _) hp
  | delTicket staged issued failed =>
      cases failed with
      | true => exact .ends (h.del _)
      | false =>
          obtain ⟨claims, hclaims, hticket, hnow⟩ := hprompt
          refine .respond (h.del _) ⟨claims, hclaims, hticket, ?_⟩
          rw [h.dated claims hclaims]
          exact Nat.add_le_add_right hnow _
  | getLobby healthy decision =>
      simp only [Match.proceed]
      split
      · exact .mintFor h.refl _ _ _ _ _
      · exact .goto h.refl trivial
  | getOpen healthy decision =>
      simp only [Match.proceed]
      split
      · split
        · exact .mintFor h.refl _ _ _ _ _
        · exact .goto h.refl trivial
      · exact .goto h.refl trivial
  | claimOpen healthy candidate =>
      simp only [Match.proceed]
      split
      · exact .mintFor (hset _ _ _) _ _ _ _ _
      · exact .goto h.refl trivial
  | getRaced healthy candidate =>
      simp only [Match.proceed]
      split
      · split
        · exact .mintFor h.refl _ _ _ _ _
        · exact .goto h.refl trivial
      · exact .goto h.refl trivial
  | overwriteOpen candidate => exact .mintFor (hset _ _ _) _ _ _ _ _
  | setTicket minted => exact .goto (h.setTicket (hp.of_le (Nat.zero_le _)) _ _) hp
  | setNote minted => exact .respond (h.setNote _ _ _) hp

/-- A step that fails hands out nothing. -/
theorem fail_leaves {p : Match} (h : Handing config s) (hp : MatchHanded config s p.point) :
    Leaves config s (p.fail s) := by
  obtain ⟨request, point⟩ := p
  cases point with
  | noteStaged | delStaged => exact .goto h.refl hp
  | getLobby => exact .goto h.refl trivial
  | setNote => exact .respond h.refl hp
  | _ => exact .ends h.refl

/-! ### A launch -/

/-- The launch mints a ticket for each player in turn. -/
theorem ticketNext_hands {p : Launch} (h : Hands config s s') (placement : PlacementDecision)
    (gameId : String) (now : ℕ) (players : List Entrant) :
    Hands config s (p.ticketNext config s' placement gameId now players).1 ∧
      ∀ p', (p.ticketNext config s' placement gameId now players).2 = some p' →
        LaunchHanded config (p.ticketNext config s' placement gameId now players).1 p'.point := by
  cases players with
  | nil => exact ⟨h, fun _ hp => by cases hp⟩
  | cons player rest =>
      refine ⟨h.trans (h.2.mint rfl), fun p' hp' => ?_⟩
      obtain rfl := Option.some.inj hp'
      exact ⟨_, List.mem_cons_self, rfl, Nat.zero_le _⟩

/-- Every step of a launch does so. -/
theorem launch_hands {p : Launch} (h : Handing config s) (hp : LaunchHanded config s p.point)
    (a : Answer) : Hands config s (p.resume config s a).1 ∧
      ∀ p', (p.resume config s a).2 = some p' →
        LaunchHanded config (p.resume config s a).1 p'.point := by
  obtain ⟨request, point⟩ := p
  cases a with
  | throw message => exact ⟨h.refl, fun _ hp => by cases hp⟩
  | ok given =>
      cases point with
      | readNodeRegistry =>
          simp only [Launch.resume]
          split
          · exact ⟨h.refl, fun _ hp => by cases hp⟩
          · exact ticketNext_hands h.refl _ _ _ _
      | setTicket placement gameId ticket player rest =>
          refine ⟨h.setTicket hp _ _, fun p' hp' => ?_⟩
          obtain rfl := Option.some.inj hp'
          trivial
      | setMeta placement gameId player rest =>
          exact ticketNext_hands (h.setStaged _ _ _) _ _ _ _

/-! ### A handshake -/

/-- A handshake mints nothing and answers no request; what it changes of the registered tickets is
that it takes one. -/
theorem entry_hands {p : Entry} (h : Handing config s) (r : ℕ) (a : Answer) :
    Hands config s (p.resume config r s a).1 := by
  have hrefuse : ∀ (s' : Store) message, s'.tickets = s.tickets → s'.history = s.history →
      Hands config s (p.refuse s' message).1 := by
    intro s' message htickets hhistory
    refine h.same (fun key held hheld => ?_) ?_ ?_
    · exact htickets ▸ hheld
    · show s'.history.minted = s.history.minted
      rw [hhistory]
    · show s'.history.responses = s.history.responses
      rw [hhistory]
  cases a with
  | throw message => exact hrefuse s _ rfl rfl
  | ok given =>
      simp only [Entry.resume]
      split
      next =>
        split
        · simp only [Entry.verify]
          split
          · exact hrefuse _ _ rfl rfl
          · split
            · exact hrefuse _ _ rfl rfl
            · split
              · exact hrefuse _ _ rfl rfl
              · exact h.same (fun _ _ => id) rfl rfl
        · exact hrefuse _ _ rfl rfl
      next =>
        split
        · exact h.same (fun _ _ hheld => (Table.get_of_del hheld).2) rfl rfl
        · exact h.del _
      next =>
        split
        · exact hrefuse _ _ rfl rfl
        · exact h.refl
      next => exact h.same (fun _ _ => id) rfl rfl

/-! ### Runs -/

/-- Keys that expire, and what other services write. -/
theorem outside_hands {e : Outside} (h : Handing config s) (he : e.apply s = some s') :
    Hands config s s' := by
  have hhistory := Outside.apply_history he
  refine h.same (fun key held hheld => ?_) (congrArg _ hhistory) (congrArg _ hhistory)
  cases e with
  | tick clock =>
      simp only [Outside.apply, Option.ite_none_right_eq_some] at he
      obtain rfl := Option.some.inj he.2
      exact hheld
  | sweep | dropStaged =>
      obtain rfl := Option.some.inj he
      exact hheld
  | dropTicket playerId =>
      obtain rfl := Option.some.inj he
      exact (Table.get_of_del hheld).2

/-- A staged ticket is answered with no later than it was minted. -/
def CollectsAtOnce (config : MatchConfig) (s : System Store Flow) : Act Flow Answer Outside → Prop
  | .resume r (.ok given) =>
      match s.procs.get r with
      | some (.matchmake p) => Prompt config s.store given p.point
      | _ => True
  | _ => True

/-- The rule's invariant: what is stored and responded is minted, and lives as long as it says. -/
theorem arena_handing (config : MatchConfig) :
    (arena config).Keeps (CollectsAtOnce config) (Handing config)
      (fun s _ flow => flow.Handed config s) fun _ _ => True := by
  refine .of_leads (R := Hands config) (K := fun (s : Store) (flow : Flow) => flow.Handed config s)
    (fun _ _ h => h.2) (fun _ _ _ h hflow => hflow.mono h.1) ?_ ?_ ?_
  · intro s flow hstarts
    cases flow with
    | matchmake p =>
        obtain ⟨request, point⟩ := p
        cases point with
        | loadNodes => trivial
        | _ => cases hstarts
    | launch p =>
        obtain ⟨request, point⟩ := p
        cases point with
        | readNodeRegistry => trivial
        | _ => cases hstarts
    | handshake p => trivial
  · intro s r flow a hI hflow hhanded hprompt
    cases flow with
    | matchmake p =>
        have hleaves : Leaves config s.store (p.resume config s.store a) := by
          cases a with
          | throw message => exact fail_leaves hI hhanded
          | ok given =>
              refine proceed_leaves hI hhanded ?_
              simpa only [CollectsAtOnce, hflow] using hprompt
        refine ⟨hleaves.1, fun flow' hflow' => ?_⟩
        obtain ⟨p', hp', rfl⟩ := Option.map_eq_some_iff.mp hflow'
        exact hleaves.2 p' hp'
    | launch p =>
        obtain ⟨hhands, hnext⟩ := launch_hands hI hhanded a
        refine ⟨hhands, fun flow' hflow' => ?_⟩
        obtain ⟨p', hp', rfl⟩ := Option.map_eq_some_iff.mp hflow'
        exact hnext p' hp'
    | handshake p =>
        refine ⟨entry_hands hI r a, fun flow' hflow' => ?_⟩
        obtain ⟨p', -, rfl⟩ := Option.map_eq_some_iff.mp hflow'
        trivial
  · exact fun s e store hI _ he => outside_hands hI he

/-- Before the first request. -/
theorem Genesis.handing {s : System Store Flow} (h : Genesis s) : Handing config s.store := by
  obtain ⟨htickets, -, -, -, -, hhistory, -⟩ := h
  refine ⟨?_, ?_, ?_⟩
  · rw [hhistory]
    rintro _ ⟨⟩
  · rw [htickets]
    exact .empty
  · rw [hhistory]
    rintro _ ⟨⟩

/-- **A ticket is good until the time stated**, where every staged ticket is collected when it was
minted. -/
theorem handed_out {config : MatchConfig} {s : System Store Flow}
    (hs : Reachable (Guarded (arena config).Step (CollectsAtOnce config)) Genesis s)
    (hformat : ∀ claims ∈ s.store.history.minted, config.format.Reads claims config.jwtSecret) :
    ∀ response ∈ s.store.history.responses, ∀ now < response.expiresAt,
      ∃ claims, verifyTicket config.format response.ticket config.jwtSecret now = .ok claims := by
  obtain ⟨hI, -⟩ := (arena_handing config).reachable (fun s h => ⟨h.handing, by
    rw [h.2.2.2.2.2.2]; exact .empty, fun _ _ _ _ _ _ _ => trivial⟩) hs
  intro response hresponse now hnow
  obtain ⟨claims, hclaims, hticket, htime⟩ := hI.responses response hresponse
  refine ⟨claims, ?_⟩
  rw [hticket, verifyTicket_minted (hformat claims hclaims), if_neg (by omega)]

/-! A run -/

instance (config : MatchConfig) (s : Store) (given : Given) :
    DecidablePred (Prompt config s given) :=
  fun point => by
    unfold Prompt
    rcases point with _ | _ | _ | _ | _ | _ | ⟨_, _, _ | _⟩ | _ | _ | _ | _ | _ | _ | _ <;>
      dsimp only <;> infer_instance

instance (config : MatchConfig) (s : System Store Flow) : DecidablePred (CollectsAtOnce config s) :=
  fun a => by
    unfold CollectsAtOnce
    rcases a with _ | ⟨r, _ | _⟩ | _ | _ <;> dsimp only
    on_goal 2 => rcases s.procs.get r with _ | _ | _ | _ <;> dsimp only
    all_goals infer_instance

/-- The only player of a launch. -/
def launchedPlayer : TicketClaims := buildTicketClaims "y" "w" "game" "n" "y" (some "game") 0

/-- A ticket is staged at 0, and collected at `now`. -/
def collected (now : ℕ) : List (Act Flow Answer Outside) :=
  .start 0 (.launch ⟨⟨"tier", [⟨"y", "w", "y"⟩], some "game"⟩, .readNodeRegistry⟩) ::
    answers "game" 0 3 0 ++
  .other (.tick now) ::
  .start 1 (.matchmake ⟨⟨"y", "w", some "y", "tier", "eu", some "tier"⟩, .loadNodes⟩) ::
    answers "game" now 7 1

theorem launchedPlayer_reads :
    (rooms [launchedPlayer]).format.Reads launchedPlayer (rooms [launchedPlayer]).jwtSecret :=
  ⟨rfl, by decide, by decide⟩

/-- Collected in the millisecond it was minted in. -/
theorem handed_out_at_once : ∃ s : System Store Flow,
    s.store.history.responses.map (fun r => (r.playerId, r.ticket, r.expiresAt)) =
      [("y", "game.key", 30000)] ∧
    ∀ response ∈ s.store.history.responses, ∀ now < response.expiresAt, ∃ claims,
      verifyTicket (rooms [launchedPlayer]).format response.ticket
        (rooms [launchedPlayer]).jwtSecret now = .ok claims := by
  have run : ((arena (rooms [launchedPlayer])).actsWhen (CollectsAtOnce (rooms [launchedPlayer]))
      noTickets (collected 0)).any (fun s =>
        decide (s.store.history.minted = [launchedPlayer]) &&
        decide (s.store.history.responses.map (fun r => (r.playerId, r.ticket, r.expiresAt)) =
          [("y", "game.key", 30000)])) = true := by
    decide +kernel
  obtain ⟨s, hs, htest⟩ := (arena _).reachable_of_actsWhen noTickets_genesis run
  rw [Bool.and_eq_true] at htest
  refine ⟨s, of_decide_eq_true htest.2, handed_out hs ?_⟩
  rw [of_decide_eq_true htest.1]
  exact List.forall_mem_singleton.mpr launchedPlayer_reads

/-- Collected after 40 s, of the 60 s for which it is staged: the answer says 70 s, and the ticket
has expired at 30 s. -/
theorem handed_out_late : ¬ ∀ (config : MatchConfig) (s : System Store Flow),
    Reachable (arena config).Step Genesis s →
    (∀ claims ∈ s.store.history.minted, config.format.Reads claims config.jwtSecret) →
    ∀ response ∈ s.store.history.responses, ∀ now < response.expiresAt, ∃ claims,
      verifyTicket config.format response.ticket config.jwtSecret now = .ok claims := by
  intro hclaim
  have run : ((arena (rooms [launchedPlayer])).acts noTickets (collected 40000)).any (fun s =>
      decide (s.store.history.minted = [launchedPlayer]) &&
      s.store.history.responses.any fun r =>
        decide (r.ticket = "game.key" ∧ r.expiresAt = 70000)) = true := by
    decide +kernel
  obtain ⟨s, hs, htest⟩ := (arena _).reachable_of_acts noTickets_genesis run
  rw [Bool.and_eq_true] at htest
  obtain ⟨hminted, htest⟩ := htest
  obtain ⟨response, hresponse, htest⟩ := List.any_eq_true.mp htest
  obtain ⟨hticket, hexpires⟩ := of_decide_eq_true htest
  have hreads : ∀ claims ∈ s.store.history.minted,
      (rooms [launchedPlayer]).format.Reads claims (rooms [launchedPlayer]).jwtSecret := by
    rw [of_decide_eq_true hminted]
    exact List.forall_mem_singleton.mpr launchedPlayer_reads
  obtain ⟨claims, hok⟩ := hclaim _ s hs hreads response hresponse 40000 (by rw [hexpires]; decide)
  have hexpired : verifyTicket (rooms [launchedPlayer]).format "game.key"
      (rooms [launchedPlayer]).jwtSecret 40000 = .error .expired := by decide
  rw [hticket, hexpired] at hok
  cases hok

end SnakeArena.Realtime
