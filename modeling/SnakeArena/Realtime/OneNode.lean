import SnakeArena.Realtime.Admission

/-!
# Realtime — one room, one node

A room is named by tickets, and each ticket names a node.  The shared open worlds keep the node
beside the room, and a launch mints all its tickets from one placement; but every request for a
tier with a game bound picks a node by its own placement, and so does the launch of that game.

`Flow.picks` is the room a step is about to name with a node it picked itself.  Where each such
pick agrees with the tickets there are (`PicksAlike`), all tickets do:

* `one_room_one_node`: every two tickets for one room name one node.
-/

namespace SnakeArena.Realtime
open SnakeArena.Library SnakeArena.Matchmaker

variable {config : MatchConfig} {s s' : Store}

/-- The tickets for one room name one node. -/
def OneNode (minted : List TicketClaims) : Prop :=
  ∀ c ∈ minted, ∀ c' ∈ minted, c.roomId = c'.roomId → c.nodeId = c'.nodeId

/-- The tickets for the room name this node. -/
def AllName (minted : List TicketClaims) (roomId nodeId : String) : Prop :=
  ∀ c ∈ minted, c.roomId = roomId → c.nodeId = nodeId

/-- Some ticket is for the room and names the node. -/
def Ticketed (s : Store) (roomId nodeId : String) : Prop :=
  ∃ c ∈ s.history.minted, c.roomId = roomId ∧ c.nodeId = nodeId

/-- Every shared open world is what some ticket is for. -/
def WorldsTicketed (s : Store) : Prop :=
  s.openMatches.All fun _ held => Ticketed s held.value.roomId held.value.nodeId

theorem OneNode.allName {minted : List TicketClaims} (h : OneNode minted) {c : TicketClaims}
    (hc : c ∈ minted) : AllName minted c.roomId c.nodeId :=
  fun _ hc' hroom => h _ hc' _ hc hroom

theorem OneNode.cons {minted : List TicketClaims} (h : OneNode minted) {c : TicketClaims}
    (hc : AllName minted c.roomId c.nodeId) : OneNode (c :: minted) := by
  intro c₁ h₁ c₂ h₂ hroom
  rcases List.mem_cons.mp h₁ with e₁ | hold₁ <;> rcases List.mem_cons.mp h₂ with e₂ | hold₂
  · rw [e₁, e₂]
  · rw [e₁] at hroom ⊢
    exact (hc c₂ hold₂ hroom.symm).symm
  · rw [e₂] at hroom ⊢
    exact hc c₁ hold₁ hroom
  · exact h c₁ hold₁ c₂ hold₂ hroom

/-! ### What a step names -/

/-- The room that a step names with a node of its own picking, and the node. -/
def Flow.picks (config : MatchConfig) (s : Store) (given : Given) : Flow → Option (String × String)
  | .matchmake p =>
      match p.point with
      | .getLobby _ decision => given.gameId.map fun gameId => (roomOf gameId, decision.nodeId)
      | .claimOpen _ candidate =>
          if (s.live (s.openMatches.get p.openKey)).isNone then
            some (candidate.roomId, candidate.nodeId)
          else none
      | .overwriteOpen candidate => some (candidate.roomId, candidate.nodeId)
      | _ => none
  | .launch p =>
      match p.point with
      | .readNodeRegistry =>
          let healthy := filterHealthy given.nodes config.heartbeatTtlMs given.now
          (selectPlacement healthy "us-east" config.strategy).map fun placement =>
            (roomOf (p.request.gameId.getD given.uuid), placement.nodeId)
      | _ => none
  | .handshake _ => none

/-- A step that picks a node for a room picks the one that the room's tickets name. -/
def PicksAlike (config : MatchConfig) (s : System Store Flow) : Act Flow Answer Outside → Prop
  | .resume r (.ok given) =>
      ∀ flow ∈ s.procs.get r, ∀ picked ∈ flow.picks config s.store given,
        AllName s.store.history.minted picked.1 picked.2
  | _ => True

instance (minted : List TicketClaims) (roomId nodeId : String) :
    Decidable (AllName minted roomId nodeId) := by
  unfold AllName
  infer_instance

instance (config : MatchConfig) (s : System Store Flow) : DecidablePred (PicksAlike config s) :=
  fun a => by
    unfold PicksAlike
    rcases a with _ | ⟨_, _ | _⟩ | _ | _ <;> dsimp only <;> infer_instance

/-- A step mints no ticket, or one for a room and a node that meet `P`, and leaves the shared
worlds, or makes that one of them. -/
inductive Mints (P : String → String → Prop) (s : Store) : Store → Prop where
  | nothing {s' : Store} (hminted : s'.history.minted = s.history.minted)
      (hopen : s'.openMatches = s.openMatches) : Mints P s s'
  | ticket {s' : Store} (claims : TicketClaims) (h : P claims.roomId claims.nodeId)
      (hminted : s'.history.minted = claims :: s.history.minted)
      (hopen : s'.openMatches = s.openMatches) : Mints P s s'
  | world {s' : Store} (claims : TicketClaims) (h : P claims.roomId claims.nodeId) {key : String}
      {held : Expiring OpenMatch} (hroom : held.value.roomId = claims.roomId)
      (hnode : held.value.nodeId = claims.nodeId)
      (hminted : s'.history.minted = claims :: s.history.minted)
      (hopen : s'.openMatches = s.openMatches.upd key held) : Mints P s s'

theorem Ticketed.mono {roomId nodeId : String} (h : Ticketed s roomId nodeId)
    (hsub : s.history.minted ⊆ s'.history.minted) : Ticketed s' roomId nodeId := by
  obtain ⟨c, hc, hroom, hnode⟩ := h
  exact ⟨c, hsub hc, hroom, hnode⟩

theorem Mints.subset {P : String → String → Prop} (h : Mints P s s') :
    s.history.minted ⊆ s'.history.minted := by
  cases h with
  | nothing hminted => exact hminted ▸ List.Subset.refl _
  | ticket claims _ hminted => exact hminted ▸ List.subset_cons_self _ _
  | world claims _ _ _ hminted => exact hminted ▸ List.subset_cons_self _ _

/-- **A step that mints for a room what its tickets name already keeps them agreed.** -/
theorem Mints.oneNode {P : String → String → Prop} (h : Mints P s s')
    (hP : ∀ roomId nodeId, P roomId nodeId → AllName s.history.minted roomId nodeId)
    (hone : OneNode s.history.minted) (hworlds : WorldsTicketed s) :
    OneNode s'.history.minted ∧ WorldsTicketed s' := by
  have hmono := h.subset
  cases h with
  | nothing hminted hopen =>
      refine ⟨hminted ▸ hone, ?_⟩
      rw [WorldsTicketed, hopen]
      exact hworlds.mono fun _ _ hw => hw.mono hmono
  | ticket claims h hminted hopen =>
      refine ⟨hminted ▸ hone.cons (hP _ _ h), ?_⟩
      rw [WorldsTicketed, hopen]
      exact hworlds.mono fun _ _ hw => hw.mono hmono
  | world claims h hroom hnode hminted hopen =>
      refine ⟨hminted ▸ hone.cons (hP _ _ h), ?_⟩
      rw [WorldsTicketed, hopen]
      refine hworlds.upd_frame (fun _ _ _ hw => hw.mono hmono) ⟨claims, ?_, hroom.symm, hnode.symm⟩
      exact hminted ▸ List.mem_cons_self

/-! ### The steps -/

/-- What a request names it picked itself, or found in a shared world. -/
def MatchNames (config : MatchConfig) (p : Match) (s : Store) (given : Given)
    (roomId nodeId : String) : Prop :=
  (Flow.matchmake p).picks config s given = some (roomId, nodeId) ∨
    ∃ key held, s.openMatches.get key = some held ∧ held.value.roomId = roomId ∧
      held.value.nodeId = nodeId

theorem get_of_live {α : Type} {held : Option (Expiring α)} {a : α} (h : s.live held = some a) :
    ∃ e, held = some e ∧ e.value = a := by
  obtain ⟨e, he, h⟩ := Option.bind_eq_some_iff.mp h
  exact ⟨e, he, Option.some.inj (Option.ite_none_right_eq_some.mp h).2⟩

theorem mints_match (config : MatchConfig) (p : Match) (s : Store) (given : Given) :
    Mints (MatchNames config p s given) s (p.proceed config s given).1 := by
  obtain ⟨request, point⟩ := p
  -- a player who finds a shared world names what it keeps
  have joins : ∀ {world : OpenMatch}, s.live (s.openMatches.get (Match.openKey ⟨request, point⟩)) =
      some world → MatchNames config ⟨request, point⟩ s given world.roomId world.nodeId := by
    intro world hworld
    obtain ⟨held, hheld, rfl⟩ := get_of_live hworld
    exact .inr ⟨_, held, hheld, rfl, rfl⟩
  cases point with
  | loadNodes =>
      simp only [Match.proceed]
      split <;> exact .nothing rfl rfl
  | getStaged healthy decision | getIssued healthy decision staged =>
      simp only [Match.proceed, Match.unstaged]
      split
      · exact .nothing rfl rfl
      · split <;> exact .nothing rfl rfl
  | moveStaged | noteStaged | delStaged | setTicket | setNote => exact .nothing rfl rfl
  | delTicket staged issued failed =>
      simp only [Match.proceed]
      split <;> exact .nothing rfl rfl
  | getLobby healthy decision =>
      simp only [Match.proceed]
      split
      case h_1 gameId hgame =>
          refine .ticket _ (.inl ?_) rfl rfl
          simp only [Flow.picks, hgame, Option.map_some]
          rfl
      case h_2 => exact .nothing rfl rfl
  | getOpen healthy decision =>
      simp only [Match.proceed]
      split
      case h_1 world hworld =>
          split
          · exact .ticket _ (joins hworld) rfl rfl
          · exact .nothing rfl rfl
      case h_2 => exact .nothing rfl rfl
  | claimOpen healthy candidate =>
      simp only [Match.proceed]
      split
      case h_1 hnone =>
          refine .world _ (.inl ?_) rfl rfl rfl rfl
          simp only [Flow.picks, hnone, Option.isNone_none, if_true]
          rfl
      case h_2 => exact .nothing rfl rfl
  | getRaced healthy candidate =>
      simp only [Match.proceed]
      split
      case h_1 world hworld =>
          split
          · exact .ticket _ (joins hworld) rfl rfl
          · exact .nothing rfl rfl
      case h_2 => exact .nothing rfl rfl
  | overwriteOpen candidate => exact .world _ (.inl rfl) rfl rfl rfl rfl

theorem mints_fail (P : String → String → Prop) (p : Match) (s : Store) :
    Mints P s (p.fail s).1 := by
  obtain ⟨request, point⟩ := p
  cases point <;> exact .nothing rfl rfl

/-- The room and the node that a launch under way has minted for. -/
def placedBy (p : Launch) : Option (String × String) :=
  match p.point with
  | .readNodeRegistry => none
  | .setTicket placement gameId _ _ _ | .setMeta placement gameId _ _ =>
      some (roomOf gameId, placement.nodeId)

/-- What a launch names it picked itself, or has named before. -/
def LaunchNames (config : MatchConfig) (p : Launch) (s : Store) (given : Given)
    (roomId nodeId : String) : Prop :=
  (Flow.launch p).picks config s given = some (roomId, nodeId) ∨ placedBy p = some (roomId, nodeId)

/-- A launch mints for the room of its game until its players are through. -/
theorem mints_ticketNext {P : String → String → Prop} {p : Launch} {placement : PlacementDecision}
    {gameId : String} {now : ℕ} {players : List Entrant} (hP : P (roomOf gameId) placement.nodeId)
    (hminted : s'.history.minted = s.history.minted) (hopen : s'.openMatches = s.openMatches) :
    Mints P s (p.ticketNext config s' placement gameId now players).1 ∧
      ∀ p', (p.ticketNext config s' placement gameId now players).2 = some p' →
        ∀ placed ∈ placedBy p',
          Ticketed (p.ticketNext config s' placement gameId now players).1 placed.1 placed.2 := by
  cases players with
  | nil => exact ⟨.nothing hminted hopen, nofun⟩
  | cons player rest =>
      refine ⟨.ticket _ hP (congrArg _ hminted) hopen, ?_⟩
      rintro p' hp' placed hplaced
      obtain rfl := Option.some.inj hp'
      obtain rfl := Option.some.inj hplaced
      exact ⟨_, List.mem_cons_self, rfl, rfl⟩

theorem mints_launch (config : MatchConfig) (p : Launch) (s : Store) (given : Given)
    (hp : ∀ placed ∈ placedBy p, Ticketed s placed.1 placed.2) :
    Mints (LaunchNames config p s given) s (p.resume config s (.ok given)).1 ∧
      ∀ p', (p.resume config s (.ok given)).2 = some p' → ∀ placed ∈ placedBy p',
        Ticketed (p.resume config s (.ok given)).1 placed.1 placed.2 := by
  obtain ⟨request, point⟩ := p
  cases point with
  | readNodeRegistry =>
      simp only [Launch.resume]
      split
      case h_1 => exact ⟨.nothing rfl rfl, by rintro _ ⟨⟩⟩
      case h_2 placement hplacement =>
          refine mints_ticketNext (.inl ?_) rfl rfl
          simp only [Flow.picks, hplacement, Option.map_some]
  | setTicket placement gameId ticket player rest =>
      refine ⟨.nothing rfl rfl, ?_⟩
      rintro p' hp' placed hplaced
      obtain rfl := Option.some.inj hp'
      exact hp placed hplaced
  | setMeta placement gameId player rest => exact mints_ticketNext (.inr rfl) rfl rfl

/-! ### Runs -/

/-- What a launch under way has minted for. -/
def Flow.Ticketed (s : Store) : Flow → Prop
  | .launch p => ∀ placed ∈ placedBy p, Realtime.Ticketed s placed.1 placed.2
  | _ => True

theorem Flow.Ticketed.mono {flow : Flow} (h : flow.Ticketed s)
    (hsub : s.history.minted ⊆ s'.history.minted) : flow.Ticketed s' := by
  cases flow with
  | launch p => exact fun placed hplaced => (h placed hplaced).mono hsub
  | matchmake | handshake => trivial

theorem Outside.apply_openMatches {e : Outside} (h : e.apply s = some s') :
    s'.openMatches = s.openMatches := by
  cases e with
  | tick clock =>
      simp only [Outside.apply, Option.ite_none_right_eq_some] at h
      obtain rfl := Option.some.inj h.2
      rfl
  | sweep | dropTicket | dropStaged =>
      obtain rfl := Option.some.inj h
      rfl

/-- A handshake mints nothing, and opens no world. -/
theorem mints_entry (P : String → String → Prop) (config : MatchConfig) (r : ℕ) (p : Entry)
    (s : Store) (a : Answer) : Mints P s (p.resume config r s a).1 := by
  cases a with
  | throw => exact .nothing rfl rfl
  | ok given =>
      simp only [Entry.resume]
      split
      next =>
        split
        · simp only [Entry.verify]
          split
          · exact .nothing rfl rfl
          · split
            · exact .nothing rfl rfl
            · split <;> exact .nothing rfl rfl
        · exact .nothing rfl rfl
      next =>
        split <;> exact .nothing rfl rfl
      next =>
        split <;> exact .nothing rfl rfl
      next => exact .nothing rfl rfl

theorem arena_oneNode (config : MatchConfig) :
    (arena config).Keeps (PicksAlike config)
      (fun s => OneNode s.history.minted ∧ WorldsTicketed s) (fun s _ flow => flow.Ticketed s)
      fun _ _ => True := by
  refine .of_leads
    (R := fun (s s' : Store) => s.history.minted ⊆ s'.history.minted ∧
      OneNode s'.history.minted ∧ WorldsTicketed s')
    (K := fun (s : Store) (flow : Flow) => flow.Ticketed s) (fun _ _ h => h.2)
    (fun _ _ _ h hflow => hflow.mono h.1) ?_ ?_ ?_
  · intro s flow hstarts
    cases flow with
    | matchmake | handshake => trivial
    | launch p =>
        obtain ⟨request, point⟩ := p
        cases point with
        | readNodeRegistry => nofun
        | setTicket | setMeta => cases hstarts
  · rintro s r flow a ⟨hone, hworlds⟩ hflow hknows hpicks
    cases flow with
    | matchmake p =>
        have hmints : ∃ P, Mints P s.store (p.resume config s.store a).1 ∧
            ∀ roomId nodeId, P roomId nodeId → AllName s.store.history.minted roomId nodeId := by
          cases a with
          | throw => exact ⟨fun _ _ => False, mints_fail _ p s.store, nofun⟩
          | ok given =>
              refine ⟨_, mints_match config p s.store given, ?_⟩
              rintro roomId nodeId (hpick | ⟨key, held, hheld, rfl, rfl⟩)
              · exact hpicks _ hflow _ hpick
              · obtain ⟨c, hc, hroom, hnode⟩ := hworlds key held hheld
                rw [← hroom, ← hnode]
                exact hone.allName hc
        obtain ⟨P, hmints, hP⟩ := hmints
        refine ⟨⟨hmints.subset, hmints.oneNode hP hone hworlds⟩, fun flow' hflow' => ?_⟩
        obtain ⟨p', -, rfl⟩ := Option.map_eq_some_iff.mp hflow'
        trivial
    | launch p =>
        cases a with
        | throw => exact ⟨⟨List.Subset.refl _, hone, hworlds⟩, nofun⟩
        | ok given =>
            obtain ⟨hmints, hnext⟩ := mints_launch config p s.store given hknows
            refine ⟨⟨hmints.subset, hmints.oneNode ?_ hone hworlds⟩, fun flow' hflow' => ?_⟩
            · rintro roomId nodeId (hpick | hplaced)
              · exact hpicks _ hflow _ hpick
              · obtain ⟨c, hc, rfl, rfl⟩ : Ticketed s.store roomId nodeId := hknows _ hplaced
                exact hone.allName hc
            · obtain ⟨p', hp', rfl⟩ := Option.map_eq_some_iff.mp hflow'
              exact hnext p' hp'
    | handshake p =>
        have hmints := mints_entry (fun _ _ => False) config r p s.store a
        refine ⟨⟨hmints.subset, hmints.oneNode nofun hone hworlds⟩, fun flow' hflow' => ?_⟩
        obtain ⟨p', -, rfl⟩ := Option.map_eq_some_iff.mp hflow'
        trivial
  · rintro s e store ⟨hone, hworlds⟩ - he
    have hmints : Mints (fun _ _ => False) s.store store :=
      .nothing (congrArg _ (Outside.apply_history he)) (Outside.apply_openMatches he)
    exact ⟨hmints.subset, hmints.oneNode nofun hone hworlds⟩

theorem Genesis.oneNode {s : System Store Flow} (h : Genesis s) :
    OneNode s.store.history.minted ∧ WorldsTicketed s.store := by
  obtain ⟨-, -, -, hopen, -, hhistory, -⟩ := h
  refine ⟨?_, ?_⟩
  · rw [hhistory]
    nofun
  · rw [WorldsTicketed, hopen]
    exact .empty

/-- **One room, one node.**  Every two tickets for one room name one node, where every node that a
request or a launch picked itself for a room is the one that the room's tickets named. -/
theorem one_room_one_node {config : MatchConfig} {s : System Store Flow}
    (hs : Reachable (Guarded (arena config).Step (PicksAlike config)) Genesis s) :
    ∀ c ∈ s.store.history.minted, ∀ c' ∈ s.store.history.minted,
      c.roomId = c'.roomId → c.nodeId = c'.nodeId := by
  have hholds := (arena_oneNode config).reachable (fun s h => ⟨h.oneNode, by
    rw [h.2.2.2.2.2.2]; exact .empty, fun _ _ _ _ _ _ _ => trivial⟩) hs
  exact hholds.1.1

/-! A run -/

/-- The nodes of the tickets' rooms are alive. -/
def RoomsAlive (config : MatchConfig) (s : System Store Flow) : Act Flow Answer Outside → Prop
  | .resume _ (.ok given) => ∀ c ∈ s.store.history.minted,
      ∃ node ∈ filterHealthy given.nodes config.heartbeatTtlMs given.now, node.nodeId = c.nodeId
  | _ => True

instance (config : MatchConfig) (s : System Store Flow) : DecidablePred (RoomsAlive config s) :=
  fun a => by
    unfold RoomsAlive
    rcases a with _ | ⟨_, _ | _⟩ | _ | _ <;> dsimp only <;> infer_instance

/-- Two nodes, of which the first is this loaded and the second that. -/
def answered (a b : ℚ) (n r : ℕ) : List (Act Flow Answer Outside) :=
  List.replicate n (.resume r (.ok ⟨0, "",
    [⟨"a", "url-a", "us-east", 1, 2, 8, a, 0, false⟩,
      ⟨"b", "url-b", "us-east", 1, 2, 8, b, 0, false⟩],
    some "game"⟩))

/-- A player asks for a ticket of a tier that has a game. -/
def bound (r : ℕ) (playerId : String) (a b : ℚ) : List (Act Flow Answer Outside) :=
  .start r (.matchmake ⟨⟨playerId, "w", none, "tier", "us-east", some "tier"⟩, .loadNodes⟩) ::
    answered a b 5 r

/-- The game is launched with two players more. -/
def launched (r : ℕ) (a b : ℚ) : List (Act Flow Answer Outside) :=
  .start r
    (.launch ⟨⟨"tier", [⟨"y", "w", "y"⟩, ⟨"z", "w", "z"⟩], some "game"⟩, .readNodeRegistry⟩) ::
    answered a b 5 r

/-- Two requests and a launch of one game, all placed on one node. -/
theorem one_room_one_node_launched : ∃ s : System Store Flow,
    s.store.history.minted.map (fun c => (c.playerId, c.nodeId)) =
      [("x", "a"), ("z", "a"), ("y", "a"), ("w", "a")] ∧
    ∀ c ∈ s.store.history.minted, ∀ c' ∈ s.store.history.minted,
      c.roomId = c'.roomId → c.nodeId = c'.nodeId := by
  have run : ((arena (rooms [])).actsWhen (PicksAlike (rooms [])) noTickets
      (bound 0 "w" (1 / 10) (1 / 2) ++ launched 1 (1 / 5) (1 / 2) ++
        bound 2 "x" (3 / 10) (1 / 2))).any (fun s =>
          decide (s.store.history.minted.map (fun c => (c.playerId, c.nodeId)) =
            [("x", "a"), ("z", "a"), ("y", "a"), ("w", "a")])) = true := by
    decide +kernel
  obtain ⟨s, hs, htest⟩ := (arena _).reachable_of_actsWhen noTickets_genesis run
  exact ⟨s, of_decide_eq_true htest, one_room_one_node hs⟩

/-- Two players of one game ask while the load shifts between two nodes, both of them healthy. -/
theorem one_room_two_nodes : ¬ ∀ (config : MatchConfig) (s : System Store Flow),
    Reachable (Guarded (arena config).Step (RoomsAlive config)) Genesis s →
    ∀ c ∈ s.store.history.minted, ∀ c' ∈ s.store.history.minted,
      c.roomId = c'.roomId → c.nodeId = c'.nodeId := by
  intro hclaim
  have run : ((arena (rooms [])).actsWhen (RoomsAlive (rooms [])) noTickets
      (bound 0 "w" (1 / 10) (1 / 2) ++ bound 1 "x" (1 / 2) (1 / 10))).any (fun s =>
        decide (∃ c ∈ s.store.history.minted, ∃ c' ∈ s.store.history.minted,
          c.roomId = c'.roomId ∧ c.nodeId ≠ c'.nodeId)) = true := by
    decide +kernel
  obtain ⟨s, hs, htest⟩ := (arena _).reachable_of_actsWhen noTickets_genesis run
  obtain ⟨c, hc, c', hc', hroom, hnode⟩ := of_decide_eq_true htest
  exact hnode (hclaim _ s hs c hc c' hc' hroom)

end SnakeArena.Realtime
