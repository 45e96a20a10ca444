import SnakeArena.Worker.Cycle

/-!
# Worker — one game per cycle

Executions of the `create-game` stage of one cycle, any number of them at once: the attempts of a
job, a job that stalled and is run again while its first run goes on, and the jobs of scheduler
ticks.  Each waits at the awaits of `StageHandlers.createGame` (`Phase.prog_step`).  Beside them,
others write the games.

* `one_game_per_cycle`: there is one game, and every execution returns it, where no execution
  looks for it while another one is about to create it, or after its marker was overwritten.
-/

namespace SnakeArena.Worker
open SnakeArena.Library SnakeArena.Db

/-- Where an execution waits. -/
inductive Phase where
  /-- For the upsert of the room, which is the first await. -/
  | upserting
  | finding
  | creating
  | returned (gameId : ℕ)
deriving DecidableEq

/-- What others do to the games. -/
inductive GameWrite where
  /-- The columns of a game, among them its node. -/
  | update (gameId : ℕ) (data : Game → Game)
  /-- A game of another room or of another window. -/
  | create (row : CatalogueRow) (nodeId : String)

section
variable (tier : RoomTier) (cycleId : CycleId)

/-- What an execution does with the reply that it waited for, and where it waits next. -/
def Phase.resume (_ : ℕ) (s : Cycle) : Phase → Reply → Cycle × Option Phase
  | .upserting, c =>
      (if c.arrival = .failed then s else s.upsertRoom tier,
        if c.arrival = .answered then some .finding else none)
  | .finding, c =>
      (s, if c.arrival = .answered then
          some ((s.findGame tier.id cycleId.text).elim .creating .returned)
        else none)
  | .creating, c =>
      let create := s.createGame ⟨c.uuid, tier.id, cycleId.windowStart⟩ cycleId.text
      (if c.arrival = .failed then s else create.getD s,
        if c.arrival = .answered ∧ create.isSome then some (.returned c.uuid) else none)
  | .returned _, _ => (s, none)

/-- What an execution has left to do, in the function that it runs. -/
def Phase.prog (throw : CycleProg) (ret : ℕ → CycleProg) : Phase → CycleProg
  | .upserting => StageHandlers.createGame tier cycleId throw ret
  | .finding => look (Cycle.findGame tier.id cycleId.text) throw fun
      | some gameId => ret gameId
      | none => newGame tier.id (fun _ => cycleId.text) (fun _ => cycleId.windowStart) throw ret
  | .creating => newGame tier.id (fun _ => cycleId.text) (fun _ => cycleId.windowStart) throw ret
  | .returned gameId => ret gameId

/-- The phases are the awaits of the function. -/
theorem Phase.prog_step (throw : CycleProg) (ret : ℕ → CycleProg) (r : ℕ) (phase : Phase)
    (h : ∀ gameId, phase ≠ .returned gameId) : ∃ op act k,
      phase.prog tier cycleId throw ret = .await op act k ∧ ∀ s c,
        act s c = (Phase.resume tier cycleId r s phase c).1 ∧
        k s c = ((Phase.resume tier cycleId r s phase c).2.elim throw
          (Phase.prog tier cycleId throw ret)) := by
  cases phase with
  | returned gameId => exact absurd rfl (h gameId)
  | upserting =>
      refine ⟨_, _, _, rfl, fun s c => ⟨rfl, ?_⟩⟩
      unfold Phase.resume
      dsimp only
      split_ifs <;> rfl
  | finding =>
      refine ⟨_, _, _, rfl, fun s c => ⟨rfl, ?_⟩⟩
      unfold Phase.resume
      dsimp only
      split_ifs
      · cases s.findGame tier.id cycleId.text <;> rfl
      · rfl
  | creating =>
      refine ⟨_, _, _, rfl, fun s c => ⟨rfl, ?_⟩⟩
      unfold Phase.resume
      dsimp only
      split_ifs <;> rfl

/-- The row is of a game of the cycle. -/
def ofCycle (row : CatalogueRow) : Prop :=
  row.tierId = tier.id ∧ row.startedAt = cycleId.windowStart

instance : DecidablePred (ofCycle tier cycleId) := fun row => by
  unfold ofCycle
  infer_instance

/-- The games of the cycle, in the order of their creation. -/
def gamesOfCycle (s : Cycle) : List ℕ :=
  (s.catalogue.filter (ofCycle tier cycleId ·)).map (·.gameId)

/-- The game has the marker of the cycle. -/
def Marked (s : Cycle) (gameId : ℕ) : Prop :=
  (s.services.database.games.get gameId).any (·.nodeId = cycleId.text) = true

instance (s : Cycle) (gameId : ℕ) : Decidable (Marked cycleId s gameId) := by
  unfold Marked
  infer_instance

/-- No one else writes the marker. -/
def gameWrite (s : Cycle) : GameWrite → Option Cycle
  | .update gameId data =>
      match s.services.database.games.get gameId with
      | none => none
      | some game =>
          if (data game).nodeId = cycleId.text ∧ game.nodeId ≠ cycleId.text then none
          else (s.services.updateGame gameId data).map fun services => { s with services }
  | .create row nodeId =>
      if ofCycle tier cycleId row ∨ nodeId = cycleId.text then none else s.createGame row nodeId

/-- The executions of the stage. -/
def createGameStage : Processes Cycle Phase Reply GameWrite where
  starts phase := decide (phase = .upserting)
  resume := Phase.resume tier cycleId
  other := gameWrite tier cycleId

/-- An execution looks for the game while no other one is about to create it, and while each game
of the cycle has its marker. -/
def LooksAlone (s : System Cycle Phase) : Act Phase Reply GameWrite → Prop
  | .resume r c => c.arrival = .answered → s.procs.get r = some .finding →
      (s.procs.All fun _ phase => phase ≠ .creating) ∧
        ∀ gameId ∈ gamesOfCycle tier cycleId s.store, Marked cycleId s.store gameId
  | .start _ _ | .crash _ | .other _ => True

/-- Before the first execution: no game is of the cycle or has its marker. -/
structure BeforeCycle (s : System Cycle Phase) : Prop where
  procs : s.procs = Table.empty
  none : gamesOfCycle tier cycleId s.store = []
  stored : ∀ row ∈ s.store.catalogue, (s.store.services.database.games.get row.gameId).isSome
  unmarked : ∀ gameId, ¬Marked cycleId s.store gameId

/-- At most one game is of the cycle, and no other game has its marker. -/
structure OneGame (s : Cycle) : Prop where
  one : (gamesOfCycle tier cycleId s).length ≤ 1
  stored : ∀ row ∈ s.catalogue, (s.services.database.games.get row.gameId).isSome
  marked : ∀ row ∈ s.catalogue, row.tierId = tier.id → Marked cycleId s row.gameId →
    ofCycle tier cycleId row

/-- What an execution knows of the games. -/
def Phase.Knows (s : Cycle) (_ : ℕ) : Phase → Prop
  | .upserting | .finding => True
  | .creating => gamesOfCycle tier cycleId s = []
  | .returned gameId => gamesOfCycle tier cycleId s = [gameId]

end

/-- Not both are about to create a game. -/
def Phase.apart (p q : Phase) : Prop := p = .creating → q ≠ .creating

section
variable {tier : RoomTier} {cycleId : CycleId} {s s' : Cycle}

theorem mem_gamesOfCycle {gameId : ℕ} : gameId ∈ gamesOfCycle tier cycleId s ↔
    ∃ row ∈ s.catalogue, ofCycle tier cycleId row ∧ row.gameId = gameId := by
  simp only [gamesOfCycle, List.mem_map, List.mem_filter, decide_eq_true_eq, and_assoc]

theorem gamesOfCycle_congr (h : s'.catalogue = s.catalogue) :
    gamesOfCycle tier cycleId s' = gamesOfCycle tier cycleId s := by
  rw [gamesOfCycle, h, gamesOfCycle]

/-- A step that leaves the catalogue and every game, and writes no marker. -/
theorem OneGame.of_games (hs : OneGame tier cycleId s) (hcat : s'.catalogue = s.catalogue)
    (hstored : ∀ g, (s.services.database.games.get g).isSome →
      (s'.services.database.games.get g).isSome)
    (hmarked : ∀ g, Marked cycleId s' g → Marked cycleId s g) : OneGame tier cycleId s' where
  one := by
    rw [gamesOfCycle_congr hcat]
    exact hs.one
  stored row hrow := hstored _ (hs.stored row (hcat ▸ hrow))
  marked row hrow htier hmark := hs.marked row (hcat ▸ hrow) htier (hmarked _ hmark)

theorem Phase.Knows.congr (h : gamesOfCycle tier cycleId s' = gamesOfCycle tier cycleId s) {r : ℕ}
    {p : Phase} (hp : p.Knows tier cycleId s r) : p.Knows tier cycleId s' r := by
  cases p with
  | upserting | finding => trivial
  | creating | returned gameId => exact h.trans hp

/-! ### The steps -/

theorem catalogue_upsertRoom : (s.upsertRoom tier).catalogue = s.catalogue := rfl

/-- The upsert of the room leaves the columns of each game but the rake. -/
theorem node_upsertRoom (g : ℕ) :
    ((s.upsertRoom tier).services.database.games.get g).map (·.nodeId) =
      (s.services.database.games.get g).map (·.nodeId) := by
  rw [Cycle.upsertRoom]
  dsimp only
  generalize (s.catalogue.filter (·.tierId = tier.id)).map (·.gameId) = games
  generalize s.services = services
  induction games generalizing services with
  | nil => rfl
  | cons gameId games ih =>
      rw [List.foldl_cons, ih]
      cases hu : services.updateGame gameId fun game => { game with rakeBps := tier.rakeBps } with
      | none => rfl
      | some v =>
          obtain ⟨game, hgame, rfl⟩ := Option.map_eq_some_iff.mp hu
          by_cases hg : g = gameId
          · subst hg
            rw [Option.getD_some, Table.get_upd_same, hgame]
            rfl
          · rw [Option.getD_some, Table.get_upd_other hg]

theorem any_node (o : Option Game) (nodeId : String) :
    o.any (·.nodeId = nodeId) = (o.map (·.nodeId)).any (· = nodeId) := by
  cases o <;> rfl

theorem OneGame.upsertRoom (hs : OneGame tier cycleId s) :
    OneGame tier cycleId (s.upsertRoom tier) := by
  refine hs.of_games catalogue_upsertRoom (fun g hg => ?_) fun g hg => ?_
  · rw [← Option.isSome_map, node_upsertRoom, Option.isSome_map]
    exact hg
  · rw [Marked, any_node, node_upsertRoom, ← any_node] at hg
    exact hg

/-- What the creation of a game leaves. -/
theorem createGame_some {row : CatalogueRow} {nodeId : String}
    (h : s.createGame row nodeId = some s') :
    s.services.database.games.get row.gameId = none ∧ s'.catalogue = s.catalogue ++ [row] ∧
      ∃ game : Game, game.nodeId = nodeId ∧ s'.services.database.games =
        s.services.database.games.upd row.gameId game := by
  unfold Cycle.createGame at h
  split_ifs at h with hnew
  obtain rfl := Option.some.inj h
  exact ⟨Option.not_isSome_iff_eq_none.mp hnew, rfl, _, rfl, rfl⟩

/-- The games of the cycle after one more game. -/
theorem gamesOfCycle_append {row : CatalogueRow} (h : s'.catalogue = s.catalogue ++ [row]) :
    gamesOfCycle tier cycleId s' =
      gamesOfCycle tier cycleId s ++ if ofCycle tier cycleId row then [row.gameId] else [] := by
  rw [gamesOfCycle, h, List.filter_append, List.map_append, gamesOfCycle]
  split_ifs with hrow
  · simp only [List.filter_cons, hrow, decide_true, if_true, List.filter_nil, List.map_cons,
      List.map_nil]
  · simp only [List.filter_cons, hrow, decide_false, Bool.false_eq_true, if_false,
      List.filter_nil, List.map_nil]

/-- A game more, of the cycle if it has the marker. -/
theorem OneGame.createGame {row : CatalogueRow} {nodeId : String} (hs : OneGame tier cycleId s)
    (h : s.createGame row nodeId = some s')
    (hone : ofCycle tier cycleId row → gamesOfCycle tier cycleId s = [])
    (hmark : nodeId = cycleId.text → ofCycle tier cycleId row) : OneGame tier cycleId s' := by
  obtain ⟨hnew, hcat, game, rfl, hgames⟩ := createGame_some h
  refine ⟨?_, fun row' hrow' => ?_, fun row' hrow' htier hmarked => ?_⟩
  · rw [gamesOfCycle_append hcat]
    split_ifs with hrow
    · rw [hone hrow]
      rfl
    · rw [List.append_nil]
      exact hs.one
  · rw [hgames, Table.get_upd]
    split_ifs with e
    · rfl
    · rw [hcat, List.mem_append, List.mem_singleton] at hrow'
      exact hs.stored row' (hrow'.resolve_right fun h => e (congrArg _ h))
  · rw [hcat, List.mem_append, List.mem_singleton] at hrow'
    rw [Marked, hgames] at hmarked
    rcases hrow' with hrow' | rfl
    · -- a row that was there has another id
      have hne : row'.gameId ≠ row.gameId := fun e => by
        have hstored := hs.stored row' hrow'
        rw [e, hnew] at hstored
        cases hstored
      rw [Table.get_upd_other hne] at hmarked
      exact hs.marked row' hrow' htier hmarked
    · rw [Table.get_upd_same, Option.any_some, decide_eq_true_eq] at hmarked
      exact hmark hmarked

/-- What others write makes no game of the cycle. -/
theorem gameWrite_keeps {e : GameWrite} (hs : OneGame tier cycleId s)
    (h : gameWrite tier cycleId s e = some s') :
    OneGame tier cycleId s' ∧ gamesOfCycle tier cycleId s' = gamesOfCycle tier cycleId s := by
  cases e with
  | update gameId data =>
      simp only [gameWrite] at h
      cases hgame : s.services.database.games.get gameId with
      | none =>
          rw [hgame] at h
          cases h
      | some game =>
          simp only [hgame, Services.updateGame, Option.map_some] at h
          split_ifs at h with hmark
          obtain rfl := Option.some.inj h
          refine ⟨hs.of_games rfl (fun g hg => ?_) fun g hg => ?_, rfl⟩
          · dsimp only
            rw [Table.get_upd]
            split_ifs
            · rfl
            · exact hg
          · unfold Marked at hg ⊢
            dsimp only at hg
            rw [Table.get_upd] at hg
            split_ifs at hg with e
            · rw [Option.any_some, decide_eq_true_eq] at hg
              rw [e, hgame, Option.any_some, decide_eq_true_eq]
              exact not_not.mp fun hne => hmark ⟨hg, hne⟩
            · exact hg
  | create row nodeId =>
      simp only [gameWrite] at h
      split_ifs at h with hrow
      rw [not_or] at hrow
      refine ⟨hs.createGame h (fun h => absurd h hrow.1) fun h => absurd h hrow.2, ?_⟩
      rw [gamesOfCycle_append (createGame_some h).2.1, if_neg hrow.1, List.append_nil]

/-- The game that the marker finds is the one of the cycle. -/
theorem OneGame.of_findGame (hs : OneGame tier cycleId s) {gameId : ℕ}
    (h : s.findGame tier.id cycleId.text = some gameId) :
    gamesOfCycle tier cycleId s = [gameId] := by
  obtain ⟨row, hrow, rfl⟩ := Option.map_eq_some_iff.mp h
  have hmarked := List.find?_some hrow
  rw [Bool.and_eq_true, decide_eq_true_eq] at hmarked
  have hmem := List.mem_of_find?_eq_some hrow
  have hgame : row.gameId ∈ gamesOfCycle tier cycleId s :=
    mem_gamesOfCycle.mpr ⟨row, hmem, hs.marked row hmem hmarked.1 hmarked.2, rfl⟩
  obtain ⟨g, hg⟩ := List.length_eq_one_iff.mp
    (le_antisymm hs.one (List.length_pos_of_mem hgame))
  rw [hg, List.mem_singleton] at hgame
  rw [hg, hgame]

/-- Where each game of the cycle has its marker, none is found when there is none. -/
theorem none_of_findGame (hmarked : ∀ g ∈ gamesOfCycle tier cycleId s, Marked cycleId s g)
    (h : s.findGame tier.id cycleId.text = none) : gamesOfCycle tier cycleId s = [] := by
  refine List.eq_nil_iff_forall_not_mem.mpr fun g hg => ?_
  obtain ⟨row, hrow, hof, rfl⟩ := mem_gamesOfCycle.mp hg
  have hfind := List.find?_eq_none.mp (Option.map_eq_none_iff.mp h) row hrow
  rw [Bool.and_eq_true, decide_eq_true_eq] at hfind
  exact hfind ⟨hof.1, hmarked _ hg⟩

/-! ### The executions -/

/-- What an execution does, when it looks where `LooksAlone` lets it. -/
theorem resume_keeps {r : ℕ} {phase : Phase} {c : Reply} (hs : OneGame tier cycleId s)
    (hphase : phase.Knows tier cycleId s r)
    (hlook : c.arrival = .answered → phase = .finding →
      ∀ g ∈ gamesOfCycle tier cycleId s, Marked cycleId s g) :
    OneGame tier cycleId (phase.resume tier cycleId r s c).1 ∧
      (∀ phase', (phase.resume tier cycleId r s c).2 = some phase' →
        phase'.Knows tier cycleId (phase.resume tier cycleId r s c).1 r) ∧
      (phase ≠ .creating → gamesOfCycle tier cycleId (phase.resume tier cycleId r s c).1 =
        gamesOfCycle tier cycleId s) := by
  cases phase with
  | upserting =>
      refine ⟨?_, fun phase' h => ?_, fun _ => ?_⟩
      · rw [Phase.resume]
        dsimp only
        by_cases harrival : c.arrival = .failed
        · rw [if_pos harrival]
          exact hs
        · rw [if_neg harrival]
          exact hs.upsertRoom
      · rw [Phase.resume] at h
        dsimp only at h
        split_ifs at h
        obtain rfl := Option.some.inj h
        trivial
      · rw [Phase.resume]
        dsimp only
        by_cases harrival : c.arrival = .failed
        · rw [if_pos harrival]
        · rw [if_neg harrival]
          exact gamesOfCycle_congr catalogue_upsertRoom
  | finding =>
      refine ⟨hs, fun phase' h => ?_, fun _ => rfl⟩
      rw [Phase.resume] at h
      dsimp only at h
      split_ifs at h with harrival
      obtain rfl := Option.some.inj h
      cases hfind : s.findGame tier.id cycleId.text with
      | none => exact none_of_findGame (hlook harrival rfl) hfind
      | some gameId => exact hs.of_findGame hfind
  | returned gameId =>
      refine ⟨hs, fun phase' h => ?_, fun _ => rfl⟩
      cases h
  | creating =>
      have hnone : gamesOfCycle tier cycleId s = [] := hphase
      refine ⟨?_, fun phase' h => ?_, fun h => absurd rfl h⟩
      · rw [Phase.resume]
        dsimp only
        split_ifs
        · exact hs
        · cases hcreate : s.createGame ⟨c.uuid, tier.id, cycleId.windowStart⟩ cycleId.text with
          | none => exact hs
          | some s' => exact hs.createGame hcreate (fun _ => hnone) fun _ => ⟨rfl, rfl⟩
      · rw [Phase.resume] at h ⊢
        dsimp only at h ⊢
        split_ifs at h with hcreated
        obtain rfl := Option.some.inj h
        obtain ⟨harrival, hsome⟩ := hcreated
        obtain ⟨s', hcreate⟩ := Option.isSome_iff_exists.mp hsome
        rw [if_neg (by rw [harrival]; decide), hcreate, Option.getD_some]
        change gamesOfCycle tier cycleId s' = _
        rw [gamesOfCycle_append (createGame_some hcreate).2.1, hnone, if_pos ⟨rfl, rfl⟩]
        rfl

/-- The executions keep one game where each looks alone. -/
theorem createGame_keeps : (createGameStage tier cycleId).Keeps (LooksAlone tier cycleId)
    (OneGame tier cycleId) (Phase.Knows tier cycleId) Phase.apart where
  symm p q h hq hp := h hp hq
  start s r p _ _ hstarts := by
    obtain rfl := of_decide_eq_true hstarts
    exact ⟨trivial, fun q h => by cases h⟩
  resume s r p c hs hp hg := by
    obtain ⟨hI, hP, hQ⟩ := hs
    obtain ⟨hI', hself, hgames⟩ := resume_keeps (r := r) (c := c) hI (hP r p hp)
      fun harrival e => (hg harrival (e ▸ hp)).2
    refine ⟨hI', fun p' hp' => ⟨hself p' hp', fun r' hne q hq => ?_⟩, fun r' hne q hq => ?_⟩
    · rintro rfl
      cases p with
      | finding =>
          simp only [createGameStage, Phase.resume] at hp'
          split_ifs at hp' with harrival
          exact (hg harrival hp).1 r' q hq
      | upserting | creating =>
          simp only [createGameStage, Phase.resume] at hp'
          split_ifs at hp'
          cases hp'
      | returned gameId => cases hp'
    · by_cases e : p = .creating
      · subst e
        have hnone : gamesOfCycle tier cycleId s.store = [] := hP r _ hp
        cases q with
        | upserting | finding => trivial
        | creating => exact absurd rfl (hQ r r' _ _ hne.symm hp hq rfl)
        | returned gameId =>
            have hone : gamesOfCycle tier cycleId s.store = [gameId] := hP r' _ hq
            rw [hnone] at hone
            cases hone
      · exact (hP r' q hq).congr (hgames e)
  other s e store hs _ he := by
    obtain ⟨hI, hP, -⟩ := hs
    obtain ⟨hI', hgames⟩ := gameWrite_keeps hI he
    exact ⟨hI', fun r p hp => (hP r p hp).congr hgames⟩

/-- Before the first execution. -/
theorem BeforeCycle.holds {s : System Cycle Phase} (h : BeforeCycle tier cycleId s) :
    Processes.Holds (OneGame tier cycleId) (Phase.Knows tier cycleId) Phase.apart s := by
  refine ⟨⟨?_, h.stored, fun row _ _ hmarked => absurd hmarked (h.unmarked _)⟩, ?_, ?_⟩
  · rw [h.none]
    exact Nat.zero_le 1
  · intro r p hp
    rw [h.procs] at hp
    cases hp
  · intro r r' p q _ hp
    rw [h.procs] at hp
    cases hp

/-- A game of the cycle stays one. -/
theorem gamesOfCycle_grows {s s' : System Cycle Phase} {as : List (Act Phase Reply GameWrite)}
    (h : Run (createGameStage tier cycleId).Step s as s') :
    gamesOfCycle tier cycleId s.store <+: gamesOfCycle tier cycleId s'.store := by
  have hcreate : ∀ (t t' : Cycle) row nodeId, t.createGame row nodeId = some t' →
      gamesOfCycle tier cycleId s.store <+: gamesOfCycle tier cycleId t →
      gamesOfCycle tier cycleId s.store <+: gamesOfCycle tier cycleId t' := by
    intro t t' row nodeId hc ht
    rw [gamesOfCycle_append (createGame_some hc).2.1]
    exact ht.trans (List.prefix_append _ _)
  refine (createGameStage tier cycleId).run_stable
    (I := fun t => gamesOfCycle tier cycleId s.store <+: gamesOfCycle tier cycleId t)
    (fun r t p c ht => ?_) (fun t e t' ht he => ?_) h List.prefix_rfl
  · cases p with
    | finding | returned gameId => exact ht
    | upserting =>
        simp only [createGameStage, Phase.resume]
        split_ifs
        · exact ht
        · rwa [gamesOfCycle_congr catalogue_upsertRoom]
    | creating =>
        simp only [createGameStage, Phase.resume]
        split_ifs
        · exact ht
        · cases hc : t.createGame ⟨c.uuid, tier.id, cycleId.windowStart⟩ cycleId.text with
          | none => exact ht
          | some t' => exact hcreate t t' _ _ hc ht
  · cases e with
    | update gameId data =>
        simp only [createGameStage, gameWrite] at he
        split at he
        · cases he
        · split_ifs at he
          obtain ⟨services, -, rfl⟩ := Option.map_eq_some_iff.mp he
          exact ht
    | create row nodeId =>
        simp only [createGameStage, gameWrite] at he
        split_ifs at he
        exact hcreate t t' _ _ he ht

/-- **One game per cycle**, where each execution looks for it alone. -/
theorem one_game_per_cycle {s s' : System Cycle Phase} {as : List (Act Phase Reply GameWrite)}
    (h : Reachable (Guarded (createGameStage tier cycleId).Step (LooksAlone tier cycleId))
      (BeforeCycle tier cycleId) s)
    (run : Run (Guarded (createGameStage tier cycleId).Step (LooksAlone tier cycleId)) s as s') :
    (gamesOfCycle tier cycleId s'.store).length ≤ 1 ∧
      ∀ r r' g g', s.procs.get r = some (.returned g) → s'.procs.get r' = some (.returned g') →
        g = g' := by
  have hs := createGame_keeps.reachable (fun _ => BeforeCycle.holds) h
  have hs' := run.invariant (fun _ _ _ hs ha => createGame_keeps.step hs ha) hs
  refine ⟨hs'.1.one, fun r r' g g' hr hr' => ?_⟩
  have hg : gamesOfCycle tier cycleId s.store = [g] := hs.2.1 r _ hr
  have hg' : gamesOfCycle tier cycleId s'.store = [g'] := hs'.2.1 r' _ hr'
  have hgrows := gamesOfCycle_grows run.of_guarded
  rw [hg, hg', List.prefix_cons_iff] at hgrows
  obtain ⟨t, ht, -⟩ := hgrows.resolve_left (List.cons_ne_nil _ _)
  exact (List.cons.inj ht).1

end

/-! ### Two executions -/

def noGames : System Cycle Phase where
  store :=
    { services :=
        { database := ⟨.empty, [], [], [], .empty⟩
          wallets := []
          rewards := .empty
          leaderboard := .empty
          results := .empty
          lobbies := .empty
          chain := .funded }
      rooms := .empty
      catalogue := []
      lobbyGames := .empty
      settleQueue := []
      jobs := [] }
  procs := .empty

theorem noGames_before (tier : RoomTier) (cycleId : CycleId) :
    BeforeCycle tier cycleId noGames where
  procs := rfl
  none := rfl
  stored row hrow := by cases hrow
  unmarked gameId h := by cases h

def practiceTier : RoomTier := ⟨⟨"practice", 0, 1⟩, none, 0⟩

/-- The first window of the room. -/
def firstCycle : CycleId := ⟨"practice", 0⟩

/-- `LooksAlone`, where the first `n` executions are all that run. -/
def LooksAloneOf (n : ℕ) (tier : RoomTier) (cycleId : CycleId) (s : System Cycle Phase)
    (a : Act Phase Reply GameWrite) : Prop :=
  a.proc.all (· < n) = true ∧
    match a with
    | .resume r c => c.arrival = .answered → s.procs.get r = some .finding →
        (∀ r' < n, s.procs.get r' ≠ some .creating) ∧
          ∀ gameId ∈ gamesOfCycle tier cycleId s.store, Marked cycleId s.store gameId
    | .start _ _ | .crash _ | .other _ => True

instance (n : ℕ) (tier : RoomTier) (cycleId : CycleId) (s : System Cycle Phase)
    (a : Act Phase Reply GameWrite) : Decidable (LooksAloneOf n tier cycleId s a) := by
  unfold LooksAloneOf
  cases a <;> infer_instance

theorem LooksAloneOf.run {n : ℕ} {tier : RoomTier} {cycleId : CycleId} {s s' : System Cycle Phase}
    {as : List (Act Phase Reply GameWrite)}
    (h : Run (Guarded (createGameStage tier cycleId).Step (LooksAloneOf n tier cycleId)) s as s')
    (hs : ∀ r, n ≤ r → s.procs.get r = none) :
    Run (Guarded (createGameStage tier cycleId).Step (LooksAlone tier cycleId)) s as s' ∧
      ∀ r, n ≤ r → s'.procs.get r = none := by
  have hstep : ∀ s a s', (∀ r, n ≤ r → s.procs.get r = none) →
      Guarded (createGameStage tier cycleId).Step (LooksAloneOf n tier cycleId) s a s' →
      ∀ r, n ≤ r → s'.procs.get r = none := by
    rintro s a s' hs ⟨ha, hproc, -⟩ r hr
    rw [Processes.step_frame _ ha, hs r hr]
    intro e
    rw [e, Option.all_some, decide_eq_true_eq] at hproc
    omega
  refine ⟨h.under hstep (fun s a s' hs ha => ⟨ha.1, ?_⟩) hs, h.invariant hstep hs⟩
  obtain ⟨-, -, hlook⟩ := ha
  cases a with
  | start r p | crash r | other e => trivial
  | resume r c =>
      intro harrival hfinding
      obtain ⟨hothers, hmarked⟩ := hlook harrival hfinding
      refine ⟨fun r' p hp e => ?_, hmarked⟩
      rw [e] at hp
      by_cases hr' : r' < n
      · exact hothers r' hr' hp
      · rw [hs r' (Nat.le_of_not_lt hr')] at hp
        cases hp

/-- The job is delivered once more after the game was created. -/
theorem one_game_per_cycle_again : ∃ s s' : System Cycle Phase,
    s.procs.get 0 = some (.returned 10) ∧ s'.procs.get 1 = some (.returned 10) ∧
      (gamesOfCycle practiceTier firstCycle s'.store).length ≤ 1 := by
  have hfirst : ((createGameStage practiceTier firstCycle).actsWhen
    (LooksAloneOf 2 practiceTier firstCycle)
      noGames [.start 0 .upserting, .resume 0 {}, .resume 0 {}, .resume 0 { uuid := 10 }]).any
      (fun s => decide (s.procs.get 0 = some (.returned 10)) &&
        ((createGameStage practiceTier firstCycle).actsWhen
          (LooksAloneOf 2 practiceTier firstCycle) s
          [.start 1 .upserting, .resume 1 {}, .resume 1 {}]).any
          fun s' => decide (s'.procs.get 1 = some (.returned 10))) = true := by
    decide
  obtain ⟨s, hs, h⟩ := (Option.any_eq_true _ _).mp hfirst
  rw [Bool.and_eq_true, decide_eq_true_eq] at h
  obtain ⟨s', hs', h'⟩ := (Option.any_eq_true _ _).mp h.2
  obtain ⟨run, hrest⟩ := LooksAloneOf.run (Processes.run_of_actsWhen _ hs) fun _ _ => rfl
  obtain ⟨run', -⟩ := LooksAloneOf.run (Processes.run_of_actsWhen _ hs') hrest
  exact ⟨s, s', h.1, of_decide_eq_true h',
    (one_game_per_cycle ⟨noGames, _, noGames_before _ _, run⟩ run').1⟩

/-- Two executions look before either creates the game. -/
theorem two_games : ∃ s, Reachable (createGameStage practiceTier firstCycle).Step
    (BeforeCycle practiceTier firstCycle) s ∧
      gamesOfCycle practiceTier firstCycle s.store = [10, 11] ∧
      s.procs.get 0 = some (.returned 10) ∧ s.procs.get 1 = some (.returned 11) := by
  have hrun : ((createGameStage practiceTier firstCycle).acts noGames
      [.start 0 .upserting, .start 1 .upserting, .resume 0 {}, .resume 1 {}, .resume 0 {},
        .resume 1 {}, .resume 0 { uuid := 10 }, .resume 1 { uuid := 11 }]).any
      (fun s => decide (gamesOfCycle practiceTier firstCycle s.store = [10, 11] ∧
        s.procs.get 0 = some (.returned 10) ∧ s.procs.get 1 = some (.returned 11))) = true := by
    decide
  obtain ⟨s, hs, htest⟩ := (createGameStage practiceTier firstCycle).reachable_of_acts
    (noGames_before practiceTier firstCycle) hrun
  exact ⟨s, hs, of_decide_eq_true htest⟩

end SnakeArena.Worker
