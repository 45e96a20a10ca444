import SnakeArena.Books.Walks
import SnakeArena.Program.Rooms

/-!
# Worker — a cancelled game and its room

The database and the chain side by side: any calls of the services, any instructions, any
writes of game rows.  `cancelGameAndRefund` is the only writer of a cancelled game
(`packages/db/src/refund.ts`); the worker's failure paths and the admin route all go through it,
and it gives back what the ledger took.  It never looks at the game's room on chain, whose
entrants can claim their fees back only when it is cancelled too.
-/

namespace SnakeArena.Worker
open SnakeArena.Library SnakeArena.Db SnakeArena.Program SnakeArena.Books

structure World where
  books : System Database Call
  chain : State

inductive WorldAct where
  | books (a : Act Call Answer Outside)
  | chain (e : Event)

/-- A game row written outside the calls is not cancelled by it. -/
def Uncancelled : Act Call Answer Outside → Prop
  | .other (.game _ row) => row.status ≠ .cancelled
  | _ => True

instance (a : Act Call Answer Outside) : Decidable (Uncancelled a) := by
  unfold Uncancelled
  split <;> infer_instance

inductive WorldStep (rt : Runtime) : World → WorldAct → World → Prop where
  | books {w : World} {a : Act Call Answer Outside} {books : System Database Call}
      (h : calls.processes.Step w.books a books) (ha : Uncancelled a) :
      WorldStep rt w (.books a) { w with books }
  | chain {w : World} {e : Event} {chain : State} (h : Step rt w.chain e chain) :
      WorldStep rt w (.chain e) { w with chain }

def Cancelled (w : World) (gameId : ℕ) : Prop :=
  ∃ game, w.books.store.games.get gameId = some game ∧ game.status = .cancelled

/-- Whoever paid into the room can claim it back: nobody did, or the room is cancelled. -/
def Refundable (chain : State) (id : RoomId) : Prop :=
  ∀ r, chain.rooms.get id = some r → 0 < r.lockedCount ∨ 0 < r.totalLocked → r.status = .cancelled

/-! ### Who cancels a game -/

/-- The game that a statement cancels. -/
def cancels : Statement → Option ℕ
  | .cancelGame gameId _ => some gameId
  | _ => none

/-- The game that a commit cancels. -/
def Cancels : Commit → Option ℕ
  | .cancel gameId _ | .refund gameId _ _ _ => some gameId
  | _ => none

section Games
variable {db view : Database} {gameId : ℕ}

theorem exec_games {b : Statement} (h : Database.exec b db = .ok view)
    (hb : cancels b ≠ some gameId) : view.games.get gameId = db.games.get gameId := by
  have hw := Database.writes h
  cases b with
  | updateAccount =>
      obtain ⟨_, -, -, rfl⟩ := hw
      rfl
  | setReserved | createAccount =>
      obtain ⟨_, -, rfl⟩ := hw
      rfl
  | createTransactions | createReservation | deleteReservation | createWithdrawal
  | updateWithdrawal =>
      simp only [Database.exec] at h
      split_ifs at h
      obtain rfl := Except.ok.inj h
      rfl
  | deleteReservations =>
      obtain rfl := Except.ok.inj h
      rfl
  | cancelGame gameId' reason =>
      simp only [Database.exec] at h
      split at h
      · cases h
      · obtain rfl := Except.ok.inj h
        exact Table.get_upd_other fun e => hb (congrArg some e.symm)

theorem runAll_games {statements : List Statement} : ∀ {db view : Database},
    runAll Database.exec statements db = .ok view → (∀ b ∈ statements, cancels b ≠ some gameId) →
      view.games.get gameId = db.games.get gameId := by
  induction statements with
  | nil =>
      intro db view h _
      rw [Except.ok.inj h]
  | cons b statements ih =>
      intro db view h hb
      obtain ⟨u, hu, hrest⟩ := runAll_cons.mp h
      rw [ih hrest fun b' hb' => hb b' (List.mem_cons_of_mem _ hb'),
        exec_games hu (hb b List.mem_cons_self)]

theorem money_cancels {b : Statement} (h : b.money = true) : cancels b = none := by
  cases b with
  | cancelGame => cases h
  | _ => rfl

theorem aside_cancels {b : Statement} (h : b.aside = false) : cancels b = none := by
  cases b with
  | cancelGame => cases h
  | _ => rfl

/-- A statement that cancels a game is of a commit that does. -/
theorem statements_cancels {t : Commit} : ∀ b ∈ t.statements,
    cancels b = none ∨ cancels b = Cancels t := by
  intro b hb
  cases t with
  | createAccount | entry | settle | adjust =>
      exact .inl (money_cancels (Commit.statements_money rfl b hb))
  | cancel =>
      obtain rfl := List.mem_singleton.mp hb
      exact .inr rfl
  | refund =>
      obtain hb | rfl := refundStatements_money b hb
      · exact .inl (money_cancels hb)
      · exact .inr rfl
  | consume =>
      simp only [Commit.statements, List.mem_append, List.mem_cons, List.not_mem_nil,
        or_false] at hb
      obtain hb | rfl | rfl := hb
      · exact .inl (aside_cancels (stakeStatements_aside b hb))
      · exact .inl rfl
      · exact .inl rfl
  | release row custody =>
      cases custody with
      | none | some =>
          simp only [Commit.statements, List.mem_cons, List.not_mem_nil, or_false] at hb
          obtain rfl | rfl := hb <;> exact .inl rfl
  | reserve | intent | unreserve | updateWithdrawal =>
      simp only [Commit.statements, List.mem_cons, List.not_mem_nil, or_false] at hb
      obtain rfl | rfl := hb <;> exact .inl rfl

/-- A commit that does not cancel the game leaves its row. -/
theorem commit_games {t : Commit} (h : runAll Database.exec t.statements db = .ok view)
    (ht : Cancels t ≠ some gameId) : view.games.get gameId = db.games.get gameId := by
  refine runAll_games h fun b hb => ?_
  obtain hb | hb := statements_cancels b hb
  · rw [hb]
    exact nofun
  · rwa [hb]

end Games

/-! ### Rooms -/

/-- The instruction pays an entry fee into the room. -/
def Pays (id : RoomId) : Instruction → Prop
  | .enterRoom accs => accs.room.key = .room id
  | .lockEntryFee accs => accs.room.key = .room id
  | _ => False

/-- Only a payment into it makes a room less refundable. -/
theorem Refundable.exec {rt : Runtime} {now : ℤ} {s : State} {i : Instruction} {t : Tx}
    {id : RoomId} (h : Refundable s id) (hexec : Program.exec rt now s i = .ok t)
    (hi : ¬Pays id i) : Refundable t.state id := by
  intro r' hr' hpaid
  have heffect := exec_effect hexec
  by_cases hcloses : i.Closes id
  · cases (heffect.room_closed hcloses).symm.trans hr'
  cases hr : s.rooms.get id with
  | none =>
      obtain ⟨-, -, -, hlocked, -, htotal⟩ := heffect.room_created hr hr'
      omega
  | some r =>
      obtain ⟨r'', hr'', hchange⟩ := heffect.room_change hr hcloses
      obtain rfl := Option.some.inj (hr''.symm.trans hr')
      generalize t.state.roomPlayers = rps at hchange
      cases hchange with
      | other | joinRoom | closeRoomPlayer => exact h r hr hpaid
      | lockEntryFee hkey | enterRoom hkey => exact absurd hkey hi
      | startRoom _ hst | unlockPrize _ hst | distributeWinnings _ hst | settleToWinner _ hst =>
          cases (h r hr hpaid).symm.trans hst
      | cancelRoom => rfl
      | claimRefund _ hst => exact hst

/-! ### Runs -/

/-- A game is cancelled when nobody has to be refunded on chain, and nobody pays into the room
of a cancelled game. -/
def Agrees (w : World) : WorldAct → Prop
  | .books a =>
      Calls.Allows (fun _ t => ∀ gameId, Cancels t = some gameId →
        Refundable w.chain (roomIdFromUuid gameId)) w.books a
  | .chain (.exec _ i) => ∀ gameId, Cancelled w gameId → ¬Pays (roomIdFromUuid gameId) i
  | .chain .outside => True

/-- Before the program's first call, with no call running and no game cancelled. -/
structure WorldStart (w : World) : Prop where
  chain : w.chain.Genesis
  procs : w.books.procs = Table.empty
  games : ∀ gameId, ¬Cancelled w gameId

/-- What each call commits, with no invariant. -/
abbrev Labelled (s : System Database Call) : Prop :=
  Processes.Holds (fun _ => True)
    (fun s _ p => Calls.Knows calls (fun _ => True) Database.Later Database.Trust
      (Spec fun _ _ => True) s p) (fun _ _ => True) s

theorem labelled_step {s s' : System Database Call} {a : Act Call Answer Outside}
    (h : Labelled s) (hstep : calls.processes.Step s a s') : Labelled s' := by
  have hkeeps := @calls_keep (fun _ => True) (fun _ _ => True) (fun _ _ => True)
    ⟨fun _ _ _ _ _ => trivial, fun _ _ _ _ _ _ => trivial⟩ (fun _ _ _ _ _ _ _ _ => trivial)
    fun _ _ _ => trivial
  refine hkeeps.step h ⟨hstep, ?_⟩
  cases a with
  | resume r c =>
      simp only [Calls.Allows]
      split <;> trivial
  | start | crash | other => trivial

/-- A game that a step cancels is one that its commit cancels. -/
theorem cancelled_step {w w' : World} {a : Act Call Answer Outside} {gameId : ℕ}
    (hlabels : Labelled w.books) (hstep : calls.processes.Step w.books a w'.books)
    (ha : Uncancelled a) (hbefore : ¬Cancelled w gameId) (hafter : Cancelled w' gameId) :
    ∃ r c t k pending committed, a = .resume r c ∧
      w.books.procs.get r = some (.running (.commit t k) pending committed) ∧
      Cancels t = some gameId := by
  obtain ⟨game, hgame, hcancelled⟩ := hafter
  have hsame : w'.books.store.games.get gameId ≠ w.books.store.games.get gameId :=
    fun e => hbefore ⟨game, e ▸ hgame, hcancelled⟩
  cases a with
  | start r p =>
      simp only [Processes.Step, Processes.act, Option.ite_none_right_eq_some] at hstep
      exact absurd (by rw [← Option.some.inj hstep.2]) hsame
  | crash r =>
      simp only [Processes.Step, Processes.act, Option.ite_none_right_eq_some] at hstep
      exact absurd (by rw [← Option.some.inj hstep.2]) hsame
  | other e =>
      obtain ⟨gameId', row⟩ := e
      rw [← Option.some.inj hstep] at hgame hsame
      by_cases e : gameId = gameId'
      · subst e
        obtain rfl := Option.some.inj ((Table.get_upd_same _ _ _).symm.trans hgame)
        exact absurd hcancelled ha
      · exact absurd (Table.get_upd_other e) hsame
  | resume r c =>
      obtain ⟨p, hp, hstore, -⟩ := calls.processes.step_resume hstep
      obtain ⟨hquiet, -⟩ | ⟨t, k, pending, committed, view, rfl, hrun, hout⟩ :=
        calls.resume_store w.books.store p r c
      · exact absurd (by rw [hstore]; exact congrArg (fun db => db.games.get gameId) hquiet) hsame
      · refine ⟨r, c, t, k, pending, committed, rfl, hp, ?_⟩
        by_contra ht
        obtain ⟨⟨⟨rfl, -⟩, -⟩, -⟩ := hlabels.2.1 r _ hp
        refine hsame ?_
        rw [hstore,
          show (calls.processes.resume r w.books.store _ c).1 = view from congrArg Prod.fst hout]
        exact commit_games hrun ht

/-- **A cancelled game gives the chain stakes back too**, in every run in which each game is
cancelled when its room has nobody to refund, and nobody enters its room afterwards. -/
theorem cancelled_refundable {rt : Runtime} {w : World}
    (hw : Reachable (Guarded (WorldStep rt) Agrees) WorldStart w) (gameId : ℕ)
    (hcancelled : Cancelled w gameId) : Refundable w.chain (roomIdFromUuid gameId) := by
  refine (hw.invariant (I := fun w => Labelled w.books ∧
    ∀ gameId, Cancelled w gameId → Refundable w.chain (roomIdFromUuid gameId)) ?_ ?_).2
      gameId hcancelled
  · intro w h₀
    refine ⟨⟨trivial, ?_, fun _ _ _ _ _ _ _ => trivial⟩, fun gameId h => absurd h (h₀.games gameId)⟩
    rw [h₀.procs]
    exact Table.All.empty
  · rintro w a w' ⟨hlabels, hw⟩ ⟨hstep, hagrees⟩
    cases hstep with
    | @books a books hstep ha =>
        refine ⟨labelled_step hlabels hstep, fun gameId hcancelled => ?_⟩
        by_cases hbefore : Cancelled w gameId
        · exact hw gameId hbefore
        · obtain ⟨r, c, t, k, pending, committed, rfl, hp, ht⟩ :=
            cancelled_step hlabels hstep ha hbefore hcancelled
          simp only [Agrees, Calls.Allows, hp] at hagrees
          exact hagrees gameId ht
    | @chain e chain hstep =>
        refine ⟨hlabels, fun gameId hcancelled => ?_⟩
        cases hstep with
        | exec hexec => exact (hw gameId hcancelled).exec hexec (hagrees gameId hcancelled)
        | outside => exact hw gameId hcancelled

section Lift
variable {rt : Runtime} {G : World → WorldAct → Prop}

theorem chain_run {books : System Database Call} {s s' : State} {es : List Event}
    (h : Run (Step rt) s es s') (hG : ∀ s e, G ⟨books, s⟩ (.chain e)) :
    Run (Guarded (WorldStep rt) G) ⟨books, s⟩ (es.map .chain) ⟨books, s'⟩ := by
  induction h with
  | nil => exact .nil _
  | cons h _ ih => exact .cons ⟨.chain h, hG _ _⟩ ih

theorem books_run {G' : System Database Call → Act Call Answer Outside → Prop} {chain : State}
    {books books' : System Database Call} {as : List (Act Call Answer Outside)}
    (h : Run (Guarded calls.processes.Step G') books as books')
    (hG : ∀ s a, G' s a → Uncancelled a ∧ G ⟨s, chain⟩ (.books a)) :
    Run (Guarded (WorldStep rt) G) ⟨books, chain⟩ (as.map .books) ⟨books', chain⟩ := by
  induction h with
  | nil => exact .nil _
  | cons h _ ih =>
      obtain ⟨ha, hg⟩ := hG _ _ h.2
      exact .cons ⟨.books h.1 ha, hg⟩ ih

end Lift

theorem emptyDatabase_not_cancelled (chain : State) (gameId : ℕ) :
    ¬Cancelled ⟨emptyDatabase, chain⟩ gameId := by
  rintro ⟨game, hgame, -⟩
  rw [emptyDatabase, Table.get_empty] at hgame
  cases hgame

/-- A running game is cancelled. -/
def cancelledGame : List (Act Call Answer Outside) :=
  .other (.game 7 { Game.created "" 500 with status := .running }) ::
    callOnce (.cancelGameAndRefund 7 "node never reported") 6

/-- Only game 7 is cancelled. -/
def CancelsOnly (s : System Database Call) (a : Act Call Answer Outside) : Prop :=
  Uncancelled a ∧ Calls.Allows (fun _ t => Cancels t = none ∨ Cancels t = some 7) s a

instance (s : System Database Call) (a : Act Call Answer Outside) : Decidable (CancelsOnly s a) :=
  inferInstanceAs (Decidable (_ ∧ _))

theorem cancelledGame_run : ∃ books,
    Run (Guarded calls.processes.Step CancelsOnly) emptyDatabase cancelledGame books ∧
      ∀ chain, Cancelled ⟨books, chain⟩ 7 := by
  have hrun : (calls.processes.actsWhen CancelsOnly emptyDatabase cancelledGame).any (fun s =>
      (s.store.games.get 7).any (·.status = .cancelled)) = true := by decide
  obtain ⟨books, hbooks, htest⟩ := (Option.any_eq_true _ _).mp hrun
  obtain ⟨game, hgame, hcancelled⟩ := (Option.any_eq_true _ _).mp htest
  exact ⟨books, calls.processes.run_of_actsWhen hbooks,
    fun _ => ⟨game, hgame, of_decide_eq_true hcancelled⟩⟩

/-- The room is cancelled first. -/
theorem cancelled_refundable_cancelled : ∃ w r,
    w.chain.rooms.get (roomIdFromUuid 7) = some r ∧ 0 < r.totalLocked ∧ Cancelled w 7 ∧
      Refundable w.chain (roomIdFromUuid 7) := by
  have hchain : (execAll .validator .funded
      [(0, Call.initializeProgram (.key 1) (.key 2) (.key 3) 500 50),
        (1, Call.createRoom (.key 2) (roomIdFromUuid 7) 1000000 4),
        (2, Call.enterRoom (.key 4) (roomIdFromUuid 7)),
        (3, Call.cancelRoom (.key 2) (roomIdFromUuid 7))]).passes (fun s =>
      (s.rooms.get (roomIdFromUuid 7)).any fun r =>
        decide (0 < r.totalLocked ∧ r.status = .cancelled)) = true := by
    decide
  obtain ⟨chain, hexec, htest⟩ := Result.passes_iff.mp hchain
  obtain ⟨r, hr, htest⟩ := (Option.any_eq_true _ _).mp htest
  obtain ⟨hpaid, hcancelled⟩ := of_decide_eq_true htest
  have hrefundable : Refundable chain (roomIdFromUuid 7) := by
    intro r' hr' _
    obtain rfl := Option.some.inj (hr.symm.trans hr')
    exact hcancelled
  have hnone := emptyDatabase_not_cancelled
  obtain ⟨books, hbooks, hgame⟩ := cancelledGame_run
  have hreach : Reachable (Guarded (WorldStep .validator) Agrees) WorldStart ⟨books, chain⟩ := by
    refine ⟨⟨emptyDatabase, .funded⟩, _, ⟨State.funded_genesis, rfl, hnone _⟩,
      (chain_run (execAll_run hexec) fun s e => ?_).append
        (books_run hbooks fun s a ha => ⟨ha.1, ?_⟩)⟩
    · cases e with
      | exec => exact fun gameId h => absurd h (hnone s gameId)
      | outside => trivial
    · cases a with
      | resume r c =>
          have h := ha.2
          simp only [Agrees, Calls.Allows] at h ⊢
          split at h
          next hp =>
              rintro gameId ht
              obtain h | h := h
              · cases h.symm.trans ht
              · obtain rfl := Option.some.inj (h.symm.trans ht)
                exact hrefundable
          next => trivial
      | start | crash | other => trivial
  exact ⟨_, r, hr, hpaid, hgame chain, cancelled_refundable hreach 7 (hgame chain)⟩

/-- Two players have entered on chain; the cancel returns what the ledger took, which is
nothing. -/
theorem cancelled_refundable_open : ¬∀ w, Reachable (WorldStep .validator) WorldStart w →
    ∀ gameId, Cancelled w gameId → Refundable w.chain (roomIdFromUuid gameId) := by
  intro h
  have hchain : (execAll .validator .funded
      [(0, Call.initializeProgram (.key 1) (.key 2) (.key 3) 500 50),
        (1, Call.createRoom (.key 2) (roomIdFromUuid 7) 1000000 4),
        (2, Call.enterRoom (.key 4) (roomIdFromUuid 7)),
        (3, Call.enterRoom (.key 5) (roomIdFromUuid 7))]).passes (fun s =>
      (s.rooms.get (roomIdFromUuid 7)).any fun r =>
        decide (0 < r.totalLocked ∧ r.status = .open)) = true := by
    decide
  obtain ⟨chain, hexec, htest⟩ := Result.passes_iff.mp hchain
  obtain ⟨r, hr, htest⟩ := (Option.any_eq_true _ _).mp htest
  obtain ⟨hpaid, hopen⟩ := of_decide_eq_true htest
  obtain ⟨books, hbooks, hgame⟩ := cancelledGame_run
  have hrun : Run (Guarded (WorldStep .validator) fun _ _ => True) ⟨emptyDatabase, .funded⟩ _
      ⟨books, chain⟩ :=
    (chain_run (execAll_run hexec) fun _ _ => trivial).append
      (books_run hbooks fun _ _ ha => ⟨ha.1, trivial⟩)
  have hstart : WorldStart ⟨emptyDatabase, .funded⟩ :=
    ⟨State.funded_genesis, rfl, emptyDatabase_not_cancelled _⟩
  have hcancelled := h _ ⟨_, _, hstart, hrun.of_guarded⟩ 7 (hgame chain) r hr (.inr hpaid)
  cases hopen.symm.trans hcancelled

end SnakeArena.Worker
