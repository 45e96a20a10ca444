import SnakeArena.Realtime.Admission

/-!
# Realtime — the reconnect window

A ticket is verified before the reconnect note is read, and it expires long before the note does.

* `reconnect_admits`: a player who was let in and presents the ticket again is let in to that
  room, while the note for it is live, exactly when the ticket has not expired, the address has a
  token left and Redis answers.
-/

namespace SnakeArena.Realtime
open SnakeArena.Library SnakeArena.Matchmaker

variable {config : MatchConfig}

/-! ### The claims of a ticket -/

/-- The ticket verified on the node once, with these claims. -/
def Claimed (config : MatchConfig) (nodeId ticket : String) (claims : TicketClaims) : Prop :=
  ticket ≠ "" ∧ claims.nodeId = nodeId ∧
    ∃ now, verifyTicket config.format ticket config.jwtSecret now = .ok claims

def EntryPoint.claims : EntryPoint → Option TicketClaims
  | .start => none
  | .takeTicket claims | .getNote claims | .setNote claims _ _ => some claims

def Entry.Claimed (config : MatchConfig) (p : Entry) : Prop :=
  ∀ claims, p.point.claims = some claims → Realtime.Claimed config p.nodeId p.ticket claims

theorem arena_claimed (config : MatchConfig) :
    (arena config).Keeps (fun _ _ => True)
      (fun s => ∀ a ∈ s.history.admissions, Claimed config a.nodeId a.ticket a.claims)
      (fun _ _ flow => flow.Handshakes (Entry.Claimed config)) fun _ _ => True := by
  refine arena_keeps (fun p hpt claims e => ?_) (fun s r p c hp hclaimed _ out p' ho hp' => ?_)
    fun r p claims taken again hclaimed hpt => hclaimed claims (by rw [hpt]; rfl)
  · rw [hpt] at e
    cases e
  cases ho with
  | fails | rejects | unnoted | enters => cases hp'
  | @verifies given claims s' hpt hs hne hok hnode =>
      obtain rfl := Option.some.inj hp'
      rintro claims' ⟨⟩
      exact ⟨hne, hnode, given.now, hok⟩
  | takes hpt | misses hpt | noted hpt =>
      obtain rfl := Option.some.inj hp'
      rintro claims' ⟨⟩
      exact hclaimed _ (by rw [hpt]; rfl)

/-- Whoever was let in came with a ticket that verifies until it expires. -/
theorem admission_claimed {s : System Store Flow} (hs : Reachable (arena config).Step Genesis s)
    {a : Admission} (ha : a ∈ s.store.history.admissions) :
    Claimed config a.nodeId a.ticket a.claims := by
  obtain ⟨hI, -⟩ := (arena_claimed config).reachable (fun s h => by
    obtain ⟨-, -, -, -, -, hhistory, hprocs⟩ := h
    refine ⟨?_, ?_, fun r _ p _ _ hp => ?_⟩
    · simp only [hhistory]
      nofun
    · rw [hprocs]
      exact .empty
    · rw [hprocs] at hp
      cases hp) (hs.mono fun _ _ _ h => ⟨h, trivial⟩)
  exact hI a ha

/-! ### The handshake of one socket -/

/-- What an act adds to the sockets that were let in is the socket it is of. -/
theorem step_admissions {s s' : System Store Flow} {a : Act Flow Answer Outside}
    (h : (arena config).Step s a s') :
    ∃ new, s'.store.history.admissions = s.store.history.admissions ++ new ∧
      ∀ b ∈ new, a.proc = some b.socket := by
  cases a with
  | start r p =>
      simp only [Processes.Step, Processes.act, Option.ite_none_right_eq_some] at h
      obtain rfl := Option.some.inj h.2
      exact ⟨[], (List.append_nil _).symm, by rintro _ ⟨⟩⟩
  | crash r =>
      simp only [Processes.Step, Processes.act, Option.ite_none_right_eq_some] at h
      obtain rfl := Option.some.inj h.2
      exact ⟨[], (List.append_nil _).symm, by rintro _ ⟨⟩⟩
  | other e =>
      simp only [Processes.Step, Processes.act, Option.map_eq_some_iff] at h
      obtain ⟨store, hstore, rfl⟩ := h
      exact ⟨[], by rw [Outside.apply_history hstore, List.append_nil], by rintro _ ⟨⟩⟩
  | resume r c =>
      obtain ⟨flow, -, hstore, -⟩ := (arena config).step_resume h
      rw [hstore]
      cases flow with
      | matchmake p =>
          have hsame := (resume_match config p s.store c).1
          exact ⟨[], hsame.trans (List.append_nil _).symm, by rintro _ ⟨⟩⟩
      | launch p =>
          have hsame := (resume_launch config p s.store c).1
          exact ⟨[], hsame.trans (List.append_nil _).symm, by rintro _ ⟨⟩⟩
      | handshake p =>
          rcases (p.resume_outcome config r s.store c).admissions with hsame | ⟨_, _, _, -, -, hnew⟩
          · exact ⟨[], hsame.trans (List.append_nil _).symm, by rintro _ ⟨⟩⟩
          · refine ⟨_, hnew, fun b hb => ?_⟩
            obtain rfl := List.mem_singleton.mp hb
            rfl

/-- Socket `r` is neither cut off nor opened anew, and where its handshake reads the note, the note
names the room of `a`. -/
def NoteLive (r : ℕ) (a : Admission) (s : System Store Flow) : Act Flow Answer Outside → Prop
  | .start r' _ | .crash r' => r' ≠ r
  | .resume r' (.ok _) =>
      match s.procs.get r' with
      | some (.handshake p) =>
          match p.point with
          | .getNote _ => r' = r → s.store.note a.claims.playerId = some a.claims.roomId
          | _ => True
      | _ => True
  | _ => True

instance (r : ℕ) (a : Admission) (s : System Store Flow) : DecidablePred (NoteLive r a s) :=
  fun act => by
    unfold NoteLive
    rcases act with _ | ⟨r', _ | _⟩ | _ | _ <;> dsimp only
    on_goal 2 => rcases s.procs.get r' with _ | _ | _ | p
    on_goal 5 =>
      dsimp only
      rcases p.point
    all_goals infer_instance

/-- The socket that `r` was let in with. -/
def LetIn (r : ℕ) (claims : TicketClaims) (new : List Admission) : Prop :=
  ∃ b ∈ new, b.socket = r ∧ b.claims = claims

/-- How far the handshake of `r` is, when it is `fit` to be let in, and whether each of its
commands was answered. -/
def Underway (fit : Prop) (r : ℕ) (claims : TicketClaims) (as : List (Act Flow Answer Outside))
    (new : List Admission) : Option Flow → Prop
  | some (.handshake p) =>
      fit ∧ p.point.claims = some claims ∧ (∀ message, .resume r (.throw message) ∉ as) ∧
        ∀ b ∈ new, b.socket ≠ r
  | some _ => False
  | none => LetIn r claims new ↔ fit ∧ ∀ message, .resume r (.throw message) ∉ as

/-- An act of another leaves a handshake where it is. -/
theorem Underway.frame {fit : Prop} {r : ℕ} {claims : TicketClaims}
    {as : List (Act Flow Answer Outside)}
    {new new' : List Admission} {flow : Option Flow} (h : Underway fit r claims as new flow)
    {a : Act Flow Answer Outside} (ha : a.proc ≠ some r)
    (hnew : ∀ b ∈ new', a.proc = some b.socket) :
    Underway fit r claims (as ++ [a]) (new ++ new') flow := by
  have hother : ∀ b ∈ new', b.socket ≠ r := fun b hb e => ha (e ▸ hnew b hb)
  have hthrow : (∀ message, Act.resume r (.throw message) ∉ as ++ [a]) ↔
      ∀ message, Act.resume r (.throw message) ∉ as := by
    refine forall_congr' fun message => not_congr ?_
    rw [List.mem_append, List.mem_singleton, or_iff_left]
    rintro rfl
    exact ha rfl
  rcases flow with _ | p | p | p
  · refine Iff.trans ?_ (h.trans (and_congr_right fun _ => hthrow.symm))
    constructor
    · rintro ⟨b, hb, hsocket, hclaims⟩
      rcases List.mem_append.mp hb with hb | hb
      · exact ⟨b, hb, hsocket, hclaims⟩
      · exact absurd hsocket (hother b hb)
    · rintro ⟨b, hb, hb'⟩
      exact ⟨b, List.mem_append_left _ hb, hb'⟩
  · exact h
  · exact h
  · obtain ⟨hfit, hclaims, hanswered, hnone⟩ := h
    refine ⟨hfit, hclaims, hthrow.mpr hanswered, fun b hb => ?_⟩
    exact (List.mem_append.mp hb).elim (hnone b) (hother b)

/-- The handshake gets an answer of Redis. -/
theorem Underway.answer {fit : Prop} {r : ℕ} {a : Admission} {as : List (Act Flow Answer Outside)}
    {new : List Admission} {p : Entry} {s s' : System Store Flow} {c : Answer}
    (h : Underway fit r a.claims as new (some (.handshake p)))
    (hp : s.procs.get r = some (.handshake p)) (hg : NoteLive r a s (.resume r c))
    (hstep : (arena config).Step s (.resume r c) s') :
    ∃ new', s'.store.history.admissions = s.store.history.admissions ++ new' ∧
      Underway fit r a.claims (as ++ [.resume r c]) (new ++ new') (s'.procs.get r) := by
  obtain ⟨hfit, hclaims, hanswered, hnone⟩ := h
  obtain ⟨flow, hflow, hstore, hprocs⟩ := (arena config).step_resume hstep
  obtain rfl : Flow.handshake p = flow := Option.some.inj (hp.symm.trans hflow)
  have ho := p.resume_outcome config r s.store c
  simp only [arena, Prod.map_fst, Prod.map_snd, id_eq] at hstore hprocs
  generalize p.resume config r s.store c = out at ho hstore hprocs
  have hanswer : ∀ given, c = .ok given →
      ∀ message, Act.resume r (.throw message) ∉ as ++ [.resume r c] := by
    rintro given rfl message hmem
    rcases List.mem_append.mp hmem with hmem | hmem
    · exact hanswered message hmem
    · cases List.mem_singleton.mp hmem
  cases ho with
  | @fails message =>
      refine ⟨[], hstore ▸ (List.append_nil _).symm, ?_⟩
      rw [hprocs, List.append_nil]
      simp only [Entry.refuse, Option.map_none, Option.elim_none, Table.get_del_same]
      refine iff_of_false ?_ fun hall => hall.2 message (List.mem_append_right _ (.head _))
      rintro ⟨b, hb, hsocket, -⟩
      exact hnone b hb hsocket
  | rejects message hpt hs | verifies hpt =>
      rw [hpt] at hclaims
      cases hclaims
  | unnoted message hpt hnote =>
      rw [hpt] at hclaims
      obtain rfl := Option.some.inj hclaims
      simp only [NoteLive, hp, hpt] at hg
      exact absurd (hg trivial) hnote
  | takes hpt htaken | misses hpt hnone' | noted hpt hnote =>
      refine ⟨[], hstore ▸ (List.append_nil _).symm, ?_⟩
      rw [hprocs, List.append_nil]
      simp only [Entry.goto, Option.map_some, Option.elim_some, Table.get_upd_same]
      rw [hpt] at hclaims
      exact ⟨hfit, hclaims, hanswer _ rfl, hnone⟩
  | enters hpt =>
      rw [hpt] at hclaims
      obtain rfl := Option.some.inj hclaims
      refine ⟨_, by rw [hstore]; rfl, ?_⟩
      rw [hprocs]
      simp only [Entry.enter, Option.map_none, Option.elim_none, Table.get_del_same]
      refine iff_of_true ?_ ⟨hfit, hanswer _ rfl⟩
      exact ⟨_, List.mem_append_right _ (.head _), rfl, rfl⟩

/-- A handshake that is under way ends by letting the socket in, if Redis answers. -/
theorem underway_run {fit : Prop} {r : ℕ} {a : Admission} {s s' : System Store Flow}
    {as : List (Act Flow Answer Outside)}
    (hrun : Run (Guarded (arena config).Step (NoteLive r a)) s as s')
    (h : Underway fit r a.claims [] [] (s.procs.get r)) :
    ∃ new, s'.store.history.admissions = s.store.history.admissions ++ new ∧
      Underway fit r a.claims as new (s'.procs.get r) := by
  -- what the acts so far have added, and where the handshake is after them
  refine hrun.history (I := fun as s' => ∃ new,
    s'.store.history.admissions = s.store.history.admissions ++ new ∧
      Underway fit r a.claims as new (s'.procs.get r)) ⟨[], (List.append_nil _).symm, h⟩ ?_
  rintro as s₁ act s₂ - ⟨new, hnew, hunder⟩ ⟨hstep, hg⟩
  by_cases hact : act.proc = some r
  · cases act with
    | start r' p => exact absurd (Option.some.inj hact) hg
    | crash r' => exact absurd (Option.some.inj hact) hg
    | other e => cases hact
    | resume r' c =>
        obtain rfl := Option.some.inj hact
        obtain ⟨flow, hflow, -, -⟩ := (arena config).step_resume hstep
        rw [hflow] at hunder
        cases flow with
        | matchmake p => exact hunder.elim
        | launch p => exact hunder.elim
        | handshake p =>
            obtain ⟨new', hnew', hunder'⟩ := hunder.answer hflow hg hstep
            exact ⟨new ++ new', by rw [hnew', hnew, List.append_assoc], hunder'⟩
  · obtain ⟨new', hnew', hothers⟩ := step_admissions hstep
    refine ⟨new ++ new', by rw [hnew', hnew, List.append_assoc], ?_⟩
    rw [(arena config).step_frame hstep hact]
    exact hunder.frame hact hothers

/-- A ticket that verified once is turned away when it has expired, and when the address has no
token left. -/
theorem Entry.resume_start {p : Entry} {claims : TicketClaims}
    (h : Realtime.Claimed config p.nodeId p.ticket claims) (hpt : p.point = .start) (r : ℕ)
    (s : Store) (given : Given) :
    ∃ s' message, s'.history = s.history ∧
      p.resume config r s (.ok given) =
        if given.now < claims.expiresAt ∧
            (tryConnect s p.nodeId p.address given.now).1 = true
        then p.goto s' (.takeTicket claims) else p.refuse s' message := by
  obtain ⟨hne, hnode, now, hok⟩ := h
  simp only [Entry.resume, hpt]
  have hhistory : (tryConnect s p.nodeId p.address given.now).2.history = s.history := rfl
  generalize tryConnect s p.nodeId p.address given.now = attempt at hhistory ⊢
  obtain ⟨allowed, s'⟩ := attempt
  refine ⟨s', ?_⟩
  cases allowed with
  | false => exact ⟨"RATE_LIMITED: too many connection attempts", hhistory, by simp⟩
  | true =>
      simp only [if_true, Entry.verify, hne, if_false, verifyTicket_later hok, and_true]
      by_cases hlate : claims.expiresAt ≤ given.now
      · refine ⟨"INVALID_TICKET: " ++ TicketError.expired.message, hhistory, ?_⟩
        rw [if_pos hlate, if_neg (not_lt.mpr hlate)]
      · refine ⟨"", hhistory, ?_⟩
        simp only [hlate, if_false, hnode, ne_eq, not_true_eq_false, if_pos (not_le.mp hlate)]

/-- **The reconnect window.**  A player who was let in, and presents the ticket again while the
note names the room, is let in to it exactly when the ticket has not expired, the address has a
token left and Redis answers each command. -/
theorem reconnect_admits {s s' : System Store Flow} (hs : Reachable (arena config).Step Genesis s)
    {a : Admission} (ha : a ∈ s.store.history.admissions) {r : ℕ} {p : Entry}
    (hp : s.procs.get r = some (.handshake p)) (hpt : p.point = .start)
    (hticket : p.ticket = a.ticket) (hnode : p.nodeId = a.nodeId) {given : Given}
    {as : List (Act Flow Answer Outside)}
    (hrun : Run (Guarded (arena config).Step (NoteLive r a)) s (.resume r (.ok given) :: as) s')
    (hend : s'.procs.get r = none) :
    ∃ new, s'.store.history.admissions = s.store.history.admissions ++ new ∧
      ((∃ b ∈ new, b.socket = r ∧ b.claims = a.claims) ↔
        given.now < a.claims.expiresAt ∧
          (tryConnect s.store p.nodeId p.address given.now).1 = true ∧
          ∀ message, .resume r (.throw message) ∉ as) := by
  have hclaimed := admission_claimed hs ha
  rw [← hticket, ← hnode] at hclaimed
  obtain ⟨s₀, message, hhistory, hresume⟩ := Entry.resume_start hclaimed hpt r s.store given
  rcases hrun with _ | @⟨_, s₁, _, _, _, ⟨hstep, -⟩, hrun⟩
  obtain ⟨flow, hflow, hstore, hprocs⟩ := (arena config).step_resume hstep
  obtain rfl : Flow.handshake p = flow := Option.some.inj (hp.symm.trans hflow)
  simp only [arena, hresume, Prod.map_fst, Prod.map_snd, id_eq] at hstore hprocs
  have hunder : Underway (given.now < a.claims.expiresAt ∧
      (tryConnect s.store p.nodeId p.address given.now).1 = true) r a.claims [] []
      (s₁.procs.get r) := by
    rw [hprocs]
    split
    case isTrue hfit =>
      simp only [Entry.goto, Option.map_some, Option.elim_some, Table.get_upd_same]
      exact ⟨hfit, rfl, (by rintro _ ⟨⟩), by rintro _ ⟨⟩⟩
    case isFalse hfit =>
      simp only [Entry.refuse, Option.map_none, Option.elim_none, Table.get_del_same]
      exact iff_of_false (by rintro ⟨_, ⟨⟩, _⟩) fun hgood => hfit hgood.1
  obtain ⟨new, hnew, hunder⟩ := underway_run hrun hunder
  refine ⟨new, ?_, ?_⟩
  · rw [hnew, hstore]
    split <;> simp only [Entry.goto, Entry.refuse, hhistory]
  · rw [hend] at hunder
    rw [← and_assoc]
    exact hunder

/-- The socket that a ticket of room `a` let in first. -/
def first : Admission := ⟨1, "n", "a.key", entry "a" 0, some "a.key", false⟩

/-- The ticket is presented again at `now`. -/
def returned (now : ℕ) : List (Act Flow Answer Outside) :=
  asked 0 "a" 0 ++ presented 1 "a.key" 1000 3 ++ .other (.tick now) :: presented 2 "a.key" now 0

/-- The state a ticket is presented again in, and the acts that end its handshake. -/
theorem returned_run (now n : ℕ) (test test' : System Store Flow → Bool)
    (h : ((arena (rooms [entry "a" 0])).acts noTickets (returned now)).any (fun s =>
      decide (first ∈ s.store.history.admissions) && test s &&
        (match s.procs.get 2 with
          | some (.handshake p) =>
              decide (p.nodeId = "n" ∧ p.address = "ip" ∧ p.ticket = "a.key") &&
                (match p.point with | .start => true | _ => false)
          | _ => false) &&
        ((arena (rooms [entry "a" 0])).actsWhen (NoteLive 2 first) s
          (answers "" now (n + 1) 2)).any fun s' => (s'.procs.get 2).isNone && test' s') = true) :
    ∃ s s' p, Reachable (arena (rooms [entry "a" 0])).Step Genesis s ∧
      first ∈ s.store.history.admissions ∧ test s = true ∧
      s.procs.get 2 = some (.handshake p) ∧ p = ⟨"n", "ip", "a.key", .start⟩ ∧
      Run (Guarded (arena (rooms [entry "a" 0])).Step (NoteLive 2 first)) s
        (answers "" now (n + 1) 2) s' ∧ s'.procs.get 2 = none ∧ test' s' = true := by
  obtain ⟨s, hs, h⟩ := (arena _).reachable_of_acts noTickets_genesis h
  simp only [Bool.and_eq_true, decide_eq_true_eq] at h
  obtain ⟨⟨⟨hfirst, htest⟩, hp⟩, hrun⟩ := h
  obtain ⟨s', hrun, h⟩ := (Option.any_eq_true _ _).mp hrun
  obtain ⟨hend, htest'⟩ := Bool.and_eq_true_iff.mp h
  split at hp
  next p hget =>
    obtain ⟨nodeId, address, ticket, point⟩ := p
    simp only [Bool.and_eq_true, decide_eq_true_eq] at hp
    obtain ⟨⟨rfl, rfl, rfl⟩, hpt⟩ := hp
    cases point with
    | start =>
        exact ⟨s, s', _, hs, hfirst, htest, hget, rfl, (arena _).run_of_actsWhen hrun,
          Option.isNone_iff_eq_none.mp hend, htest'⟩
    | takeTicket | getNote | setNote => cases hpt
  · cases hp

/-- In time. -/
theorem reconnect_admits_soon : ∃ (s s' : System Store Flow) (new : List Admission),
    first ∈ s.store.history.admissions ∧
    s'.store.history.admissions = s.store.history.admissions ++ new ∧
    ∃ b ∈ new, b.socket = 2 ∧ b.claims = first.claims := by
  obtain ⟨s, s', p, hs, hfirst, htoken, hp, rfl, hrun, hend, -⟩ := returned_run 20000 3
    (fun s => (tryConnect s.store "n" "ip" 20000).1) (fun _ => true)
    (by decide +kernel)
  obtain ⟨new, hnew, hiff⟩ := reconnect_admits hs hfirst hp rfl rfl rfl hrun hend
  exact ⟨s, s', new, hfirst, hnew, hiff.mpr ⟨by decide, htoken, fun message hmem =>
    nomatch List.eq_of_mem_replicate hmem⟩⟩

/-- Thirty seconds after the ticket was minted, with minutes left of the window. -/
theorem reconnect_admits_late : ¬ ∀ (config : MatchConfig) (s s' : System Store Flow)
    (a : Admission) (r : ℕ) (p : Entry) (given : Given) (as : List (Act Flow Answer Outside)),
    Reachable (arena config).Step Genesis s → a ∈ s.store.history.admissions →
    s.procs.get r = some (.handshake p) → p.point = .start → p.ticket = a.ticket →
    p.nodeId = a.nodeId →
    (tryConnect s.store p.nodeId p.address given.now).1 = true →
    s.store.note a.claims.playerId = some a.claims.roomId →
    s'.store.note a.claims.playerId = some a.claims.roomId →
    Run (Guarded (arena config).Step (NoteLive r a)) s (.resume r (.ok given) :: as) s' →
    (∀ message, .resume r (.throw message) ∉ as) → s'.procs.get r = none →
    ∃ new, s'.store.history.admissions = s.store.history.admissions ++ new ∧
      ∃ b ∈ new, b.socket = r ∧ b.claims.roomId = a.claims.roomId := by
  intro hclaim
  obtain ⟨s, s', p, hs, hfirst, htest, hp, rfl, hrun, hend, htest'⟩ := returned_run 31000 0
    (fun s => (tryConnect s.store "n" "ip" 31000).1 &&
      decide (s.store.note "p" = some "a"))
    (fun s' => decide (s'.store.note "p" = some "a") &&
      decide (s'.store.history.admissions = [first]))
    (by decide +kernel)
  simp only [Bool.and_eq_true, decide_eq_true_eq] at htest htest'
  obtain ⟨new, hnew, b, hb, -⟩ := hclaim _ s s' first 2 _ (givenAt "" 31000) [] hs hfirst hp rfl
    rfl rfl htest.1 htest.2 htest'.1 hrun nofun hend
  rw [htest'.2] at hnew
  have hlength := congrArg List.length hnew
  rw [List.length_append, List.length_singleton] at hlength
  have := List.length_pos_of_mem hb
  have := List.length_pos_of_mem hfirst
  omega

end SnakeArena.Realtime
