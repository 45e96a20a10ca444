import SnakeArena.Library.Permits
import SnakeArena.Realtime.Handshake

/-!
# Realtime — one ticket, one admission

What a handshake takes is the ticket that is registered for the player, and it is never compared
with the one that was presented.  The reconnect note is the other way in, and the matchmaker
writes it when it mints.

* `one_admission`: where each handshake finds its own ticket, unspent, or is led in by the note
  with a ticket that was spent, every ticket opens one session, and the rest are reconnects.
-/

namespace SnakeArena.Realtime
open SnakeArena.Library SnakeArena.Matchmaker

variable {config : MatchConfig} {s s' : Store}

/-! ### What a step of each party does -/

/-- A request lets nobody in, and takes nothing. -/
theorem resume_match (config : MatchConfig) (p : Match) (s : Store) (a : Answer) :
    (p.resume config s a).1.history.admissions = s.history.admissions ∧
      (p.resume config s a).1.history.taken = s.history.taken := by
  obtain ⟨request, point⟩ := p
  cases a with
  | throw message => cases point <;> exact ⟨rfl, rfl⟩
  | ok given =>
      cases point <;> simp only [Match.resume, Match.proceed] <;> (repeat' split) <;>
        first
          | exact ⟨rfl, rfl⟩
          | (simp only [Match.unstaged]; split <;> exact ⟨rfl, rfl⟩)

theorem resume_launch (config : MatchConfig) (p : Launch) (s : Store) (a : Answer) :
    (p.resume config s a).1.history.admissions = s.history.admissions ∧
      (p.resume config s a).1.history.taken = s.history.taken := by
  have next : ∀ (s' : Store) placement gameId now players,
      (p.ticketNext config s' placement gameId now players).1.history.admissions =
          s'.history.admissions ∧
        (p.ticketNext config s' placement gameId now players).1.history.taken =
        s'.history.taken := by
    intro s' placement gameId now players
    cases players <;> exact ⟨rfl, rfl⟩
  obtain ⟨request, point⟩ := p
  cases a with
  | throw message => exact ⟨rfl, rfl⟩
  | ok given =>
      cases point with
      | readNodeRegistry =>
          simp only [Launch.resume]
          split
          · exact ⟨rfl, rfl⟩
          · exact next ..
      | setTicket placement gameId ticket player rest => exact ⟨rfl, rfl⟩
      | setMeta placement gameId player rest => exact next ..

theorem Outside.apply_history {e : Outside} (h : e.apply s = some s') : s'.history = s.history := by
  cases e with
  | tick clock =>
      simp only [Outside.apply, Option.ite_none_right_eq_some] at h
      obtain rfl := Option.some.inj h.2
      rfl
  | sweep nodeId now =>
      obtain rfl := Option.some.inj h
      rfl
  | dropTicket playerId =>
      obtain rfl := Option.some.inj h
      rfl
  | dropStaged playerId =>
      obtain rfl := Option.some.inj h
      rfl

/-- What socket `r` does with an answer. -/
inductive Entry.Outcome (config : MatchConfig) (r : ℕ) (p : Entry) (s : Store) :
    Answer → Store × Option Entry → Prop where
  | fails {message : String} :
      Outcome config r p s (.throw message) (p.refuse s ("INVALID_TICKET: " ++ message))
  | rejects {given : Given} {s' : Store} (message : String) (hpt : p.point = .start)
      (hs : s'.history = s.history) : Outcome config r p s (.ok given) (p.refuse s' message)
  | verifies {given : Given} {claims : TicketClaims} {s' : Store} (hpt : p.point = .start)
      (hs : s'.history = s.history) (hne : p.ticket ≠ "")
      (hok : verifyTicket config.format p.ticket config.jwtSecret given.now = .ok claims)
      (hnode : claims.nodeId = p.nodeId) :
      Outcome config r p s (.ok given) (p.goto s' (.takeTicket claims))
  | takes {given : Given} {claims : TicketClaims} {taken : String}
      (hpt : p.point = .takeTicket claims)
      (htaken : s.ticket claims.playerId = some taken) :
      Outcome config r p s (.ok given)
        (p.goto
          { s with
            tickets := s.tickets.del claims.playerId
            history := { s.history with taken := taken :: s.history.taken } }
          (.setNote claims (some taken) false))
  | misses {given : Given} {claims : TicketClaims} (hpt : p.point = .takeTicket claims)
      (hnone : s.ticket claims.playerId = none) :
      Outcome config r p s (.ok given)
        (p.goto { s with tickets := s.tickets.del claims.playerId } (.getNote claims))
  | unnoted {given : Given} {claims : TicketClaims} (message : String)
      (hpt : p.point = .getNote claims) (hnote : s.note claims.playerId ≠ some claims.roomId) :
      Outcome config r p s (.ok given) (p.refuse s message)
  | noted {given : Given} {claims : TicketClaims} (hpt : p.point = .getNote claims)
      (hnote : s.note claims.playerId = some claims.roomId) :
      Outcome config r p s (.ok given) (p.goto s (.setNote claims none (spent s p.ticket)))
  | enters {given : Given} {claims : TicketClaims} {taken : Option String} {again : Bool}
      (hpt : p.point = .setNote claims taken again) :
      Outcome config r p s (.ok given)
        (p.enter r (s.setNote claims.playerId claims.roomId (reconnectWindowSeconds * 1000)) claims
          taken again)

theorem Entry.resume_outcome (config : MatchConfig) (r : ℕ) (p : Entry) (s : Store) (a : Answer) :
    p.Outcome config r s a (p.resume config r s a) := by
  cases a with
  | throw message => exact .fails
  | ok given =>
      simp only [Entry.resume]
      split
      next hpt =>
        split
        · simp only [Entry.verify]
          split
          · exact .rejects _ hpt rfl
          next hne =>
            split
            · exact .rejects _ hpt rfl
            next claims hok =>
              split
              · exact .rejects _ hpt rfl
              next hnode => exact .verifies hpt rfl hne hok (not_not.mp hnode)
        · exact .rejects _ hpt rfl
      next claims hpt =>
        split
        next taken htaken => exact .takes hpt htaken
        next hnone => exact .misses hpt hnone
      next claims hpt =>
        split
        next hnote => exact .unnoted _ hpt hnote
        next hnote => exact .noted hpt (not_not.mp hnote)
      next claims taken again hpt => exact .enters hpt

/-- Nobody is let in before the note is set. -/
theorem Entry.Outcome.admissions {r : ℕ} {p : Entry} {a : Answer} {out : Store × Option Entry}
    (ho : p.Outcome config r s a out) :
    out.1.history.admissions = s.history.admissions ∨
      ∃ claims taken again, p.point = .setNote claims taken again ∧ out.2 = none ∧
        out.1.history.admissions =
          s.history.admissions ++ [⟨r, p.nodeId, p.ticket, claims, taken, again⟩] := by
  cases ho with
  | fails | takes | misses | unnoted | noted => exact .inl rfl
  | rejects message hpt hs => exact .inl (by simp only [Entry.refuse, hs])
  | verifies hpt hs hne hok hnode => exact .inl (congrArg History.admissions hs)
  | enters hpt => exact .inr ⟨_, _, _, hpt, rfl, rfl⟩

/-- What holds of a handshake. -/
def Flow.Handshakes (F : Entry → Prop) : Flow → Prop
  | .handshake p => F p
  | _ => True

/-- What holds of every socket that is let in and of every handshake, when handshakes keep it. -/
theorem arena_keeps {G : System Store Flow → Act Flow Answer Outside → Prop} {A : Admission → Prop}
    {F : Entry → Prop} (hstart : ∀ p, p.point = .start → F p)
    (hnext : ∀ s r p c, s.procs.get r = some (.handshake p) → F p → G s (.resume r c) →
      ∀ out p', p.Outcome config r s.store c out → out.2 = some p' → F p')
    (henter : ∀ r p claims taken again, F p → p.point = .setNote claims taken again →
      A ⟨r, p.nodeId, p.ticket, claims, taken, again⟩) :
    (arena config).Keeps G (fun s => ∀ a ∈ s.history.admissions, A a)
      (fun _ _ flow => flow.Handshakes F) fun _ _ => True := by
  refine .of_leads (R := fun _ (s' : Store) => ∀ a ∈ s'.history.admissions, A a)
    (K := fun _ (flow : Flow) => flow.Handshakes F) (fun _ _ h => h) (fun _ _ _ _ h => h) ?_ ?_ ?_
  · intro s flow hstarts
    cases flow with
    | matchmake p => trivial
    | launch p => trivial
    | handshake p =>
        refine hstart p ?_
        simp only [arena] at hstarts
        split at hstarts
        · assumption
        · cases hstarts
  · intro s r flow c hI hp hF hg
    cases flow with
    | matchmake p =>
        refine ⟨?_, fun flow' hflow => ?_⟩
        · simp only [arena, Prod.map_fst, id_eq, (resume_match config p s.store c).1]
          exact hI
        · obtain ⟨p', -, rfl⟩ := Option.map_eq_some_iff.mp hflow
          trivial
    | launch p =>
        refine ⟨?_, fun flow' hflow => ?_⟩
        · simp only [arena, Prod.map_fst, id_eq, (resume_launch config p s.store c).1]
          exact hI
        · obtain ⟨p', -, rfl⟩ := Option.map_eq_some_iff.mp hflow
          trivial
    | handshake p =>
        have ho := p.resume_outcome config r s.store c
        refine ⟨?_, fun flow' hflow => ?_⟩
        · simp only [arena, Prod.map_fst, id_eq]
          rcases ho.admissions with hsame | ⟨claims, taken, again, hpt, -, hnew⟩
          · rw [hsame]
            exact hI
          · rw [hnew]
            exact fun a ha => (List.mem_append.mp ha).elim (hI a) fun ha =>
              List.mem_singleton.mp ha ▸ henter r p claims taken again hF hpt
        · obtain ⟨p', hp', rfl⟩ := Option.map_eq_some_iff.mp hflow
          exact hnext s r p c hp hF hg _ p' ho hp'
  · intro s e store hI _ he
    rw [Outside.apply_history he]
    exact hI

/-! ### One ticket, one admission -/

/-- A handshake finds its own ticket registered, and not one that was taken before; and the note
lets nobody in on a ticket that nobody took. -/
def RedeemsOwn (s : System Store Flow) : Act Flow Answer Outside → Prop
  | .resume r (.ok _) =>
      match s.procs.get r with
      | some (.handshake p) =>
          match p.point with
          | .takeTicket claims =>
              ∀ taken ∈ s.store.ticket claims.playerId,
                taken = p.ticket ∧ taken ∉ s.store.history.taken
          | .getNote claims =>
              s.store.note claims.playerId = some claims.roomId → p.ticket ∈ s.store.history.taken
          | _ => True
      | _ => True
  | _ => True

instance (s : System Store Flow) : DecidablePred (RedeemsOwn s) :=
  fun a => by
    unfold RedeemsOwn
    rcases a with _ | ⟨r, _ | _⟩ | _ | _ <;> dsimp only
    on_goal 2 => rcases s.procs.get r with _ | _ | _ | p
    on_goal 5 =>
      dsimp only
      rcases p.point
    all_goals infer_instance

theorem RedeemsOwn.takes {s : System Store Flow} {r : ℕ} {given : Given} {p : Entry}
    {claims : TicketClaims} {taken : String} (h : RedeemsOwn s (.resume r (.ok given)))
    (hp : s.procs.get r = some (.handshake p)) (hpt : p.point = .takeTicket claims)
    (htaken : s.store.ticket claims.playerId = some taken) :
    taken = p.ticket ∧ taken ∉ s.store.history.taken := by
  simp only [RedeemsOwn, hp, hpt] at h
  exact h taken htaken

theorem RedeemsOwn.noted {s : System Store Flow} {r : ℕ} {given : Given} {p : Entry}
    {claims : TicketClaims} (h : RedeemsOwn s (.resume r (.ok given)))
    (hp : s.procs.get r = some (.handshake p)) (hpt : p.point = .getNote claims)
    (hnote : s.store.note claims.playerId = some claims.roomId) :
    p.ticket ∈ s.store.history.taken := by
  simp only [RedeemsOwn, hp, hpt] at h
  exact h hnote

/-- The socket came with the ticket that was registered, or with one that was spent. -/
def Admission.Due (a : Admission) : Prop :=
  a.taken = some a.ticket ∨ a.taken = none ∧ a.again = true

/-- The handshake is about to let in a socket that is due. -/
def Entry.Due (p : Entry) : Prop :=
  ∀ claims taken again, p.point = .setNote claims taken again →
    taken = some p.ticket ∨ taken = none ∧ again = true

/-- With the handshake that took the ticket, or in the session it opened. -/
def redemptions : Permits Store Flow String where
  count s ticket := (s.history.admissions.filter (·.taken = some ticket)).length
  held
    | .handshake p =>
        match p.point with
        | .setNote _ taken _ => taken
        | _ => none
    | _ => none
  known s ticket := ticket ∈ s.history.taken

theorem arena_due (config : MatchConfig) :
    (arena config).Keeps RedeemsOwn (fun s => ∀ a ∈ s.history.admissions, Admission.Due a)
      (fun _ _ flow => flow.Handshakes Entry.Due) fun _ _ => True := by
  refine arena_keeps (fun p hpt claims taken again e => ?_)
    (fun s r p c hp _ hg out p' ho hp' => ?_)
    fun r p claims taken again hdue hpt => hdue claims taken again hpt
  · rw [hpt] at e
    cases e
  cases ho with
  | fails | rejects | unnoted | enters => cases hp'
  | verifies | misses =>
      obtain rfl := Option.some.inj hp'
      nofun
  | takes hpt htaken =>
      obtain rfl := Option.some.inj hp'
      rintro claims taken again ⟨⟩
      exact .inl (congrArg some (hg.takes hp hpt htaken).1)
  | noted hpt hnote =>
      obtain rfl := Option.some.inj hp'
      rintro claims taken again ⟨⟩
      exact .inr ⟨rfl, decide_eq_true (hg.noted hp hpt hnote)⟩

/-- A step that keeps what was taken, and whom it let in, and starts holding nothing. -/
theorem redemptions_of_eq {flow : Flow} {out : Store × Option Flow}
    (htaken : out.1.history.taken = s.history.taken)
    (hadmissions : out.1.history.admissions = s.history.admissions)
    (hheld : ∀ flow', out.2 = some flow' → redemptions.held flow' = none) :
    redemptions.Moves s flow out := by
  refine .of_le (fun ticket hticket => ?_) (fun ticket => ?_) fun flow' ticket hflow hticket => ?_
  · simpa only [redemptions, htaken] using hticket
  · simp only [redemptions, hadmissions, le_refl]
  · rw [hheld flow' hflow] at hticket
    cases hticket

theorem arena_redemptions (config : MatchConfig) :
    (arena config).Keeps RedeemsOwn
      (fun s => (∀ a ∈ s.history.admissions, Admission.Due a) ∧ redemptions.Single s)
      (fun s _ flow => flow.Handshakes Entry.Due ∧ redemptions.Alone s flow)
      fun flow flow' => True ∧ redemptions.Apart flow flow' := by
  refine redemptions.keeps (arena_due config) ?_ ?_ ?_
  · intro flow hstarts
    cases flow with
    | matchmake p => rfl
    | launch p => rfl
    | handshake p =>
        obtain ⟨nodeId, address, ticket, point⟩ := p
        cases point with
        | start => rfl
        | takeTicket claims => cases hstarts
        | getNote claims => cases hstarts
        | setNote claims taken again => cases hstarts
  · intro s r flow c hs hp hg
    cases flow with
    | matchmake p =>
        obtain ⟨hadmissions, htaken⟩ := resume_match config p s.store c
        refine redemptions_of_eq htaken hadmissions fun flow' hflow => ?_
        obtain ⟨p', -, rfl⟩ := Option.map_eq_some_iff.mp hflow
        rfl
    | launch p =>
        obtain ⟨hadmissions, htaken⟩ := resume_launch config p s.store c
        refine redemptions_of_eq htaken hadmissions fun flow' hflow => ?_
        obtain ⟨p', -, rfl⟩ := Option.map_eq_some_iff.mp hflow
        rfl
    | handshake p =>
        have ho := p.resume_outcome config r s.store c
        simp only [arena]
        generalize p.resume config r s.store c = out at ho ⊢
        cases ho with
        | fails | unnoted => exact redemptions_of_eq rfl rfl nofun
        | rejects message hpt hs =>
            exact redemptions_of_eq (by rw [← hs]; rfl) (by rw [← hs]; rfl) nofun
        | verifies hpt hs hne hok hnode =>
            refine redemptions_of_eq (by rw [← hs]; rfl) (by rw [← hs]; rfl) fun flow' hflow => ?_
            obtain rfl := Option.some.inj hflow
            rfl
        | misses hpt hnone =>
            refine redemptions_of_eq rfl rfl fun flow' hflow => ?_
            obtain rfl := Option.some.inj hflow
            rfl
        | noted hpt hnote =>
            refine redemptions_of_eq rfl rfl fun flow' hflow => ?_
            obtain rfl := Option.some.inj hflow
            rfl
        | @takes given claims taken hpt htaken =>
            obtain ⟨-, hfresh⟩ := hg.takes hp hpt htaken
            refine ⟨fun ticket hticket => List.mem_cons_of_mem _ hticket, fun ticket => ?_⟩
            by_cases e : taken = ticket
            · subst e
              refine .inr ⟨hfresh, List.mem_cons_self, Nat.add_le_add le_rfl ?_⟩
              unfold Permits.heldBy
              split <;> omega
            · refine .inl (Nat.add_le_add le_rfl ?_)
              rw [Prod.map_snd, Entry.goto, Option.map_some, Permits.heldBy_none]
              · exact Nat.zero_le _
              · exact fun hheld => e (Option.some.inj hheld)
        | @enters given claims taken again hpt =>
            refine ⟨fun ticket hticket => hticket, fun ticket => .inl ?_⟩
            have hheld : redemptions.held (.handshake p) = taken := by simp only [redemptions, hpt]
            have hbefore : redemptions.heldBy (some (.handshake p)) ticket =
                if taken = some ticket then 1 else 0 := by
              rw [Permits.heldBy, Option.bind_some, hheld]
            rw [hbefore, Prod.map_snd, Entry.enter, Option.map_none, Permits.heldBy_ended]
            simp only [redemptions, Prod.map_fst, id_eq, Store.setNote, List.filter_append,
              List.length_append, add_zero]
            split
            case isTrue e => rw [List.filter_cons_of_pos (by simpa using e)]; rfl
            case isFalse e => rw [List.filter_cons_of_neg (by simpa using e)]; rfl
  · intro s e store _ _ he ticket
    have hhistory := Outside.apply_history he
    simp only [redemptions, hhistory, true_and]
    exact id

theorem Genesis.due {s : System Store Flow} (h : Genesis s) :
    (∀ a ∈ s.store.history.admissions, Admission.Due a) ∧ redemptions.Single s.store := by
  obtain ⟨-, -, -, -, -, hhistory, -⟩ := h
  refine ⟨?_, fun ticket => ?_⟩
  · rw [hhistory]
    nofun
  · simp [redemptions, hhistory, emptyHistory]

/-- **One ticket, one admission.**  Every socket that is let in took the ticket it came with, or
came back with one that was spent; and no ticket opens two sessions. -/
theorem one_admission {config : MatchConfig} {s : System Store Flow}
    (hs : Reachable (Guarded (arena config).Step RedeemsOwn) Genesis s) :
    (∀ a ∈ s.store.history.admissions,
      a.taken = some a.ticket ∨ a.taken = none ∧ a.again = true) ∧
    ∀ ticket, (s.store.history.admissions.filter (·.taken = some ticket)).length ≤ 1 := by
  obtain ⟨⟨hdue, hsingle⟩, -⟩ := (arena_redemptions config).reachable (fun s h => ⟨h.due, by
    rw [h.2.2.2.2.2.2]; exact .empty, fun r _ p _ _ hp => by rw [h.2.2.2.2.2.2] at hp; cases hp⟩) hs
  exact ⟨hdue, fun ticket => (hsingle ticket).1⟩

/-! A run -/

def noTickets : System Store Flow :=
  ⟨⟨0, .empty, .empty, .empty, .empty, .empty, emptyHistory⟩, .empty⟩

theorem noTickets_genesis : Genesis noTickets := ⟨rfl, rfl, rfl, rfl, rfl, rfl, rfl⟩

/-- Player `p` enters room `roomId`. -/
def entry (roomId : String) (now : ℕ) : TicketClaims :=
  buildTicketClaims "p" "w" roomId "n" "p" (some roomId) now

/-- A room names its ticket. -/
def rooms (known : List TicketClaims) : MatchConfig where
  format := ⟨(·.roomId), fun payload => known.find? (·.roomId = payload), fun secret _ => secret⟩
  jwtSecret := "key"
  heartbeatTtlMs := 60000
  strategy := .leastLoaded

/-- What an await gets, with one node up. -/
def givenAt (gameId : String) (now : ℕ) : Given :=
  ⟨now, "", [⟨"n", "url", "eu", 0, 0, 8, 0, now, false⟩], some gameId⟩

def answers (gameId : String) (now n : ℕ) (r : ℕ) : List (Act Flow Answer Outside) :=
  List.replicate n (.resume r (.ok (givenAt gameId now)))

/-- Player `p` asks for a ticket of a tier that has a game. -/
def asked (r : ℕ) (gameId : String) (now : ℕ) : List (Act Flow Answer Outside) :=
  .start r (.matchmake ⟨⟨"p", "w", some "p", "tier", "eu", some "tier"⟩, .loadNodes⟩) ::
    answers gameId now 5 r

/-- A ticket is presented to the node. -/
def presented (r : ℕ) (ticket : String) (now n : ℕ) : List (Act Flow Answer Outside) :=
  .start r (.handshake ⟨"n", "ip", ticket, .start⟩) :: answers "" now n r

/-- A ticket opens a session, and another socket comes back with it. -/
theorem one_admission_back : ∃ s : System Store Flow,
    (s.store.history.admissions.map (·.ticket)) = ["a.key", "a.key"] ∧
    (∀ a ∈ s.store.history.admissions,
      a.taken = some a.ticket ∨ a.taken = none ∧ a.again = true) ∧
    ∀ ticket, (s.store.history.admissions.filter (·.taken = some ticket)).length ≤ 1 := by
  have run : ((arena (rooms [entry "a" 0])).actsWhen RedeemsOwn noTickets
      (asked 0 "a" 0 ++ presented 1 "a.key" 1000 3 ++ presented 2 "a.key" 2000 4)).any (fun s =>
        decide (s.store.history.admissions.map (·.ticket) = ["a.key", "a.key"])) = true := by
    decide +kernel
  obtain ⟨s, hs, htest⟩ := (arena _).reachable_of_actsWhen noTickets_genesis run
  exact ⟨s, of_decide_eq_true htest, one_admission hs⟩

/-- The handshake with an older ticket takes the one that is registered, and is let in. -/
theorem one_admission_older : ¬ ∀ (config : MatchConfig) (s : System Store Flow),
    Reachable (arena config).Step Genesis s → ∀ a ∈ s.store.history.admissions,
      a.taken = some a.ticket ∨ a.taken = none ∧ a.again = true := by
  intro hclaim
  have run : ((arena (rooms [entry "a" 0, entry "b" 1000])).acts noTickets
      (asked 0 "a" 0 ++ asked 1 "b" 1000 ++ presented 2 "a.key" 2000 3)).any (fun s =>
        s.store.history.admissions.any fun a =>
          decide (a.ticket = "a.key" ∧ a.taken = some "b.key")) = true := by
    decide +kernel
  obtain ⟨s, hs, htest⟩ := (arena _).reachable_of_acts noTickets_genesis run
  obtain ⟨a, ha, htest⟩ := List.any_eq_true.mp htest
  obtain ⟨hticket, htaken⟩ := of_decide_eq_true htest
  rcases hclaim _ s hs a ha with hown | ⟨hnone, -⟩
  · rw [hticket, htaken] at hown
    exact absurd hown (by decide)
  · rw [hnone] at htaken
    cases htaken

end SnakeArena.Realtime
