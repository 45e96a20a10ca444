import SnakeArena.Library.Processes

/-!
# Library — calls that run database transactions

A call is a tree (`Prog`): it reads the store, executes a statement, commits, or asks somebody
outside, and goes on with the answer.  What it has executed since its last commit is pending:
the call sees it, and nobody else does until it commits.  Between two steps of a call others
run, and what they commit the next read sees (Read Committed).

A row that a statement wrote is locked until the commit, so that what the statement found there
is what the commit finds.  There are no locks here; the commit executes the pending statements
again, and what they find now decides.  This allows every outcome that locks do.

`Walks` is what a call knows of its statements as it runs, and `Calls.keeps` the rule: a commit
that keeps the invariant, given what its call knows, keeps it in every run.

`Prog.alone` is what a call leaves when nobody else runs; resumed until it ends, it leaves that
(`Calls.alone_run`).
-/

namespace SnakeArena.Library

variable {σ β ω τ κ ρ ε : Type}

/-- Stores `σ`, statements `β`, errors `ω`, labels of commits `τ` and answers `κ`. -/
inductive Prog (σ β ω τ κ : Type) where
  /-- Ends, or throws: what is pending is rolled back. -/
  | done
  | read (k : σ → Prog σ β ω τ κ)
  /-- A statement that fails rolls back what is pending. -/
  | execute (b : β) (k : Option ω → Prog σ β ω τ κ)
  | commit (t : τ) (k : Prog σ β ω τ κ)
  | ask (k : κ → Prog σ β ω τ κ)

/-- Executes a statement, and throws when it fails. -/
def Prog.run (b : β) (k : Prog σ β ω τ κ) : Prog σ β ω τ κ :=
  .execute b fun
    | none => k
    | some _ => .done

inductive Session (σ β ω τ κ ρ : Type) where
  | call (request : ρ)
  /-- With what it has executed since its last commit, and the labels of its commits so far. -/
  | running (prog : Prog σ β ω τ κ) (pending : List β) (committed : List τ)

/-- What a call has committed so far. -/
def Session.committed : Session σ β ω τ κ ρ → List τ
  | .call _ => []
  | .running _ _ committed => committed

/-- What statements do, the program of a request, and what else can happen to the store. -/
structure Calls (σ β ω τ κ ρ ε : Type) where
  exec : β → σ → Except ω σ
  program : ρ → Prog σ β ω τ κ
  outside : σ → ε → Option σ

/-- Statements one after the other. -/
def runAll (exec : β → σ → Except ω σ) : List β → σ → Except ω σ
  | [], s => .ok s
  | b :: bs, s =>
      match exec b s with
      | .error e => .error e
      | .ok s => runAll exec bs s

theorem runAll_append {exec : β → σ → Except ω σ} {bs bs' : List β} : ∀ {s v : σ},
    runAll exec (bs ++ bs') s = .ok v ↔
      ∃ u, runAll exec bs s = .ok u ∧ runAll exec bs' u = .ok v := by
  induction bs with
  | nil => simp [runAll]
  | cons b bs ih =>
      intro s v
      simp only [List.cons_append, runAll]
      cases exec b s with
      | error e => simp
      | ok u => exact ih

theorem runAll_one {exec : β → σ → Except ω σ} {b : β} {s v : σ} :
    runAll exec [b] s = .ok v ↔ exec b s = .ok v := by
  simp only [runAll]
  cases exec b s <;> simp

theorem runAll_cons {exec : β → σ → Except ω σ} {b : β} {bs : List β} {s v : σ} :
    runAll exec (b :: bs) s = .ok v ↔ ∃ u, exec b s = .ok u ∧ runAll exec bs u = .ok v := by
  simp only [runAll]
  cases exec b s <;> simp

namespace Calls
variable (C : Calls σ β ω τ κ ρ ε)

/-- A call, from one step to the next. -/
def resume (_ : ℕ) (s : σ) (p : Session σ β ω τ κ ρ) (c : κ) :
    σ × Option (Session σ β ω τ κ ρ) :=
  match p with
  | .call request => (s, some (.running (C.program request) [] []))
  | .running .done _ _ => (s, none)
  | .running (.read k) pending committed =>
      match runAll C.exec pending s with
      | .error _ => (s, none)
      | .ok view => (s, some (.running (k view) pending committed))
  | .running (.execute b k) pending committed =>
      match runAll C.exec pending s with
      | .error _ => (s, none)
      | .ok view =>
          match C.exec b view with
          | .error e => (s, some (.running (k (some e)) [] committed))
          | .ok _ => (s, some (.running (k none) (pending ++ [b]) committed))
  | .running (.commit t k) pending committed =>
      match runAll C.exec pending s with
      | .error _ => (s, none)
      | .ok s => (s, some (.running k [] (committed ++ [t])))
  | .running (.ask k) pending committed => (s, some (.running (k c) pending committed))

/-- Any number of calls, of any requests. -/
def processes : Processes σ (Session σ β ω τ κ ρ) κ ε where
  starts p :=
    match p with
    | .call _ => true
    | .running _ _ _ => false
  resume := C.resume
  other := C.outside

/-- Where a commit labelled `t` may happen. -/
def Allows (G : σ → τ → Prop) (s : System σ (Session σ β ω τ κ ρ)) :
    Act (Session σ β ω τ κ ρ) κ ε → Prop
  | .resume r _ =>
      match s.procs.get r with
      | some (.running (.commit t _) _ _) => G s.store t
      | _ => True
  | _ => True

instance (G : σ → τ → Prop) [∀ s t, Decidable (G s t)] (s : System σ (Session σ β ω τ κ ρ))
    (a : Act (Session σ β ω τ κ ρ) κ ε) : Decidable (Allows G s a) :=
  match a with
  | .start _ _ | .crash _ | .other _ => .isTrue trivial
  | .resume r _ =>
      match h : s.procs.get r with
      | some (.running (.commit t _) _ _) =>
          decidable_of_iff (G s.store t) (by simp only [Allows, h])
      | none | some (.call _) | some (.running .done _ _) | some (.running (.read _) _ _)
      | some (.running (.execute _ _) _ _) | some (.running (.ask _) _ _) =>
          .isTrue (by simp only [Allows, h])

/-- What a step of a call does to the store and to what the call has committed: nothing, or it
commits. -/
theorem resume_store (s : σ) (p : Session σ β ω τ κ ρ) (r : ℕ) (c : κ) :
    ((C.resume r s p c).1 = s ∧
        ∀ p', (C.resume r s p c).2 = some p' → p'.committed = p.committed) ∨
      ∃ t k pending committed s', p = .running (.commit t k) pending committed ∧
        runAll C.exec pending s = .ok s' ∧
        C.resume r s p c = (s', some (.running k [] (committed ++ [t]))) := by
  match p with
  | .call _ | .running .done _ _ | .running (.ask _) _ _ =>
      refine .inl ⟨rfl, fun p' h => ?_⟩
      cases h
      try rfl
  | .running (.read k) pending committed =>
      refine .inl ?_
      simp only [resume]
      cases runAll C.exec pending s with
      | error => exact ⟨rfl, nofun⟩
      | ok view => exact ⟨rfl, fun _ h => Option.some.inj h ▸ rfl⟩
  | .running (.execute b k) pending committed =>
      refine .inl ?_
      simp only [resume]
      cases runAll C.exec pending s with
      | error => exact ⟨rfl, nofun⟩
      | ok view =>
          dsimp only
          cases C.exec b view with
          | error => exact ⟨rfl, fun _ h => Option.some.inj h ▸ rfl⟩
          | ok => exact ⟨rfl, fun _ h => Option.some.inj h ▸ rfl⟩
  | .running (.commit t k) pending committed =>
      cases h : runAll C.exec pending s with
      | error => exact .inl (by simp only [resume, h]; exact ⟨trivial, nofun⟩)
      | ok s' => exact .inr ⟨t, k, pending, committed, s', rfl, h, by simp only [resume, h]⟩

/-! ### What a call knows -/

section Rule
variable {C} (I : σ → Prop) (R : σ → σ → Prop) (trust : β → σ → Prop)
  (spec : τ → List β → Prop)

/-- Each statement finds what its call trusts it to. -/
def Trusted (C : Calls σ β ω τ κ ρ ε) (trust : β → σ → Prop) : List β → σ → Prop
  | [], _ => True
  | b :: bs, s => trust b s ∧ ∀ v, C.exec b s = .ok v → Trusted C trust bs v

theorem Trusted.append {bs : List β} {b : β} {trust : β → σ → Prop} : ∀ {s : σ},
    Trusted C trust bs s → (∀ v, runAll C.exec bs s = .ok v → trust b v) →
      Trusted C trust (bs ++ [b]) s := by
  induction bs with
  | nil => exact fun _ h => ⟨h _ rfl, fun _ _ => trivial⟩
  | cons b' bs ih =>
      intro s hs hb
      refine ⟨hs.1, fun v hv => ih (hs.2 v hv) fun u hu => hb u ?_⟩
      simp only [runAll, hv, hu]

/-- What the first statements leave, the rest is trusted to find. -/
theorem Trusted.right {bs bs' : List β} {trust : β → σ → Prop} : ∀ {s u : σ},
    Trusted C trust (bs ++ bs') s → runAll C.exec bs s = .ok u → Trusted C trust bs' u := by
  induction bs with
  | nil =>
      rintro s u hs hu
      obtain rfl := Except.ok.inj hu
      exact hs
  | cons b bs ih =>
      rintro s u hs hu
      obtain ⟨v, hv, hu⟩ := runAll_cons.mp hu
      exact ih (hs.2 v hv) hu

theorem Trusted.left {bs bs' : List β} {trust : β → σ → Prop} : ∀ {s : σ},
    Trusted C trust (bs ++ bs') s → Trusted C trust bs s := by
  induction bs with
  | nil => exact fun _ => trivial
  | cons b bs ih => exact fun hs => ⟨hs.1, fun v hv => ih (hs.2 v hv)⟩

/-- Whatever the others do along `R`: the statements find what they are trusted to, and each
commit is of the statements that its label says. -/
def Walks (C : Calls σ β ω τ κ ρ ε) (I : σ → Prop) (R : σ → σ → Prop) (trust : β → σ → Prop)
    (spec : τ → List β → Prop) : Prog σ β ω τ κ → List β → σ → Prop
  | .done, _, _ => True
  | .read k, pending, s =>
      ∀ s', R s s' → I s' → ∀ view, runAll C.exec pending s' = .ok view →
        Walks C I R trust spec (k view) pending s'
  | .execute b k, pending, s =>
      (∀ s', R s s' → I s' → ∀ view, runAll C.exec pending s' = .ok view → trust b view) ∧
        Walks C I R trust spec (k none) (pending ++ [b]) s ∧
        ∀ e, Walks C I R trust spec (k (some e)) [] s
  | .commit t k, pending, s => spec t pending ∧ Walks C I R trust spec k [] s
  | .ask k, pending, s => ∀ c, Walks C I R trust spec (k c) pending s

variable {I R trust spec}

theorem Walks.later (htrans : ∀ s₁ s₂ s₃, R s₁ s₂ → R s₂ s₃ → R s₁ s₃)
    {prog : Prog σ β ω τ κ} : ∀ {pending : List β} {s s' : σ}, R s s' →
      Walks C I R trust spec prog pending s → Walks C I R trust spec prog pending s' := by
  induction prog with
  | done => exact fun _ _ => trivial
  | read k => exact fun hR h s₁ h₁ => h s₁ (htrans _ _ _ hR h₁)
  | execute b k ih =>
      exact fun hR h => ⟨fun s₁ h₁ => h.1 s₁ (htrans _ _ _ hR h₁), ih _ hR h.2.1,
        fun e => ih _ hR (h.2.2 e)⟩
  | commit t k ih => exact fun hR h => ⟨h.1, ih hR h.2⟩
  | ask k ih => exact fun hR h c => ih c hR (h c)

/-- What a session knows where it stops. -/
def Knows (C : Calls σ β ω τ κ ρ ε) (I : σ → Prop) (R : σ → σ → Prop) (trust : β → σ → Prop)
    (spec : τ → List β → Prop) (s : σ) : Session σ β ω τ κ ρ → Prop
  | .call _ => True
  | .running prog pending _ =>
      Walks C I R trust spec prog pending s ∧ ∀ s', R s s' → I s' → Trusted C trust pending s'

theorem Knows.later (htrans : ∀ s₁ s₂ s₃, R s₁ s₂ → R s₂ s₃ → R s₁ s₃) {s s' : σ} (hR : R s s')
    {p : Session σ β ω τ κ ρ} (h : Knows C I R trust spec s p) : Knows C I R trust spec s' p := by
  cases p with
  | call => trivial
  | running prog pending committed =>
      exact ⟨h.1.later htrans hR, fun s₁ h₁ => h.2 s₁ (htrans _ _ _ hR h₁)⟩

/-- **The rule for transactions.**  A commit of trusted statements that its label says takes the
store along `R` and keeps `I`, when `G` lets it happen; then so does every run. -/
theorem keeps {G : σ → τ → Prop} (hrefl : ∀ s, R s s)
    (htrans : ∀ s₁ s₂ s₃, R s₁ s₂ → R s₂ s₃ → R s₁ s₃)
    (hcommit : ∀ s t pending s', I s → spec t pending → Trusted C trust pending s → G s t →
      runAll C.exec pending s = .ok s' → I s' ∧ R s s')
    (hprogram : ∀ request s, Walks C I R trust spec (C.program request) [] s)
    (houtside : ∀ s e s', I s → C.outside s e = some s' → I s' ∧ R s s') :
    C.processes.Keeps (Allows G) I (fun s _ p => Knows C I R trust spec s p) fun _ _ => True := by
  refine .of_leads (R := fun s s' => I s' ∧ R s s') (K := Knows C I R trust spec)
    (fun _ _ h => h.1) ?_ ?_ ?_ fun s e s' hI _ he => houtside s.store e s' hI he
  · rintro s s' p ⟨-, hR⟩ hp
    exact hp.later htrans hR
  · intro s p hstarts
    match p, hstarts with
    | .call _, _ => trivial
  · rintro ⟨s, procs⟩ r p c (hI : I s) hp hknows hG
    have hstay : I s ∧ R s s := ⟨hI, hrefl s⟩
    have goes : ∀ p', Knows C I R trust spec s p' →
        Processes.Leads (fun s s' => I s' ∧ R s s') (Knows C I R trust spec) s (s, some p') :=
      fun p' hp' => ⟨hstay, fun _ e => Option.some.inj e ▸ hp'⟩
    simp only [processes]
    match p, hp, hknows with
    | .call request, hp, _ =>
        exact goes _ ⟨hprogram request s, fun _ _ _ => trivial⟩
    | .running .done _ _, hp, _ => exact .ends hstay
    | .running (.ask k) pending committed, hp, ⟨hwalks, htrusted⟩ =>
        exact goes _ ⟨hwalks c, htrusted⟩
    | .running (.read k) pending committed, hp, ⟨hwalks, htrusted⟩ =>
        simp only [resume]
        cases hview : runAll C.exec pending s with
        | error => exact .ends hstay
        | ok view => exact goes _ ⟨hwalks s (hrefl s) hI view hview, htrusted⟩
    | .running (.execute b k) pending committed, hp, ⟨hwalks, htrusted⟩ =>
        simp only [resume]
        cases hview : runAll C.exec pending s with
        | error => exact .ends hstay
        | ok view =>
            dsimp only
            cases C.exec b view with
            | error e => exact goes _ ⟨hwalks.2.2 e, fun _ _ _ => trivial⟩
            | ok _ =>
                exact goes _ ⟨hwalks.2.1, fun s' hR hI' =>
                  (htrusted s' hR hI').append fun v hv => hwalks.1 s' hR hI' v hv⟩
    | .running (.commit t k) pending committed, hp, ⟨hwalks, htrusted⟩ =>
        have hG : G s t := by
          simp only [Allows] at hG hp
          rwa [hp] at hG
        simp only [resume]
        cases hrun : runAll C.exec pending s with
        | error => exact .ends hstay
        | ok s' =>
            obtain ⟨hI', hR⟩ := hcommit s t pending s' hI hwalks.1 (htrusted s (hrefl s) hI) hG hrun
            have hk : Knows C I R trust spec s'
                (.running k [] (committed ++ [t]) : Session σ β ω τ κ ρ) :=
              ⟨hwalks.2.later htrans hR, fun _ _ _ => trivial⟩
            exact ⟨⟨hI', hR⟩, fun _ e => Option.some.inj e ▸ hk⟩

/-! ### What the labels rest on -/

/-- Each label of the program rests on what its call found: wherever the others have taken the
store along `R`, it is one that `P` allows there. -/
def Rests (C : Calls σ β ω τ κ ρ ε) (R : σ → σ → Prop) (P : σ → τ → Prop) :
    Prog σ β ω τ κ → List β → σ → Prop
  | .done, _, _ => True
  | .read k, pending, s =>
      ∀ s', R s s' → ∀ view, runAll C.exec pending s' = .ok view → Rests C R P (k view) pending s'
  | .execute b k, pending, s =>
      Rests C R P (k none) (pending ++ [b]) s ∧ ∀ e, Rests C R P (k (some e)) [] s
  | .commit t k, _, s => P s t ∧ Rests C R P k [] s
  | .ask k, pending, s => ∀ c, Rests C R P (k c) pending s

section Rests
variable {P : σ → τ → Prop} (htrans : ∀ s₁ s₂ s₃, R s₁ s₂ → R s₂ s₃ → R s₁ s₃)
  (hP : ∀ s s' t, R s s' → P s t → P s' t)
include htrans hP

theorem Rests.later {prog : Prog σ β ω τ κ} : ∀ {pending : List β} {s s' : σ}, R s s' →
    Rests C R P prog pending s → Rests C R P prog pending s' := by
  induction prog with
  | done => exact fun _ _ => trivial
  | read k => exact fun hR h s₁ h₁ => h s₁ (htrans _ _ _ hR h₁)
  | execute b k ih => exact fun hR h => ⟨ih _ hR h.1, fun e => ih _ hR (h.2 e)⟩
  | commit t k ih => exact fun hR h => ⟨hP _ _ _ hR h.1, ih hR h.2⟩
  | ask k ih => exact fun hR h c => ih c hR (h c)

/-- A step of a call leaves it at labels that rest on the store it leaves. -/
theorem Rests.resume (hrefl : ∀ s, R s s)
    (hrun : ∀ pending s s', runAll C.exec pending s = .ok s' → R s s')
    {prog : Prog σ β ω τ κ} {pending : List β} {committed : List τ} {s : σ}
    (h : Rests C R P prog pending s) (r : ℕ) (c : κ) {p' : Session σ β ω τ κ ρ}
    (hp' : (C.resume r s (.running prog pending committed) c).2 = some p') :
    ∃ prog' pending' committed', p' = .running prog' pending' committed' ∧
      Rests C R P prog' pending' (C.resume r s (.running prog pending committed) c).1 := by
  cases prog with
  | done => cases hp'
  | ask k =>
      obtain rfl := Option.some.inj hp'
      exact ⟨_, _, _, rfl, h c⟩
  | read k =>
      simp only [Calls.resume] at hp' ⊢
      cases hview : runAll C.exec pending s with
      | error => simp only [hview] at hp'; cases hp'
      | ok view =>
          simp only [hview] at hp' ⊢
          obtain rfl := Option.some.inj hp'
          exact ⟨_, _, _, rfl, h s (hrefl s) view hview⟩
  | execute b k =>
      simp only [Calls.resume] at hp' ⊢
      cases hview : runAll C.exec pending s with
      | error => simp only [hview] at hp'; cases hp'
      | ok view =>
          simp only [hview] at hp' ⊢
          cases hexec : C.exec b view with
          | error e =>
              simp only [hexec] at hp' ⊢
              obtain rfl := Option.some.inj hp'
              exact ⟨_, _, _, rfl, h.2 e⟩
          | ok =>
              simp only [hexec] at hp' ⊢
              obtain rfl := Option.some.inj hp'
              exact ⟨_, _, _, rfl, h.1⟩
  | commit t k =>
      simp only [Calls.resume] at hp' ⊢
      cases hview : runAll C.exec pending s with
      | error => simp only [hview] at hp'; cases hp'
      | ok s' =>
          simp only [hview] at hp' ⊢
          obtain rfl := Option.some.inj hp'
          exact ⟨_, _, _, rfl, h.2.later htrans hP (hrun pending s s' hview)⟩

end Rests

/-! ### What the running calls have done by halves -/

/-- What the commits of a call weigh. -/
def weight (w : τ → ℕ) (p : Session σ β ω τ κ ρ) : ℕ := (p.committed.map w).sum

/-- What the commits of the running calls weigh. -/
noncomputable def tally (w : τ → ℕ) (s : System σ (Session σ β ω τ κ ρ)) : ℕ :=
  s.procs.total fun _ p => weight w p

/-- A call that ends, or crashes, is `done`. -/
def EndsDone (C : Calls σ β ω τ κ ρ ε) (done : Session σ β ω τ κ ρ → Prop)
    (s : System σ (Session σ β ω τ κ ρ)) : Act (Session σ β ω τ κ ρ) κ ε → Prop
  | .crash r => ∀ p ∈ s.procs.get r, done p
  | .resume r c => ∀ p ∈ s.procs.get r, (C.resume r s.store p c).2 = none → done p
  | _ => True

instance (done : Session σ β ω τ κ ρ → Prop) [DecidablePred done]
    (s : System σ (Session σ β ω τ κ ρ)) (a : Act (Session σ β ω τ κ ρ) κ ε) :
    Decidable (EndsDone C done s a) :=
  match a with
  | .start _ _ | .other _ => .isTrue trivial
  | .crash r => inferInstanceAs (Decidable (∀ p ∈ s.procs.get r, done p))
  | .resume r c => 
      match h : s.procs.get r with
      | none => .isTrue (by simp [EndsDone, h])
      | some p =>
          match hp : (C.resume r s.store p c).2 with
          | some _ => .isTrue (by simp [EndsDone, h, hp])
          | none => decidable_of_iff (done p) (by simp [EndsDone, h, hp])

/-- **The rule of the two tallies.**  A quantity that each commit moves by what it weighs more
on one side than on the other, in calls that weigh the same on both when they are done, is off by
what the running calls have done by halves. -/
theorem tallied {G : σ → τ → Prop} {done : Session σ β ω τ κ ρ → Prop} {X : σ → ℤ} {u v : τ → ℕ}
    (hdone : ∀ p, done p → weight u p = weight v p)
    (hcommit : ∀ s t pending s', I s → spec t pending → Trusted C trust pending s → G s t →
      runAll C.exec pending s = .ok s' → X s' + u t = X s + v t)
    (houtside : ∀ s e s', C.outside s e = some s' → X s' = X s)
    {s s' : System σ (Session σ β ω τ κ ρ)} {a : Act (Session σ β ω τ κ ρ) κ ε}
    (hs : Processes.Holds I (fun s _ p => Knows C I R trust spec s p) (fun _ _ => True) s)
    (hrefl : ∀ s, R s s) (hstep : C.processes.Step s a s') (hallows : Allows G s a)
    (hends : EndsDone C done s a) (hX : X s.store + tally u s = tally v s) :
    X s'.store + tally u s' = tally v s' := by
  cases a with
  | start r p =>
      simp only [Processes.Step, Processes.act, Option.ite_none_right_eq_some] at hstep
      obtain ⟨⟨hstarts, hnone⟩, hs'⟩ := hstep
      obtain rfl := Option.some.inj hs'
      have hnone : s.procs.get r = none := by simpa using hnone
      cases p with
      | call request =>
          simp only [tally, Table.total_insert _ _ hnone]
          exact hX
      | running => cases hstarts
  | crash r =>
      simp only [Processes.Step, Processes.act, Option.ite_none_right_eq_some] at hstep
      obtain ⟨hsome, hs'⟩ := hstep
      obtain rfl := Option.some.inj hs'
      obtain ⟨p, hp⟩ := Option.isSome_iff_exists.mp hsome
      have hw := hdone p (hends p hp)
      have hu := Table.total_remove (fun _ p => weight u p) hp
      have hv := Table.total_remove (fun _ p => weight v p) hp
      simp only [tally] at hX ⊢
      omega
  | other e =>
      simp only [Processes.Step, Processes.act, Option.map_eq_some_iff] at hstep
      obtain ⟨store, hstore, rfl⟩ := hstep
      have := houtside _ _ _ hstore
      simp only [tally] at hX ⊢
      omega
  | resume r c =>
      obtain ⟨p, hp, hstore, hprocs⟩ := C.processes.step_resume hstep
      obtain ⟨hI, hknows, -⟩ := hs
      simp only [tally] at hX ⊢
      rw [hprocs]
      obtain ⟨hsame, hcommitted⟩ | ⟨t, k, pending, committed, store, rfl, hrun, hout⟩ :=
        C.resume_store s.store p r c
      · rw [hstore]
        simp only [processes] at hstore ⊢
        rw [hsame]
        cases hout : (C.resume r s.store p c).2 with
        | none =>
            have hw := hdone p (hends p hp hout)
            have hu := Table.total_remove (fun _ p => weight u p) hp
            have hv := Table.total_remove (fun _ p => weight v p) hp
            simp only [Option.elim_none]
            omega
        | some p' =>
            have hw : ∀ w : τ → ℕ, weight w p' = weight w p := fun w => by
              rw [weight, weight, hcommitted p' hout]
            have hu := Table.total_modify (fun _ p => weight u p) p' hp
            have hv := Table.total_modify (fun _ p => weight v p) p' hp
            rw [hw] at hu hv
            simp only [Option.elim_some]
            omega
      · obtain ⟨hwalks, htrusted⟩ := hknows r _ hp
        have hG : G s.store t := by
          simp only [Allows, hp] at hallows
          exact hallows
        have hmoved := hcommit s.store t pending store hI hwalks.1 (htrusted _ (hrefl _) hI) hG hrun
        obtain ⟨p', hp'⟩ : ∃ p' : Session σ β ω τ κ ρ, p' = .running k [] (committed ++ [t]) :=
          ⟨_, rfl⟩
        rw [← hp'] at hout
        have hw : ∀ w : τ → ℕ,
            weight w p' = weight w
              (.running (.commit t k) pending committed : Session σ β ω τ κ ρ) + w t :=
          fun w => by simp [weight, Session.committed, hp']
        have hu := Table.total_modify (fun _ p => weight u p) p' hp
        have hv := Table.total_modify (fun _ p => weight v p) p' hp
        rw [hw] at hu hv
        rw [hstore]
        simp only [processes, hout, Option.elim_some]
        omega

end Rule

end Calls

/-! ### A call that runs alone -/

/-- What a call leaves of the store when nobody else runs: from the committed store, what its
pending statements show it, and how many answers it has had. -/
def Prog.alone (exec : β → σ → Except ω σ) (answer : ℕ → κ) :
    Prog σ β ω τ κ → σ → σ → ℕ → σ
  | .done, s, _, _ => s
  | .read k, s, view, n => (k view).alone exec answer s view n
  | .execute b k, s, view, n =>
      match exec b view with
      | .ok view => (k none).alone exec answer s view n
      | .error e => (k (some e)).alone exec answer s s n
  | .commit _ k, _, view, n => k.alone exec answer view view n
  | .ask k, s, view, n => (k (answer n)).alone exec answer s view (n + 1)

/-- Every statement that the call can execute is one of `P`. -/
def Prog.Executes (P : β → Prop) : Prog σ β ω τ κ → Prop
  | .done => True
  | .read k => ∀ s, (k s).Executes P
  | .execute b k => P b ∧ ∀ error, (k error).Executes P
  | .commit _ k => k.Executes P
  | .ask k => ∀ c, (k c).Executes P

theorem Prog.executes_any (prog : Prog σ β ω τ κ) : prog.Executes fun _ => True := by
  induction prog with
  | done => trivial
  | read _ ih | ask _ ih => exact ih
  | execute _ _ ih => exact ⟨trivial, ih⟩
  | commit _ _ ih => exact ih

/-- What every statement of a call keeps, the call keeps. -/
theorem Prog.alone_keeps {exec : β → σ → Except ω σ} {answer : ℕ → κ} {P : β → Prop}
    {I : σ → Prop} (hexec : ∀ b s s', P b → exec b s = .ok s' → I s → I s')
    {prog : Prog σ β ω τ κ} : ∀ {s view : σ} {n : ℕ}, prog.Executes P → I s → I view →
      I (prog.alone exec answer s view n) := by
  induction prog with
  | done => exact fun _ hs _ => hs
  | read k ih => exact fun hp hs hview => ih _ (hp _) hs hview
  | execute b k ih =>
      intro s view n hp hs hview
      rw [Prog.alone]
      cases hb : exec b view with
      | ok view' => exact ih _ (hp.2 _) hs (hexec b view view' hp.1 hb hview)
      | error e => exact ih _ (hp.2 _) hs hs
  | commit t k ih => exact fun hp _ hview => ih hp hview hview
  | ask k ih => exact fun hp hs hview => ih _ (hp _) hs hview

namespace Calls
variable {C : Calls σ β ω τ κ ρ ε}

/-- A running call that is resumed until it ends leaves what it leaves alone. -/
theorem alone_run (answer : ℕ → κ) (r : ℕ) {prog : Prog σ β ω τ κ} :
    ∀ {s : System σ (Session σ β ω τ κ ρ)} {pending : List β} {committed : List τ} {view : σ}
      {n : ℕ}, s.procs.get r = some (.running prog pending committed) →
      runAll C.exec pending s.store = .ok view →
      ∃ acts s', Run C.processes.Step s acts s' ∧ (∀ a ∈ acts, ∃ c, a = .resume r c) ∧
        s'.procs.get r = none ∧ s'.store = prog.alone C.exec answer s.store view n := by
  induction prog with
  | done =>
      intro s pending committed view n hr hview
      refine ⟨[.resume r (answer n)], ⟨s.store, s.procs.del r⟩, .one ?_, by simp,
        Table.get_del_same _ _, rfl⟩
      simp only [Processes.Step, Processes.act, hr]
      rfl
  | read k ih =>
      intro s pending committed view n hr hview
      obtain ⟨acts, s', hrun, hacts, hend, hstore⟩ := ih view
        (s := ⟨s.store, s.procs.upd r (.running (k view) pending committed)⟩) (n := n)
        (Table.get_upd_same _ _ _) hview
      refine ⟨.resume r (answer n) :: acts, s', .cons ?_ hrun, by simpa using hacts, hend, hstore⟩
      simp only [Processes.Step, Processes.act, hr]
      simp only [processes, resume, hview]
  | execute b k ih =>
      intro s pending committed view n hr hview
      cases hb : C.exec b view with
      | ok view' =>
          obtain ⟨acts, s', hrun, hacts, hend, hstore⟩ := ih none
            (s := ⟨s.store, s.procs.upd r (.running (k none) (pending ++ [b]) committed)⟩) (n := n)
            (Table.get_upd_same _ _ _) (runAll_append.mpr ⟨view, hview, runAll_one.mpr hb⟩)
          refine ⟨.resume r (answer n) :: acts, s', .cons ?_ hrun, by simpa using hacts, hend, ?_⟩
          · simp only [Processes.Step, Processes.act, hr]
            simp only [processes, resume, hview, hb]
          · simp only [hstore, Prog.alone, hb]
      | error e =>
          obtain ⟨acts, s', hrun, hacts, hend, hstore⟩ := ih (some e)
            (s := ⟨s.store, s.procs.upd r (.running (k (some e)) [] committed)⟩) (n := n)
            (Table.get_upd_same _ _ _) rfl
          refine ⟨.resume r (answer n) :: acts, s', .cons ?_ hrun, by simpa using hacts, hend, ?_⟩
          · simp only [Processes.Step, Processes.act, hr]
            simp only [processes, resume, hview, hb]
          · simp only [hstore, Prog.alone, hb]
  | commit t k ih =>
      intro s pending committed view n hr hview
      obtain ⟨acts, s', hrun, hacts, hend, hstore⟩ := ih
        (s := ⟨view, s.procs.upd r (.running k [] (committed ++ [t]))⟩) (n := n)
        (Table.get_upd_same _ _ _) rfl
      refine ⟨.resume r (answer n) :: acts, s', .cons ?_ hrun, by simpa using hacts, hend, hstore⟩
      simp only [Processes.Step, Processes.act, hr]
      simp only [processes, resume, hview]
  | ask k ih =>
      intro s pending committed view n hr hview
      obtain ⟨acts, s', hrun, hacts, hend, hstore⟩ := ih (answer n)
        (s := ⟨s.store, s.procs.upd r (.running (k (answer n)) pending committed)⟩) (n := n + 1)
        (Table.get_upd_same _ _ _) hview
      refine ⟨.resume r (answer n) :: acts, s', .cons ?_ hrun, by simpa using hacts, hend, hstore⟩
      simp only [Processes.Step, Processes.act, hr]
      simp only [processes, resume]

end Calls

end SnakeArena.Library
