import SnakeArena.Library.Processes

/-!
# Library — asynchronous functions

An asynchronous function is a tree (`Async`): it returns, it throws, or it awaits, which is one
step on the store that everybody shares, and goes on with what it saw there and the answer it
got.  Between two awaits of a function the others run.

`Safe` is what a function does under the others' interference, and `Functions.keeps` the rule:
functions that are safe from their calls on keep the invariant in every run, and what one
returns is what it promised.

`Relies` is where its awaits go under that interference, with no invariant to keep.

`Does` is what a function does whatever the store is by then, when nothing that it saw has to
last, and `Functions.does_keeps` the rule for it.  `Async.within` runs a function of a part of
the store.

`Alone` is what a function does when nothing happens between its awaits, and `Stops` where it is
when it is left there.  `Throughout` is the rule for both: what holds at each await, where the
function throws and where it returns.  `Completes` and `Repeats` are of calls that return.
-/

namespace SnakeArena.Library

variable {σ τ κ α ρ ε : Type}

/-- Stores `σ`, kinds of awaits `τ`, answers `κ` and results `α`. -/
inductive Async (σ τ κ α : Type) where
  | returns (a : α)
  | throws
  | await (op : τ) (act : σ → κ → σ) (k : σ → κ → Async σ τ κ α)

/-- A function of a part of the store, with what follows its throw and its return. -/
def Async.within {σ' τ' β : Type} (get : σ' → σ) (set : σ' → σ → σ') (op : τ')
    (throw : Async σ' τ' κ β) (k : α → Async σ' τ' κ β) : Async σ τ κ α → Async σ' τ' κ β
  | .returns a => k a
  | .throws => throw
  | .await _ act next =>
      .await op (fun s c => set s (act (get s) c)) fun s c =>
        within get set op throw k (next (get s) c)

inductive Task (σ τ κ α ρ : Type) where
  | call (request : ρ)
  | running (prog : Async σ τ κ α)

/-- The function of a request, and what else can happen to the store. -/
structure Functions (σ τ κ α ρ ε : Type) where
  program : ρ → Async σ τ κ α
  outside : σ → ε → Option σ

namespace Functions
variable (F : Functions σ τ κ α ρ ε)

/-- One step of a function. -/
def resume (_ : ℕ) (s : σ) : Task σ τ κ α ρ → κ → σ × Option (Task σ τ κ α ρ)
  | .call request, _ => (s, some (.running (F.program request)))
  | .running (.returns _), _ => (s, none)
  | .running .throws, _ => (s, none)
  | .running (.await _ act k), c => (act s c, some (.running (k s c)))

/-- Any number of functions, of any requests. -/
def processes : Processes σ (Task σ τ κ α ρ) κ ε where
  starts p :=
    match p with
    | .call _ => true
    | .running _ => false
  resume := F.resume
  other := F.outside

/-- Where an await of a kind may be answered so. -/
def Allows (G : σ → τ → κ → Prop) (s : System σ (Task σ τ κ α ρ)) :
    Act (Task σ τ κ α ρ) κ ε → Prop
  | .resume r c =>
      match s.procs.get r with
      | some (.running (.await op _ _)) => G s.store op c
      | _ => True
  | _ => True

instance (G : σ → τ → κ → Prop) [∀ s op c, Decidable (G s op c)]
    (s : System σ (Task σ τ κ α ρ)) (a : Act (Task σ τ κ α ρ) κ ε) : Decidable (Allows G s a) :=
  match a with
  | .start _ _ | .crash _ | .other _ => .isTrue trivial
  | .resume r c =>
      match h : s.procs.get r with
      | some (.running (.await op _ _)) =>
          decidable_of_iff (G s.store op c) (by simp only [Allows, h])
      | none | some (.call _) | some (.running (.returns _)) | some (.running .throws) =>
          .isTrue (by simp only [Allows, h])

/-- A function that returned `a`, in a system. -/
def Returned (s : System σ (Task σ τ κ α ρ)) (a : α) : Prop :=
  ∃ r, s.procs.get r = some (.running (.returns a))

/-- What function `r` returned. -/
def result (s : System σ (Task σ τ κ α ρ)) (r : ℕ) : Option α :=
  match s.procs.get r with
  | some (.running (.returns a)) => some a
  | _ => none

theorem Returned.of_result {s : System σ (Task σ τ κ α ρ)} {r : ℕ} {a : α}
    (h : result s r = some a) : Returned s a := by
  unfold result at h
  split at h
  next hp => exact ⟨r, Option.some.inj h ▸ hp⟩
  · cases h

end Functions

/-! ### The rule -/

section Safe
variable (I : σ → Prop) (R : σ → σ → Prop) (G : σ → τ → κ → Prop) (post : α → σ → Prop)

/-- Whatever the others do along `R`: each await keeps `I` and goes along `R`, and what is
returned meets `post`. -/
def Safe : Async σ τ κ α → σ → Prop
  | .returns a, s => ∀ s', R s s' → I s' → post a s'
  | .throws, _ => True
  | .await op act k, s =>
      ∀ s', R s s' → I s' → ∀ c, G s' op c →
        I (act s' c) ∧ R s' (act s' c) ∧ Safe (k s' c) (act s' c)

variable {I R G post}

theorem Safe.later (htrans : ∀ s₁ s₂ s₃, R s₁ s₂ → R s₂ s₃ → R s₁ s₃) {prog : Async σ τ κ α}
    {s s' : σ} (h : Safe I R G post prog s) (hR : R s s') : Safe I R G post prog s' := by
  cases prog with
  | returns a => exact fun s₁ h₁ => h s₁ (htrans _ _ _ hR h₁)
  | throws => trivial
  | await op act k => exact fun s₁ h₁ => h s₁ (htrans _ _ _ hR h₁)

/-- What a task knows. -/
def Promises (I : σ → Prop) (R : σ → σ → Prop) (G : σ → τ → κ → Prop) (post : α → σ → Prop)
    (s : σ) : Task σ τ κ α ρ → Prop
  | .call _ => True
  | .running prog => Safe I R G post prog s

variable {F : Functions σ τ κ α ρ ε}

/-- **The rule for asynchronous functions.** -/
theorem Functions.keeps {H : System σ (Task σ τ κ α ρ) → Act (Task σ τ κ α ρ) κ ε → Prop}
    (hrefl : ∀ s, R s s) (htrans : ∀ s₁ s₂ s₃, R s₁ s₂ → R s₂ s₃ → R s₁ s₃)
    (hallows : ∀ s a, H s a → Allows G s a)
    (hprogram : ∀ request s, Safe I R G post (F.program request) s)
    (houtside : ∀ s e s', I s.store → H s (.other e) → F.outside s.store e = some s' →
      I s' ∧ R s.store s') :
    F.processes.Keeps H I (fun s _ p => Promises I R G post s p) fun _ _ => True := by
  refine .of_leads (R := fun s s' => I s' ∧ R s s') (K := Promises I R G post)
    (fun _ _ h => h.1) ?_ ?_ ?_ houtside
  · rintro s s' p ⟨-, hR⟩ hp
    match p, hp with
    | .call _, _ => trivial
    | .running prog, hp => exact Safe.later htrans hp hR
  · intro s p hstarts
    match p, hstarts with
    | .call _, _ => trivial
  · rintro ⟨s, procs⟩ r p c (hI : I s) hp hknows hH
    have hG := hallows _ _ hH
    simp only [processes]
    match p, hp, hknows with
    | .call request, _, _ => exact .goes ⟨hI, hrefl s⟩ (hprogram request s)
    | .running (.returns _), _, _ => exact .ends ⟨hI, hrefl s⟩
    | .running .throws, _, _ => exact .ends ⟨hI, hrefl s⟩
    | .running (.await op act k), hp, hknows =>
        simp only [Allows] at hG hp
        rw [hp] at hG
        obtain ⟨hI', hR, hk⟩ := hknows s (hrefl s) hI c hG
        exact .goes ⟨hI', hR⟩ hk

/-- What a function returned is what it promised, in every run. -/
theorem Functions.returned {H : System σ (Task σ τ κ α ρ) → Act (Task σ τ κ α ρ) κ ε → Prop}
    (hrefl : ∀ s, R s s)
    (h : F.processes.Keeps H I (fun s _ p => Promises I R G post s p) fun _ _ => True)
    {init : System σ (Task σ τ κ α ρ) → Prop} (h₀ : ∀ s, init s → I s.store ∧ s.procs = Table.empty)
    {s : System σ (Task σ τ κ α ρ)} (hs : Reachable (Guarded F.processes.Step H) init s) {a : α}
    (ha : Returned s a) : I s.store ∧ post a s.store := by
  obtain ⟨hI, hpromises, -⟩ := h.reachable (fun s hs => ⟨(h₀ s hs).1,
    by rw [(h₀ s hs).2]; exact Table.All.empty, fun _ _ _ _ _ _ _ => trivial⟩) hs
  obtain ⟨r, hr⟩ := ha
  exact ⟨hI, hpromises r _ hr s.store (hrefl _) hI⟩

end Safe

/-! ### Where the awaits go -/

section Relies
variable (R T : σ → σ → Prop)

/-- Whatever the others do along `R`, each await goes along `T`. -/
def Relies : Async σ τ κ α → σ → Prop
  | .returns _, _ => True
  | .throws, _ => True
  | .await _ act k, s =>
      ∀ s', R s s' → ∀ c, T s' (act s' c) ∧ Relies (k s' c) (act s' c)

variable {R T}

theorem Relies.later (htrans : ∀ s₁ s₂ s₃, R s₁ s₂ → R s₂ s₃ → R s₁ s₃) {prog : Async σ τ κ α}
    {s s' : σ} (h : Relies R T prog s) (hR : R s s') : Relies R T prog s' := by
  cases prog with
  | returns a => trivial
  | throws => trivial
  | await op act k => exact fun s₁ h₁ => h s₁ (htrans _ _ _ hR h₁)

end Relies

/-! ### Whatever the others do -/

section Does
variable (G : σ → τ → κ → σ → Prop) (T : σ → σ → Prop) (P : α → Prop)

/-- Each await that `G` lets happen goes along `T`, whatever the store is by then, and what is
returned meets `P`. -/
def Does : Async σ τ κ α → Prop
  | .returns a => P a
  | .throws => True
  | .await op act k => ∀ s c, G s op c (act s c) → T s (act s c) ∧ Does (k s c)

variable {G T P}

/-- A function of a part of the store does there what it does alone. -/
theorem Does.within {σ' τ' β : Type} {get : σ' → σ} {set : σ' → σ → σ'} {op' : τ'}
    {G' : σ' → τ' → κ → σ' → Prop} {T' : σ' → σ' → Prop} {P' : β → Prop}
    {throw : Async σ' τ' κ β} {k : α → Async σ' τ' κ β} (hthrow : Does G' T' P' throw)
    (hk : ∀ a, P a → Does G' T' P' (k a))
    (hG : ∀ s op c u, G' s op' c (set s u) → G (get s) op c u)
    (hT : ∀ s c u, G' s op' c (set s u) → T (get s) u → T' s (set s u)) :
    ∀ {prog : Async σ τ κ α}, Does G T P prog →
      Does G' T' P' (Async.within get set op' throw k prog)
  | .returns a, h => hk a h
  | .throws, _ => hthrow
  | .await op act next, h => by
      intro s c hs
      obtain ⟨hact, hnext⟩ := h (get s) c (hG s op c _ hs)
      exact ⟨hT s c _ hs hact, Does.within hthrow hk hG hT hnext⟩

/-- A task whose function does so. -/
def Task.Tame (G : σ → τ → κ → σ → Prop) (T : σ → σ → Prop) (P : α → Prop) : Task σ τ κ α ρ → Prop
  | .call _ => True
  | .running prog => Does G T P prog

variable {F : Functions σ τ κ α ρ ε} {I : σ → Prop}

/-- **The rule for functions that keep `I` whatever the others do.** -/
theorem Functions.does_keeps {H : System σ (Task σ τ κ α ρ) → Act (Task σ τ κ α ρ) κ ε → Prop}
    (hresume : ∀ s r c op act k, I s.store → H s (.resume r c) →
      s.procs.get r = some (.running (.await op act k)) → G s.store op c (act s.store c))
    (hprogram : ∀ request, Does G (fun s s' => I s → I s') P (F.program request))
    (houtside : ∀ s e s', I s.store → H s (.other e) → F.outside s.store e = some s' → I s') :
    F.processes.Keeps H I (fun _ _ p => Task.Tame G (fun s s' => I s → I s') P p)
      fun _ _ => True := by
  refine .of_leads (R := fun _ s' => I s')
    (K := fun _ p => Task.Tame G (fun s s' => I s → I s') P p)
    (fun _ _ h => h) (fun _ _ _ _ h => h) ?_ ?_ houtside
  · intro s p hstarts
    match p, hstarts with
    | .call _, _ => trivial
  · rintro ⟨s, procs⟩ r p c (hI : I s) hp hknows hH
    simp only [processes]
    match p, hp, hknows with
    | .call request, _, _ => exact .goes hI (hprogram request)
    | .running (.returns _), _, _ => exact .ends hI
    | .running .throws, _, _ => exact .ends hI
    | .running (.await op act k), hp, hknows =>
        obtain ⟨hact, hk⟩ := hknows s c (hresume _ r c op act k hI hH hp)
        exact .goes (hact hI) hk

end Does

/-! ### On its own -/

/-- From its first await to its return, with nothing between: the answers it got, the store it
leaves, and what it returns. -/
inductive Alone : Async σ τ κ α → σ → List κ → σ → α → Prop
  | returns (a : α) (s : σ) : Alone (.returns a) s [] s a
  | await {op : τ} {act : σ → κ → σ} {k : σ → κ → Async σ τ κ α} {s s' : σ} {c : κ} {cs : List κ}
      {a : α} (h : Alone (k s c) (act s c) cs s' a) : Alone (.await op act k) s (c :: cs) s' a

/-- The same, computed. -/
def Async.alone : Async σ τ κ α → σ → List κ → Option (σ × α)
  | .returns a, s, _ => some (s, a)
  | .throws, _, _ => none
  | .await _ _ _, _, [] => none
  | .await _ act k, s, c :: cs => (k s c).alone (act s c) cs

theorem Alone.of_alone {prog : Async σ τ κ α} :
    ∀ {s s' : σ} {cs : List κ} {a : α}, prog.alone s cs = some (s', a) →
      ∃ cs', Alone prog s cs' s' a := by
  induction prog with
  | returns a =>
      intro s s' cs a' h
      cases h
      exact ⟨[], .returns a s⟩
  | throws => exact nofun
  | await op act k ih =>
      intro s s' cs a h
      cases cs with
      | nil => cases h
      | cons c cs =>
          obtain ⟨cs', h⟩ := ih s c h
          exact ⟨c :: cs', .await h⟩

/-! ### Where it stops -/

section Stops
variable (G : σ → τ → κ → Prop)

/-- Some awaits, with nothing between them: what is left of the function, and the store. -/
inductive Stops : Async σ τ κ α → σ → Async σ τ κ α → σ → Prop
  | here (prog : Async σ τ κ α) (s : σ) : Stops prog s prog s
  | await {op : τ} {act : σ → κ → σ} {k : σ → κ → Async σ τ κ α} {s s' : σ} {c : κ}
      {rest : Async σ τ κ α} (hc : G s op c) (h : Stops (k s c) (act s c) rest s') :
      Stops (.await op act k) s rest s'

/-- With nothing between its awaits: the store meets `J` at each, `T` where it throws, and `R` where
it returns. -/
def Throughout (J T R : σ → Prop) : Async σ τ κ α → σ → Prop
  | .returns _, s => R s
  | .throws, s => T s
  | .await op act k, s => J s ∧ ∀ c, G s op c → Throughout J T R (k s c) (act s c)

/-- Whatever it is answered, it returns, and leaves what meets `post`. -/
def Completes (post : σ → Prop) : Async σ τ κ α → σ → Prop :=
  Throughout G (fun _ => True) (fun _ => False) post

/-- So many calls, one after the other, each of which returns. -/
def Repeats (prog : Async σ τ κ α) (post : σ → Prop) : ℕ → σ → Prop
  | 0, s => post s
  | n + 1, s => Completes G (Repeats prog post n) prog s

variable {G} {J T R : σ → Prop}

/-- Wherever it stops. -/
theorem Throughout.stops (hT : ∀ s, T s → J s) (hR : ∀ s, R s → J s) {prog rest : Async σ τ κ α}
    {s s' : σ} (h : Stops G prog s rest s') (hs : Throughout G J T R prog s) : J s' := by
  induction h with
  | here prog s =>
      cases prog with
      | returns => exact hR s hs
      | throws => exact hT s hs
      | await => exact hs.1
  | await hc _ ih => exact ih (hs.2 _ hc)

theorem Throughout.mono {J' T' R' : σ → Prop} (hJ : ∀ s, J s → J' s) (hT : ∀ s, T s → T' s)
    (hR : ∀ s, R s → R' s) {prog : Async σ τ κ α} :
    ∀ {s : σ}, Throughout G J T R prog s → Throughout G J' T' R' prog s := by
  induction prog with
  | returns => exact hR _
  | throws => exact hT _
  | await op act k ih => exact fun h => ⟨hJ _ h.1, fun c hc => ih _ c (h.2 c hc)⟩

/-- Calls that keep what the last of them left. -/
theorem Repeats.of_stable {prog : Async σ τ κ α} {post : σ → Prop}
    (h : ∀ s, post s → Completes G post prog s) : ∀ {n : ℕ} {s : σ}, post s →
      Repeats G prog post n s
  | 0, _, hs => hs
  | _ + 1, s, hs =>
      (h s hs).mono (fun _ => id) (fun _ => id) fun _ => Repeats.of_stable h

/-- A call from its answers: what is left of it, and the store. -/
def Async.stopped : Async σ τ κ α → σ → List κ → Async σ τ κ α × σ
  | .await _ act k, s, c :: cs => (k s c).stopped (act s c) cs
  | prog, s, _ => (prog, s)

theorem stops_stopped (hG : ∀ s op c, G s op c) : ∀ (prog : Async σ τ κ α) (s : σ) (cs : List κ),
    Stops G prog s (prog.stopped s cs).1 (prog.stopped s cs).2
  | .returns a, s, cs => by cases cs <;> exact .here _ _
  | .throws, s, cs => by cases cs <;> exact .here _ _
  | .await op act k, s, [] => .here _ _
  | .await op act k, s, c :: cs => .await (hG s op c) (stops_stopped hG (k s c) (act s c) cs)

/-- A call that completes leaves what it promised, whatever it was answered. -/
theorem Completes.alone {post : σ → Prop} {prog : Async σ τ κ α} :
    ∀ {s s' : σ} {cs : List κ} {a : α}, Completes G post prog s →
      (∀ s op, ∀ c ∈ cs, G s op c) → prog.alone s cs = some (s', a) → post s' := by
  induction prog with
  | returns =>
      intro s s' cs a h _ ha
      cases ha
      exact h
  | throws => exact fun h => h.elim
  | await op act k ih =>
      intro s s' cs a h hG ha
      cases cs with
      | nil => cases ha
      | cons c cs =>
          exact ih s c (h.2 c (hG _ _ c List.mem_cons_self))
            (fun s op c' hc => hG s op c' (List.mem_cons_of_mem _ hc)) ha

end Stops

end SnakeArena.Library
