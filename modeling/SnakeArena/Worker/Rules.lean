import SnakeArena.Worker.Settle

/-!
# Worker — what the steps of a settlement keep

One rule for each kind of await, over any invariant, any interference and any promise: an await
that only reads keeps everything, a write has to keep the invariant and go along the
interference, and an instruction sent is one write for each copy of it that lands.

The rules of `Does` follow, where nothing that was read has to last.
-/

namespace SnakeArena.Worker
open SnakeArena.Library SnakeArena.Db SnakeArena.Program SnakeArena.Books

variable {I : Services → Prop} {R : Services → Services → Prop} {G : Services → Op → Reply → Prop}
  {post : Outcome → Services → Prop} {s : Services} {throw k : Prog} {β : Type}

section Reads

/-- A read, and what follows on what it saw. -/
theorem safe_read {f : Services → β} {k : β → Prog} (hrefl : ∀ s, R s s)
    (hthrow : ∀ s, Safe I R G post throw s)
    (hk : ∀ s', R s s' → I s' → Safe I R G post (k (f s')) s') :
    Safe I R G post (read f throw k) s := by
  rintro s' hR hI c -
  refine ⟨hI, hrefl s', ?_⟩
  dsimp only
  split
  · exact hk s' hR hI
  · exact hthrow s'

/-- A read whose failure is a value. -/
theorem safe_readOr {f : Services → β} {default : β} {k : β → Prog} (hrefl : ∀ s, R s s)
    (hk : ∀ b s', R s s' → I s' → Safe I R G post (k b) s') :
    Safe I R G post (readOr f default k) s := by
  rintro s' hR hI c -
  exact ⟨hI, hrefl s', hk _ s' hR hI⟩

/-- The players are told, whatever becomes of it. -/
theorem safe_notify (hrefl : ∀ s, R s s) (hk : ∀ s', R s s' → I s' → Safe I R G post k s') :
    Safe I R G post (notifyPlayers k) s := by
  rintro s' hR hI c -
  exact ⟨hI, hrefl s', hk s' hR hI⟩

/-- Two reads of the chain, one after the other. -/
theorem safe_readVault {gameId : ℕ} {rt : Runtime} {failed : ℤ} {k : ℤ → ℤ → Prog}
    (hrefl : ∀ s, R s s) (htrans : ∀ s₁ s₂ s₃, R s₁ s₂ → R s₂ s₃ → R s₁ s₃)
    (hk : ∀ balance rentFloor s', R s s' → I s' → Safe I R G post (k balance rentFloor) s') :
    Safe I R G post (readVault gameId rt failed k) s :=
  safe_readOr hrefl fun balance _ h₁ _ =>
    safe_readOr hrefl fun rentFloor s₂ h₂ => hk balance rentFloor s₂ (htrans _ _ _ h₁ h₂)

end Reads

section Writes

/-- A write that keeps `I` and goes along `R`. -/
def Keeps (I : Services → Prop) (R : Services → Services → Prop) (s s' : Services) : Prop :=
  I s → I s' ∧ R s s'

/-- A write keeps the invariant wherever it lands, and the program goes on from there. -/
theorem safe_write {f : Services → Option Services} (hrefl : ∀ s, R s s)
    (hthrow : ∀ s, Safe I R G post throw s)
    (hf : ∀ s' v, R s s' → f s' = some v → Keeps I R s' v)
    (hk : ∀ s' v, R s s' → I s' → f s' = some v → Safe I R G post k v) :
    Safe I R G post (write f throw k) s := by
  rintro s' hR hI c -
  cases hv : f s' with
  | none =>
      simp only [hv, Option.getD_none, ite_self, Option.isSome_none, Bool.false_eq_true, and_false,
        ↓reduceIte]
      exact ⟨hI, hrefl s', hthrow s'⟩
  | some v =>
      simp only [hv, Option.getD_some, Option.isSome_some, and_true]
      cases harrival : c.arrival with
      | failed => 
          simp only [↓reduceIte, reduceCtorEq]
          exact ⟨hI, hrefl s', hthrow s'⟩
      | lost =>
          simp only [↓reduceIte, reduceCtorEq]
          obtain ⟨hI', hR'⟩ := hf s' v hR hv hI
          exact ⟨hI', hR', hthrow v⟩
      | answered =>
          simp only [↓reduceIte, reduceCtorEq]
          obtain ⟨hI', hR'⟩ := hf s' v hR hv hI
          exact ⟨hI', hR', hk s' v hR hI hv⟩

/-- A write of a game's row. -/
theorem safe_updateGame {gameId : ℕ} {data : Game → Game} (hrefl : ∀ s, R s s)
    (hthrow : ∀ s, Safe I R G post throw s)
    (hf : ∀ s' v, R s s' → s'.updateGame gameId data = some v → Keeps I R s' v)
    (hk : ∀ s' v, R s s' → I s' → s'.updateGame gameId data = some v → Safe I R G post k v) :
    Safe I R G post (updateGame gameId data throw k) s :=
  safe_write hrefl hthrow hf hk

/-- Steps one after the other, each of which leaves what the next one needs. -/
theorem safe_forEach {xs : List β} {body : β → Prog → Prog} {K : Services → Prop}
    (hbody : ∀ x k, (∀ s, K s → Safe I R G post k s) → ∀ s, K s → Safe I R G post (body x k) s)
    (hk : ∀ s, K s → Safe I R G post k s) :
    ∀ s, K s → Safe I R G post (forEach xs body k) s := by
  induction xs with
  | nil => exact hk
  | cons x xs ih => exact hbody x _ ih

/-- Statements that a transaction executes. -/
def Executes (P : Statement → Prop) : Books.Prog → Prop
  | .done => True
  | .read f => ∀ view, Executes P (f view)
  | .execute b f => P b ∧ Executes P (f none)
  | .commit _ next => Executes P next
  | .ask f => ∀ c, Executes P (f c)

/-- Whatever account is found. -/
theorem executes_findAccount {P : Statement → Prop} {name : PoolAccountName}
    {k : Option PoolAccount → Books.Prog} (h : ∀ found, Executes P (k found)) :
    Executes P (findAccount name k) := fun _ => h _

/-- Whatever id is drawn. -/
theorem executes_uuid {P : Statement → Prop} {k : ℕ → Books.Prog} (h : ∀ id, Executes P (k id)) :
    Executes P (uuid k) := by
  intro c
  cases c with
  | uuid id => exact h id
  | wallet | locked | notVisible | verified | unverified => trivial

/-- One statement, and the rest. -/
theorem executes_run {P : Statement → Prop} {b : Statement} {k : Books.Prog} (hb : P b)
    (hk : Executes P k) : Executes P (.run b k) := ⟨hb, hk⟩

/-- A transaction commits statements of its own. -/
theorem safe_transaction {P : Statement → Prop} (hrefl : ∀ s, R s s)
    (htrans : ∀ s₁ s₂ s₃, R s₁ s₂ → R s₂ s₃ → R s₁ s₃) (hthrow : ∀ s, Safe I R G post throw s)
    {t : Books.Prog} : ∀ {pending : List Statement} {s : Services}, Executes P t →
      (∀ b ∈ pending, P b) →
      (∀ s' database bs, R s s' → (∀ b ∈ bs, P b) →
        runAll Database.exec bs s'.database = .ok database → Keeps I R s' { s' with database }) →
      (∀ s', R s s' → Safe I R G post k s') →
      Safe I R G post (transaction throw k t pending) s := by
  induction t with
  | done => exact fun _ _ _ hk => hk _ (hrefl _)
  | read f ih =>
      rintro pending s ht hpending hcommit hk
      rw [transaction]
      rintro s' hR hI c -
      refine ⟨hI, hrefl s', ?_⟩
      dsimp only
      split
      next view _ _ =>
          exact ih view (ht view) hpending (fun s₁ d bs h₁ => hcommit s₁ d bs (htrans _ _ _ hR h₁))
            fun s₁ h₁ => hk s₁ (htrans _ _ _ hR h₁)
      · exact hthrow s'
  | execute b f ih =>
      rintro pending s ⟨hb, ht⟩ hpending hcommit hk
      rw [transaction]
      rintro s' hR hI c -
      refine ⟨hI, hrefl s', ?_⟩
      dsimp only
      split
      next =>
          refine ih none ht (fun b' hb' => ?_)
            (fun s₁ d bs h₁ => hcommit s₁ d bs (htrans _ _ _ hR h₁))
            fun s₁ h₁ => hk s₁ (htrans _ _ _ hR h₁)
          obtain hb' | hb' := List.mem_append.mp hb'
          · exact hpending b' hb'
          · exact List.mem_singleton.mp hb' ▸ hb
      · exact hthrow s'
  | commit l next ih =>
      rintro pending s ht hpending hcommit hk
      rw [transaction]
      rintro s' hR hI c -
      cases hrun : runAll Database.exec pending s'.database with
      | error => 
          cases harrival : c.arrival with
          | answered | lost | failed =>
              simp only [harrival, hrun]
              exact ⟨hI, hrefl s', hthrow s'⟩
      | ok database =>
          obtain ⟨hI', hR'⟩ := hcommit s' database pending hR hpending hrun hI
          cases harrival : c.arrival with
          | failed =>
              simp only [harrival, hrun]
              exact ⟨hI, hrefl s', hthrow s'⟩
          | lost =>
              simp only [harrival, hrun]
              exact ⟨hI', hR', hthrow _⟩
          | answered =>
              simp only [harrival, hrun]
              have hlater := htrans _ _ _ hR hR'
              exact ⟨hI', hR', ih ht (by simp)
                (fun s₁ d bs h₁ => hcommit s₁ d bs (htrans _ _ _ hlater h₁))
                fun s₁ h₁ => hk s₁ (htrans _ _ _ hlater h₁)⟩
  | ask f ih =>
      rintro pending s ht hpending hcommit hk
      rw [transaction]
      rintro s' hR hI c -
      exact ⟨hI, hrefl s', ih _ (ht _) hpending
        (fun s₁ d bs h₁ => hcommit s₁ d bs (htrans _ _ _ hR h₁))
        fun s₁ h₁ => hk s₁ (htrans _ _ _ hR h₁)⟩

end Writes

section Chain
variable {rt : Runtime} {op : Op} {i : Instruction} {k : Except Failure String → Prog}

/-- An instruction sent: every copy of it that lands is a write, and the answer is the one of
the last copy, unless it is lost. -/
theorem safe_sendSigned (hrefl : ∀ s, R s s)
    (htrans : ∀ s₁ s₂ s₃, R s₁ s₂ → R s₂ s₃ → R s₁ s₃) {attempts : ℕ} : ∀ {s : Services},
      (∀ s' c, R s s' → G s' op c → Keeps I R s' (s'.land rt c.now i)) →
      (∀ s' c, R s s' → I s' → G s' op c →
        Safe I R G post (k ((s'.answer rt c.now i).map fun _ => c.signature))
          (s'.land rt c.now i)) →
      (∀ s', R s s' → Safe I R G post (k (.error .rpc)) s') →
      Safe I R G post (sendSigned rt op i k attempts) s := by
  induction attempts with
  | zero => exact fun _ _ hrpc => hrpc _ (hrefl _)
  | succ attempts ih =>
      rintro s hland hk hrpc s' hR hI c hG
      have again : ∀ s₁, R s s₁ → Safe I R G post
          (if c.retry = true then sendSigned rt op i k attempts else k (.error .rpc)) s₁ := by
        intro s₁ h₁
        split
        · exact ih (fun s₂ c₂ h₂ => hland s₂ c₂ (htrans _ _ _ h₁ h₂))
            (fun s₂ c₂ h₂ => hk s₂ c₂ (htrans _ _ _ h₁ h₂))
            fun s₂ h₂ => hrpc s₂ (htrans _ _ _ h₁ h₂)
        · exact hrpc s₁ h₁
      cases harrival : c.arrival with
      | failed =>
          simp only [harrival, ↓reduceIte, reduceCtorEq]
          exact ⟨hI, hrefl s', again s' hR⟩
      | lost =>
          obtain ⟨hI', hR'⟩ := hland s' c hR hG hI
          simp only [harrival, ↓reduceIte, reduceCtorEq]
          exact ⟨hI', hR', again _ (htrans _ _ _ hR hR')⟩
      | answered =>
          obtain ⟨hI', hR'⟩ := hland s' c hR hG hI
          simp only [harrival, ↓reduceIte, reduceCtorEq]
          exact ⟨hI', hR', hk s' c hR hI hG⟩

end Chain

/-! ### Whatever the others do -/

section Does
variable {G : Services → Op → Reply → Services → Prop} {T : Services → Services → Prop}
  {P : Outcome → Prop} {throw k : Prog} {β : Type}

/-- A read, and what follows on whatever it saw. -/
theorem does_read {f : Services → β} {k : β → Prog} (hrefl : ∀ s, T s s)
    (hthrow : Does G T P throw) (hk : ∀ s c, G s .read c s → Does G T P (k (f s))) :
    Does G T P (read f throw k) := by
  intro s c hG
  refine ⟨hrefl s, ?_⟩
  dsimp only
  split
  · exact hk s c hG
  · exact hthrow

/-- A read whose failure is a value. -/
theorem does_readOr {f : Services → β} {default : β} {k : β → Prog} (hrefl : ∀ s, T s s)
    (hk : ∀ b, Does G T P (k b)) : Does G T P (readOr f default k) :=
  fun s _ _ => ⟨hrefl s, hk _⟩

/-- Two reads of the chain. -/
theorem does_readVault {gameId : ℕ} {rt : Runtime} {failed : ℤ} {k : ℤ → ℤ → Prog}
    (hrefl : ∀ s, T s s) (hk : ∀ balance rentFloor, Does G T P (k balance rentFloor)) :
    Does G T P (readVault gameId rt failed k) :=
  does_readOr hrefl fun balance => does_readOr hrefl fun rentFloor => hk balance rentFloor

/-- The players are told. -/
theorem does_notify (hrefl : ∀ s, T s s) (hk : Does G T P k) : Does G T P (notifyPlayers k) :=
  fun s _ _ => ⟨hrefl s, hk⟩

/-- A write does what it may, whatever the store is by then. -/
theorem does_write {f : Services → Option Services} (hrefl : ∀ s, T s s)
    (hthrow : Does G T P throw) (hf : ∀ s v, f s = some v → T s v)
    (hk : ∀ s c v, f s = some v → G s .write c v → Does G T P k) :
    Does G T P (write f throw k) := by
  intro s c
  cases hv : f s with
  | none =>
      simp only [hv, Option.getD_none, ite_self, Option.isSome_none, Bool.false_eq_true, and_false,
        ↓reduceIte]
      exact fun _ => ⟨hrefl s, hthrow⟩
  | some v =>
      simp only [hv, Option.getD_some, Option.isSome_some, and_true]
      cases harrival : c.arrival with
      | failed =>
          simp only [↓reduceIte, reduceCtorEq]
          exact fun _ => ⟨hrefl s, hthrow⟩
      | lost =>
          simp only [↓reduceIte, reduceCtorEq]
          exact fun _ => ⟨hf s v hv, hthrow⟩
      | answered =>
          simp only [↓reduceIte, reduceCtorEq]
          exact fun hG => ⟨hf s v hv, hk s c v hv hG⟩

/-- A loop does what its body does. -/
theorem does_forEach {xs : List β} {body : β → Prog → Prog}
    (hbody : ∀ x k, Does G T P k → Does G T P (body x k)) (hk : Does G T P k) :
    Does G T P (forEach xs body k) := by
  induction xs with
  | nil => exact hk
  | cons x xs ih => exact hbody x _ ih

/-- A transaction commits statements of its own. -/
theorem does_commits {Q : Statement → Prop} (hrefl : ∀ s, T s s) (hthrow : Does G T P throw)
    (hcommit : ∀ (s : Services) statements database, (∀ b ∈ statements, Q b) →
      runAll Database.exec statements s.database = .ok database → T s { s with database })
    (hk : Does G T P k) {t : Books.Prog} : ∀ {pending : List Statement}, Executes Q t →
      (∀ b ∈ pending, Q b) → Does G T P (transaction throw k t pending) := by
  induction t with
  | done => exact fun _ _ => hk
  | read f ih =>
      intro pending ht hpending
      rw [transaction]
      intro s c _
      refine ⟨hrefl s, ?_⟩
      dsimp only
      split
      · exact ih _ (ht _) hpending
      · exact hthrow
  | execute b f ih =>
      intro pending ht hpending
      rw [transaction]
      intro s c _
      refine ⟨hrefl s, ?_⟩
      dsimp only
      split
      · exact ih none ht.2 (List.forall_mem_append.mpr ⟨hpending,
          List.forall_mem_singleton.mpr ht.1⟩)
      · exact hthrow
  | commit l next ih =>
      intro pending ht hpending
      rw [transaction]
      intro s c _
      refine ⟨?_, ?_⟩
      · dsimp only
        split
        next hrun => exact hcommit s pending _ hpending hrun
        next hrun => exact hcommit s pending _ hpending hrun
        · exact hrefl s
      · dsimp only
        split
        · exact ih ht fun _ h => absurd h List.not_mem_nil
        · exact hthrow
  | ask f ih =>
      intro pending ht hpending
      rw [transaction]
      exact fun s c _ => ⟨hrefl s, ih _ (ht _) hpending⟩

theorem executes_any {t : Books.Prog} : Executes (fun _ => True) t := by
  induction t with
  | done => trivial
  | read f ih => exact fun _ => ih _
  | execute b f ih => exact ⟨trivial, ih none⟩
  | commit l next ih => exact ih
  | ask f ih => exact fun _ => ih _

/-- A transaction commits a database. -/
theorem does_transaction (hrefl : ∀ s, T s s) (hthrow : Does G T P throw)
    (hcommit : ∀ (s : Services) database, T s { s with database }) (hk : Does G T P k)
    {t : Books.Prog} {pending : List Statement} : Does G T P (transaction throw k t pending) :=
  does_commits hrefl hthrow (fun s _ database _ _ => hcommit s database) hk executes_any
    fun _ _ => trivial

/-- Any copies of an instruction land. -/
theorem does_sendSigned {rt : Runtime} {op : Op} {i : Instruction}
    {k : Except Failure String → Prog} (hrefl : ∀ s, T s s)
    (hland : ∀ (s : Services) now, T s (s.land rt now i)) (hk : ∀ r, Does G T P (k r)) :
    ∀ {attempts : ℕ}, Does G T P (sendSigned rt op i k attempts)
  | 0 => hk _
  | attempts + 1 => by
      intro s c _
      refine ⟨?_, ?_⟩
      · dsimp only
        split
        · exact hrefl s
        · exact hland s c.now
      · dsimp only
        split_ifs
        · exact hk _
        · exact does_sendSigned hrefl hland hk
        · exact hk _

end Does

end SnakeArena.Worker
