import SnakeArena.Auth.Steps
import SnakeArena.Library.Permits

/-!
# Auth — a challenge is used once

The nonce of a challenge is in one place: with the call that drew it, in Redis, or taken
(`nonces`); and once it is taken, with the call that took it, or in the session it led to
(`openings`).

What is assumed is what the random numbers and the signatures promise: a nonce drawn is new
(`FreshNonces`), and a signature that verifies was made by the wallet (`Unforgeable`).
-/

namespace SnakeArena.Auth
open SnakeArena.Library

/-! ### What is assumed -/

/-- A nonce drawn for a challenge was not drawn before. -/
def FreshNonces (s : System Store Call) : Act Call Answer Outside → Prop
  | .resume r (.ok random _ _) =>
      match s.procs.get r with
      | some ⟨.issueNonce _, .start, _⟩ => random ∉ s.store.history.drawn
      | _ => True
  | _ => True

instance (s : System Store Call) : DecidablePred (FreshNonces s) := fun a => by
  unfold FreshNonces
  rcases a with _ | ⟨r, _ | _⟩ | _ | _ <;> dsimp only
  on_goal 2 => rcases s.procs.get r with _ | ⟨request, point, _⟩
  on_goal 3 => rcases request <;> rcases point
  all_goals infer_instance

/-- A signature of a challenge verifies only if the wallet signed its message. -/
def Unforgeable (deps : AuthDeps) (s : System Store Call) : Act Call Answer Outside → Prop
  | .resume r _ =>
      match s.procs.get r with
      | some ⟨_, .takeNonce wallet signature _ _, _⟩ =>
          match s.store.challenge wallet with
          | some record =>
              deps.nacl.verifySignature (deps.message wallet record) signature wallet = true →
                (wallet, deps.message wallet record) ∈ s.store.history.signed
          | none => True
      | _ => True
  | _ => True

instance (deps : AuthDeps) (s : System Store Call) :
    DecidablePred (Unforgeable deps s) := fun a => by
  unfold Unforgeable
  rcases a with _ | ⟨r, _⟩ | _ | _ <;> dsimp only
  on_goal 2 => rcases s.procs.get r with _ | ⟨_, point, _⟩
  on_goal 3 => rcases point with _ | _ | ⟨wallet, _⟩
  on_goal 5 =>
    dsimp only
    rcases s.store.challenge wallet
  all_goals infer_instance

def Assumed (deps : AuthDeps) (s : System Store Call) (a : Act Call Answer Outside) : Prop :=
  FreshNonces s a ∧ Unforgeable deps s a

instance (deps : AuthDeps) (s : System Store Call) : DecidablePred (Assumed deps s) := fun a => by
  unfold Assumed
  infer_instance

/-! ### What is promised -/

/-- The challenge of the wallet among the first that were issued, the last one. -/
def History.latest (h : History) (issued : ℕ) (wallet : String) : Option (String × NonceRecord) :=
  ((h.issued.take issued).filter (·.1 = wallet)).getLast?

/-- When it was taken, it was the last one issued to its wallet. -/
def History.TookLatest (h : History) (attempt : Attempt) : Prop :=
  attempt.issued ≤ h.issued.length ∧
    h.latest attempt.issued attempt.wallet = some (attempt.wallet, attempt.record)

/-- The attempt passed every check: it began in time, and the wallet signed the message that the
record makes. -/
def History.Passed (deps : AuthDeps) (h : History) (attempt : Attempt) : Prop :=
  attempt ∈ h.attempts ∧ attempt.began ≤ attempt.record.expiresAt ∧
    (attempt.wallet, deps.message attempt.wallet attempt.record) ∈ h.signed

/-- The challenge that a session was opened on. -/
def Origin.challenge : Origin → Option Attempt
  | .signed attempt => some attempt
  | _ => none

/-- What a call will open a session on. -/
def Point.challenge : Point → Option Attempt
  | .findOwner flow _ _ | .stampOwner flow _ _ _ | .createOwner flow _ _ => flow.origin.challenge
  | .findWallet origin _ _ _ _ | .insertToken origin _ _ _ => origin.challenge
  | _ => none

structure Store.Challenged (deps : AuthDeps) (s : Store) : Prop where
  held : s.nonces.All fun wallet held =>
    s.history.latest s.history.issued.length wallet = some (wallet, held.record)
  attempts : ∀ attempt ∈ s.history.attempts, s.history.TookLatest attempt
  sessions : ∀ x ∈ s.history.sessions, ∀ attempt, x.origin.challenge = some attempt →
    s.history.Passed deps attempt

/-- What is written down stays. -/
structure History.Grows (h h' : History) : Prop where
  issued : h.issued <+: h'.issued
  attempts : h.attempts ⊆ h'.attempts
  signed : h.signed ⊆ h'.signed

/-- What a call knows where it waits. -/
def Point.Passed (deps : AuthDeps) (h : History) (point : Point) : Prop :=
  ∀ attempt, point.challenge = some attempt → h.Passed deps attempt

section Base
variable {deps : AuthDeps} {s s' : Store} {h h' : History} {p : Call}

theorem History.Grows.of_eq (hi : h'.issued = h.issued) (ha : h'.attempts = h.attempts)
    (hs : h'.signed = h.signed) : h.Grows h' :=
  ⟨hi ▸ List.prefix_refl _, ha ▸ List.Subset.refl _, hs ▸ List.Subset.refl _⟩

theorem History.Passed.later {attempt : Attempt} (hp : h.Passed deps attempt) (hg : h.Grows h') :
    h'.Passed deps attempt :=
  ⟨hg.attempts hp.1, hp.2.1, hg.signed hp.2.2⟩

theorem History.TookLatest.later {attempt : Attempt} (ht : h.TookLatest attempt)
    (hg : h.issued <+: h'.issued) : h'.TookLatest attempt := by
  obtain ⟨hle, hlatest⟩ := ht
  obtain ⟨more, hmore⟩ := hg
  refine ⟨hle.trans (by simp [← hmore]), ?_⟩
  rw [History.latest, ← hmore, List.take_append_of_le_length hle]
  exact hlatest

theorem Flow.Next.challenge {flow : Flow} {point : Point} (hnext : flow.Next point)
    {attempt : Attempt} (hc : point.challenge = some attempt) :
    flow.origin.challenge = some attempt := by
  cases hnext with
  | rename => cases hc
  | findWallet => exact hc

theorem History.latest_setNonce (h : History) (wallet wallet' : String) (record : NonceRecord) :
    { h with issued := h.issued ++ [(wallet, record)] }.latest (h.issued.length + 1) wallet' =
      if wallet' = wallet then some (wallet, record) else h.latest h.issued.length wallet' := by
  simp only [History.latest, List.take_length]
  rw [List.take_of_length_le (by simp), List.filter_append]
  by_cases e : wallet' = wallet
  · subst e
    simp
  · rw [if_neg e, List.filter_cons_of_neg (by simpa using Ne.symm e), List.filter_nil,
      List.append_nil]

/-- A step that touches neither challenges nor sessions. -/
theorem Store.Challenged.of_eq (hs : s.Challenged deps) (hn : s'.nonces = s.nonces)
    (hi : s'.history.issued = s.history.issued) (ha : s'.history.attempts = s.history.attempts)
    (hx : s'.history.sessions = s.history.sessions) (hg : s.history.Grows s'.history) :
    s'.Challenged deps where
  held := by
    simp only [hn, History.latest, hi]
    exact hs.held
  attempts attempt hmem := (hs.attempts attempt (ha ▸ hmem)).later hg.issued
  sessions x hmem attempt hc := (hs.sessions x (hx ▸ hmem) attempt hc).later hg

theorem Store.Challenged.setNonce (hs : s.Challenged deps) (wallet : String)
    (record : NonceRecord) : (s.setNonce wallet record).Challenged deps := by
  have hg : s.history.Grows (s.setNonce wallet record).history :=
    ⟨List.prefix_append _ _, List.Subset.refl _, List.Subset.refl _⟩
  refine ⟨?_, fun attempt hmem => (hs.attempts attempt hmem).later hg.issued,
    fun x hmem attempt hc => (hs.sessions x hmem attempt hc).later hg⟩
  have hlatest := fun wallet' => s.history.latest_setNonce wallet wallet' record
  simp only [Store.setNonce, List.length_append, List.length_singleton]
  refine hs.held.upd_frame (fun wallet' hne held hheld => ?_) ?_
  · exact (hlatest wallet').trans ((if_neg hne).trans hheld)
  · exact (hlatest wallet).trans (if_pos rfl)

/-- A challenge is taken from Redis. -/
theorem Store.Challenged.take (hs : s.Challenged deps) {wallet : String} {record : NonceRecord}
    (hrecord : s.challenge wallet = some record) (began : ℕ) :
    ((s.getdel wallet).attempt
      ⟨wallet, record, began, s.history.issued.length⟩).Challenged deps := by
  have hg : s.history.Grows
      ((s.getdel wallet).attempt ⟨wallet, record, began, s.history.issued.length⟩).history :=
    ⟨List.prefix_refl _, List.subset_append_left _ _, List.Subset.refl _⟩
  refine ⟨hs.held.del, fun attempt hmem => ?_,
    fun x hmem attempt hc => (hs.sessions x hmem attempt hc).later hg⟩
  obtain hmem | hmem := List.mem_append.mp hmem
  · exact hs.attempts attempt hmem
  · obtain rfl := List.mem_singleton.mp hmem
    obtain ⟨held, hheld, rfl, -⟩ := Store.challenge_held hrecord
    exact ⟨le_rfl, hs.held wallet held hheld⟩

/-- A step keeps the promises, when a signature that verifies was made. -/
theorem Call.Outcome.challenged {a : Answer} {next : Option Call} (ho : p.Outcome deps s a s' next)
    (hs : s.Challenged deps) (hp : p.point.Passed deps s.history)
    (hunforgeable : ∀ wallet signature nonce now record,
      p.point = .takeNonce wallet signature nonce now → s.challenge wallet = some record →
        deps.nacl.verifySignature (deps.message wallet record) signature wallet = true →
          (wallet, deps.message wallet record) ∈ s.history.signed) :
    (s'.Challenged deps ∧ s.history.Grows s'.history) ∧
      ∀ p', next = some p' → p'.point.Passed deps s'.history := by
  have frame : s'.nonces = s.nonces → s'.history.issued = s.history.issued →
      s'.history.attempts = s.history.attempts → s'.history.sessions = s.history.sessions →
        s'.history.signed = s.history.signed →
          s'.Challenged deps ∧ s.history.Grows s'.history :=
    fun hn hi ha hx hsg => ⟨hs.of_eq hn hi ha hx (.of_eq hi ha hsg), .of_eq hi ha hsg⟩
  have ends : ∀ p' : Call, none = some p' → p'.point.Passed deps s'.history := fun _ e => nomatch e
  cases ho with
  | answers | turnsAway | burns | ends => exact ⟨frame rfl rfl rfl rfl rfl, ends⟩
  | draws | verifies | connects | rotates | leaves | spent | accepted | revokes =>
      refine ⟨frame rfl rfl rfl rfl rfl, ?_⟩
      rintro _ ⟨⟩ attempt ⟨⟩
  | issues =>
      refine ⟨⟨(hs.setNonce _ _).of_eq rfl rfl rfl rfl (.of_eq rfl rfl rfl),
        List.prefix_append _ _, List.Subset.refl _, List.Subset.refl _⟩, ends⟩
  | misses =>
      have hdel : ∀ wallet, Store.Challenged deps (s.getdel wallet) :=
        fun _ => ⟨hs.held.del, hs.attempts, hs.sessions⟩
      exact ⟨⟨(hdel _).of_eq rfl rfl rfl rfl (.of_eq rfl rfl rfl), .of_eq rfl rfl rfl⟩, ends⟩
  | @refuses _ wallet _ _ now _ _ hpt hrecord =>
      exact ⟨⟨(hs.take hrecord now).of_eq rfl rfl rfl rfl (.of_eq rfl rfl rfl),
        List.prefix_refl _, List.subset_append_left _ _, List.Subset.refl _⟩, ends⟩
  | @proves _ wallet _ _ now _ hpt hrecord _ hnow hsig =>
      refine ⟨⟨(hs.take hrecord now).of_eq rfl rfl rfl rfl (.of_eq rfl rfl rfl),
        List.prefix_refl _, List.subset_append_left _ _, List.Subset.refl _⟩, ?_⟩
      rintro _ ⟨⟩ attempt ⟨⟩
      exact ⟨List.mem_append_right _ (List.mem_singleton_self _), hnow,
        hunforgeable _ _ _ _ _ hpt hrecord hsig⟩
  | findsOwner hpt =>
      refine ⟨frame rfl rfl rfl rfl rfl, ?_⟩
      rintro _ ⟨⟩ attempt hc
      exact hp attempt (by rw [hpt]; exact hc)
  | findsNobody hpt =>
      refine ⟨frame rfl rfl rfl rfl rfl, ?_⟩
      rintro _ ⟨⟩ attempt hc
      exact hp attempt (by rw [hpt]; exact hc)
  | stamps hpt hsigns =>
      cases hsigns with
      | refused => exact ⟨frame rfl rfl rfl rfl rfl, ends⟩
      | goes hnext =>
          refine ⟨frame rfl rfl rfl rfl rfl, ?_⟩
          rintro _ ⟨⟩ attempt hc
          exact hp attempt (by rw [hpt]; exact hnext.challenge hc)
  | creates hpt _ hsigns =>
      cases hsigns with
      | refused => exact ⟨frame rfl rfl rfl rfl rfl, ends⟩
      | goes hnext =>
          refine ⟨frame rfl rfl rfl rfl rfl, ?_⟩
          rintro _ ⟨⟩ attempt hc
          exact hp attempt (by rw [hpt]; exact hnext.challenge hc)
  | renames =>
      refine ⟨frame rfl rfl rfl rfl rfl, ?_⟩
      rintro _ ⟨⟩ attempt ⟨⟩
  | drafts hpt =>
      refine ⟨frame rfl rfl rfl rfl rfl, ?_⟩
      rintro _ ⟨⟩ attempt hc
      exact hp attempt (by rw [hpt]; exact hc)
  | inserts _ hpt =>
      refine ⟨⟨⟨hs.held, hs.attempts, fun x hmem attempt hc => ?_⟩, .of_eq rfl rfl rfl⟩, ends⟩
      obtain hmem | hmem := List.mem_append.mp hmem
      · exact hs.sessions x hmem attempt hc
      · obtain rfl := List.mem_singleton.mp hmem
        exact hp attempt (by rw [hpt]; exact hc)

/-- Every step keeps the promises, in a run that meets what is assumed. -/
theorem calls_challenged (deps : AuthDeps) :
    (calls deps).Keeps (Assumed deps) (Store.Challenged deps)
      (fun s _ p => p.point.Passed deps s.history) fun _ _ => True := by
  refine .of_leads
    (R := fun (s s' : Store) => s'.Challenged deps ∧ s.history.Grows s'.history)
    (K := fun s (p : Call) => p.point.Passed deps s.history) (fun _ _ h => h.1)
    (fun _ _ _ h hp attempt hc => (hp attempt hc).later h.2) ?_ ?_ ?_
  · intro s p hstarts attempt hc
    rw [(calls_starts hstarts).1] at hc
    cases hc
  · intro s r p c hs hp hknows ⟨_, hunforgeable⟩
    refine (Call.resume_outcome deps r s.store p c).challenged hs hknows ?_
    rintro wallet signature nonce now record hpt hrecord hsig
    obtain ⟨request, point, again⟩ := p
    obtain rfl := hpt
    simp only [Unforgeable, hp, hrecord] at hunforgeable
    exact hunforgeable hsig
  · intro s e store hs _ he
    cases e with
    | tick clock =>
        simp only [calls, outside, Option.ite_none_right_eq_some] at he
        obtain rfl := Option.some.inj he.2
        exact ⟨hs.of_eq rfl rfl rfl rfl (.of_eq rfl rfl rfl), .of_eq rfl rfl rfl⟩
    | sign wallet message =>
        obtain rfl := Option.some.inj he
        have hg : s.store.history.Grows { s.store.history with
            signed := (wallet, message) :: s.store.history.signed } :=
          ⟨List.prefix_refl _, List.Subset.refl _, List.subset_cons_self _ _⟩
        exact ⟨hs.of_eq rfl rfl rfl rfl hg, hg⟩
    | user userId row =>
        obtain rfl := Option.some.inj he
        exact ⟨hs.of_eq rfl rfl rfl rfl (.of_eq rfl rfl rfl), .of_eq rfl rfl rfl⟩

end Base

/-! ### The places of a nonce -/

/-- With the call that drew it, in Redis, or taken. -/
noncomputable def nonces : Permits Store Call String where
  count s nonce :=
    s.nonces.total (fun _ held => if held.record.nonce = nonce then 1 else 0) +
      (s.history.attempts.filter (·.record.nonce = nonce)).length
  held p :=
    match p.point with
    | .setNonce _ record => some record.nonce
    | _ => none
  known s nonce := nonce ∈ s.history.drawn

/-- With the call that took it, or in the session it led to. -/
def openings : Permits Store Call String where
  count s nonce :=
    (s.history.sessions.filter fun x =>
      (x.origin.challenge.map (·.record.nonce)) = some nonce).length
  held p := p.point.challenge.map (·.record.nonce)
  known s nonce := nonce ∈ s.history.attempts.map (·.record.nonce)

section Places
variable {deps : AuthDeps} {s s' : Store} {p : Call}

/-- A step that touches no nonce. -/
theorem nonces_frame {next : Option Call} (hn : s'.nonces = s.nonces)
    (ha : s'.history.attempts = s.history.attempts) (hd : s'.history.drawn = s.history.drawn)
    (hheld : ∀ p', next = some p' → nonces.held p' = none) :
    nonces.Moves s p (s', next) := by
  refine .of_le (fun k hk => ?_) (fun k => ?_) fun p' k hp' hk => ?_
  · simp only [nonces, hd] at hk ⊢
    exact hk
  · simp only [nonces, hn, ha, le_refl]
  · exact nomatch (hheld p' hp').symm.trans hk

/-- Redis loses what it held for a wallet. -/
theorem nonces_del (wallet nonce : String) :
    (s.nonces.del wallet).total (fun _ held => if held.record.nonce = nonce then 1 else 0) ≤
      s.nonces.total fun _ held => if held.record.nonce = nonce then 1 else 0 := by
  have h := Table.total_del (fun _ (held : Held) => if held.record.nonce = nonce then 1 else 0)
    s.nonces wallet
  omega

/-- A challenge is taken: its nonce moves from Redis to the attempts. -/
theorem nonces_take {wallet : String} {record : NonceRecord}
    (hrecord : s.challenge wallet = some record) (attempt : Attempt)
    (ha : attempt.record = record) (nonce : String) :
    nonces.count ((s.getdel wallet).attempt attempt) nonce = nonces.count s nonce := by
  obtain ⟨held, hheld, rfl, -⟩ := Store.challenge_held hrecord
  have h := Table.total_remove
    (fun _ (held : Held) => if held.record.nonce = nonce then 1 else 0) hheld
  simp only [nonces, Store.getdel, Store.attempt, List.filter_append, List.length_append, ← h]
  by_cases e : held.record.nonce = nonce
  · simp [ha, e]
    omega
  · simp [ha, e]

/-- A step moves nonces from place to place, or draws one that is new. -/
theorem Call.Outcome.moves_nonces {a : Answer} {next : Option Call}
    (ho : p.Outcome deps s a s' next)
    (hfresh : ∀ random uuid uuid', a = .ok random uuid uuid' → p.point = .start →
      next.bind nonces.held = some random → random ∉ s.history.drawn) :
    nonces.Moves s p (s', next) := by
  have ends : ∀ p' : Call, none = some p' → nonces.held p' = none := fun _ e => nomatch e
  cases ho with
  | answers | turnsAway | burns | ends | inserts => exact nonces_frame rfl rfl rfl ends
  | verifies | connects | rotates | leaves | spent | accepted | revokes | findsOwner
  | findsNobody | renames | drafts =>
      refine nonces_frame rfl rfl rfl ?_
      rintro _ ⟨⟩
      rfl
  | stamps _ hsigns =>
      cases hsigns with
      | refused => exact nonces_frame rfl rfl rfl ends
      | goes hnext =>
          refine nonces_frame rfl rfl rfl ?_
          rintro _ ⟨⟩
          cases hnext <;> rfl
  | creates _ _ hsigns =>
      cases hsigns with
      | refused => exact nonces_frame rfl rfl rfl ends
      | goes hnext =>
          refine nonces_frame rfl rfl rfl ?_
          rintro _ ⟨⟩
          cases hnext <;> rfl
  | @draws wallet random uuid uuid' hpt =>
      have hnew : random ∉ s.history.drawn := hfresh random uuid uuid' rfl hpt rfl
      refine ⟨fun k hk => List.mem_cons_of_mem _ hk, fun k => ?_⟩
      by_cases e : random = k
      · subst e
        refine .inr ⟨hnew, List.mem_cons_self, ?_⟩
        rw [Permits.heldBy_some rfl]
        rfl
      · rw [Permits.heldBy_none fun h => e (Option.some.inj h)]
        exact .inl (Nat.le_add_right _ _)
  | @issues _ wallet record _ hpt =>
      refine ⟨fun k hk => hk, fun k => .inl ?_⟩
      -- Redis loses what it held, and gets the nonce of the call
      have htotal := Table.total_upd
        (fun _ (held : Held) => if held.record.nonce = k then 1 else 0) s.nonces wallet
        ⟨record, s.clock + nonceTtlSeconds * 1000⟩
      have hheld : nonces.heldBy (some p) k = if record.nonce = k then 1 else 0 := by
        simp [Permits.heldBy, nonces, hpt]
      dsimp only at htotal
      rw [hheld, Permits.heldBy_ended]
      simp only [nonces, Store.answer, Store.setNonce]
      omega
  | misses =>
      refine .of_le (fun k hk => hk) (fun k => ?_) fun p' _ e => nomatch e
      exact Nat.add_le_add_right (nonces_del _ k) _
  | refuses hpt hrecord =>
      refine .of_le (fun k hk => hk) (fun k => ?_) fun p' _ e => nomatch e
      exact (nonces_take hrecord _ rfl k).le
  | proves hpt hrecord =>
      refine .of_le (fun k hk => hk) (fun k => ?_) ?_
      · exact (nonces_take hrecord _ rfl k).le
      · rintro _ k ⟨⟩ ⟨⟩

/-- A step moves a nonce that was taken to a session, or takes one that was not taken before. -/
theorem Call.Outcome.moves_openings {a : Answer} {next : Option Call}
    (ho : p.Outcome deps s a s' next)
    (htaken : ∀ wallet record, s.challenge wallet = some record →
      record.nonce ∉ s.history.attempts.map (·.record.nonce)) :
    openings.Moves s p (s', next) := by
  have frame : s'.history.sessions = s.history.sessions →
      s'.history.attempts = s.history.attempts →
      (∀ p', next = some p' → p'.point.challenge = none ∨ p'.point.challenge = p.point.challenge) →
        openings.Moves s p (s', next) := by
    intro hx ha hnext
    refine .of_le (fun k hk => ?_) (fun k => ?_) fun p' k hp' hk => ?_
    · simp only [openings, ha] at hk ⊢
      exact hk
    · simp only [openings, hx, le_refl]
    · obtain hnone | hsame := hnext p' hp'
      · simp [openings, hnone] at hk
      · simpa only [openings, hsame] using hk
  have ends : ∀ p' : Call, none = some p' →
      p'.point.challenge = none ∨ p'.point.challenge = p.point.challenge := fun _ e => nomatch e
  cases ho with
  | answers | turnsAway | burns | ends | issues | misses => exact frame rfl rfl ends
  | draws | verifies | connects | rotates | leaves | spent | accepted | revokes | renames =>
      refine frame rfl rfl ?_
      rintro _ ⟨⟩
      exact .inl rfl
  | findsOwner hpt | findsNobody hpt | drafts hpt =>
      refine frame rfl rfl ?_
      rintro _ ⟨⟩
      exact .inr (by rw [hpt]; rfl)
  | stamps hpt hsigns =>
      cases hsigns with
      | refused => exact frame rfl rfl ends
      | goes hnext =>
          refine frame rfl rfl ?_
          rintro _ ⟨⟩
          cases hnext with
          | rename => exact .inl rfl
          | findWallet => exact .inr (by rw [hpt]; rfl)
  | creates hpt _ hsigns =>
      cases hsigns with
      | refused => exact frame rfl rfl ends
      | goes hnext =>
          refine frame rfl rfl ?_
          rintro _ ⟨⟩
          cases hnext with
          | rename => exact .inl rfl
          | findWallet => exact .inr (by rw [hpt]; rfl)
  | @refuses _ wallet _ _ now record _ hpt hrecord =>
      refine .of_le (fun k hk => ?_) (fun k => le_rfl) fun p' _ e => nomatch e
      simp only [openings, Store.answer, Store.attempt, Store.getdel, List.map_append] at hk ⊢
      exact List.mem_append_left _ hk
  | @proves _ wallet _ _ now record hpt hrecord =>
      refine ⟨fun k hk => ?_, fun k => ?_⟩
      · simp only [openings, Store.prove, Store.attempt, Store.getdel, List.map_append] at hk ⊢
        exact List.mem_append_left _ hk
      · by_cases e : record.nonce = k
        · subst e
          refine .inr ⟨htaken wallet record hrecord, ?_, ?_⟩
          · simp [openings, Store.prove, Store.attempt, Store.getdel]
          · rw [Permits.heldBy_some rfl]
            rfl
        · rw [Permits.heldBy_none fun h => e (Option.some.inj h)]
          exact .inl (Nat.le_add_right _ _)
  | @inserts _ origin issued now familyId tokenHash expiresAt _ _ hpt hnew =>
      refine ⟨fun k hk => hk, fun k => .inl ?_⟩
      have hheld : openings.heldBy (some p) k =
          if origin.challenge.map (·.record.nonce) = some k then 1 else 0 := by
        simp [Permits.heldBy, openings, hpt, Point.challenge]
      rw [hheld, Permits.heldBy_ended]
      simp only [openings, Store.answer, Store.createToken, List.filter_append,
        List.length_append]
      split
      case isTrue e => rw [List.filter_cons_of_pos (by simpa using e)]; simp
      case isFalse e => rw [List.filter_cons_of_neg (by simpa using e)]; simp

/-- What Redis holds was never taken. -/
theorem nonces_untaken (hs : nonces.Single s) {wallet : String} {held : Held}
    (hheld : s.nonces.get wallet = some held) :
    held.record.nonce ∉ s.history.attempts.map (·.record.nonce) := by
  intro hmem
  obtain ⟨attempt, hattempt, e⟩ := List.mem_map.mp hmem
  have hpart := Table.part_le_total
    (fun _ (h : Held) => if h.record.nonce = held.record.nonce then 1 else 0) s.nonces wallet
  rw [Table.part_of_get hheld, if_pos rfl] at hpart
  have hpos : 0 < (s.history.attempts.filter (·.record.nonce = held.record.nonce)).length :=
    List.length_pos_of_mem (List.mem_filter.mpr ⟨hattempt, by simpa using e⟩)
  have hone := (hs held.record.nonce).1
  simp only [nonces] at hone
  omega

/-- What a call draws for a challenge, `FreshNonces` says is new. -/
theorem FreshNonces.draws {s : System Store Call} {r : ℕ} {a : Answer}
    (hg : FreshNonces s (.resume r a)) (hp : s.procs.get r = some p) (random : String)
    (uuid uuid' : ℕ) (ha : a = .ok random uuid uuid') (hpt : p.point = .start)
    (hheld : ((p.resume deps r s.store a).2).bind nonces.held = some random) :
    random ∉ s.store.history.drawn := by
  obtain ⟨request, point, again⟩ := p
  obtain rfl := ha
  obtain rfl := hpt
  cases request with
  | issueNonce wallet =>
      simp only [FreshNonces, hp] at hg
      exact hg
  | verifyWalletSignature | connectWallet | rotateRefreshToken | logout | revokeAllSessions =>
      cases hheld

theorem calls_nonces (deps : AuthDeps) :
    (calls deps).Keeps (Assumed deps) (fun s => s.Challenged deps ∧ nonces.Single s)
      (fun s _ p => p.point.Passed deps s.history ∧ nonces.Alone s p)
      fun p q => True ∧ nonces.Apart p q := by
  refine nonces.keeps (calls_challenged deps) ?_ ?_ ?_
  · intro p hstarts
    simp only [nonces, (calls_starts hstarts).1]
  · intro s r p c _ hp hg
    exact (Call.resume_outcome deps r s.store p c).moves_nonces (hg.1.draws hp)
  · intro s e store _ _ he k
    cases e with
    | tick clock =>
        simp only [calls, outside, Option.ite_none_right_eq_some] at he
        obtain rfl := Option.some.inj he.2
        exact ⟨rfl, id⟩
    | sign wallet message =>
        obtain rfl := Option.some.inj he
        exact ⟨rfl, id⟩
    | user userId row =>
        obtain rfl := Option.some.inj he
        exact ⟨rfl, id⟩

theorem calls_openings (deps : AuthDeps) :
    (calls deps).Keeps (Assumed deps)
      (fun s => (s.Challenged deps ∧ nonces.Single s) ∧ openings.Single s)
      (fun s _ p => (p.point.Passed deps s.history ∧ nonces.Alone s p) ∧ openings.Alone s p)
      fun p q => (True ∧ nonces.Apart p q) ∧ openings.Apart p q := by
  refine openings.keeps (calls_nonces deps) ?_ ?_ ?_
  · intro p hstarts
    simp only [openings, (calls_starts hstarts).1, Point.challenge, Option.map_none]
  · intro s r p c hs _ _
    refine (Call.resume_outcome deps r s.store p c).moves_openings fun wallet record hrecord => ?_
    obtain ⟨held, hheld, rfl, -⟩ := Store.challenge_held hrecord
    exact nonces_untaken hs.1.2 hheld
  · intro s e store _ _ he k
    cases e with
    | tick clock =>
        simp only [calls, outside, Option.ite_none_right_eq_some] at he
        obtain rfl := Option.some.inj he.2
        exact ⟨rfl, id⟩
    | sign wallet message =>
        obtain rfl := Option.some.inj he
        exact ⟨rfl, id⟩
    | user userId row =>
        obtain rfl := Option.some.inj he
        exact ⟨rfl, id⟩

theorem Genesis.challenged {s : System Store Call} (h : Genesis s) :
    (s.store.Challenged deps ∧ nonces.Single s.store) ∧ openings.Single s.store := by
  obtain ⟨hnonces, -, -, -, hhistory, -⟩ := h
  refine ⟨⟨⟨?_, ?_, ?_⟩, fun k => ?_⟩, fun k => ?_⟩
  · rw [hnonces]
    exact .empty
  · rw [hhistory]
    exact nofun
  · rw [hhistory]
    exact nofun
  · simp [nonces, hnonces, hhistory, emptyHistory]
  · simp [openings, hhistory, emptyHistory]

/-- A call that asks Redis for a challenge takes it, however the call ends. -/
theorem Call.resume_takes {wallet signature nonce random : String} {now uuid uuid' r : ℕ}
    (hpt : p.point = .takeNonce wallet signature nonce now) :
    (p.resume deps r s (.ok random uuid uuid')).1.nonces = s.nonces.del wallet ∧
      ∀ record, s.challenge wallet = some record →
        ⟨wallet, record, now, s.history.issued.length⟩ ∈
          (p.resume deps r s (.ok random uuid uuid')).1.history.attempts := by
  simp only [Call.resume, hpt]
  cases hrecord : s.challenge wallet with
  | none => exact ⟨rfl, by rintro _ ⟨⟩⟩
  | some record =>
      have hmem : (⟨wallet, record, now, s.history.issued.length⟩ : Attempt) ∈
          s.history.attempts ++ [⟨wallet, record, now, s.history.issued.length⟩] :=
        List.mem_append_right _ (List.mem_singleton_self _)
      simp only [Call.check]
      split_ifs
      all_goals
        refine ⟨rfl, ?_⟩
        rintro _ ⟨⟩
        exact hmem

end Places

/-! ### Used once -/

/-- **A challenge is used at most once**, in every run that meets what is assumed: it leads to one
session at most, on a call that began in time and took the last challenge of a wallet which signed
its message; and a call that takes it spends it, however the call ends. -/
theorem challenge_used_once {deps : AuthDeps} {s : System Store Call}
    (hs : Reachable (Guarded (calls deps).Step (Assumed deps)) Genesis s) :
    (∀ nonce, (s.store.history.sessions.filter fun x =>
      (x.origin.challenge.map (·.record.nonce)) = some nonce).length ≤ 1) ∧
    (∀ x ∈ s.store.history.sessions, ∀ attempt, x.origin = .signed attempt →
      s.store.history.TookLatest attempt ∧ s.store.history.Passed deps attempt) ∧
    (∀ attempt ∈ s.store.history.attempts,
      (s.store.history.attempts.filter (·.record.nonce = attempt.record.nonce)).length = 1 ∧
        ∀ wallet held, s.store.nonces.get wallet = some held →
          held.record.nonce ≠ attempt.record.nonce) ∧
    ∀ r p wallet signature nonce now random uuid uuid', s.procs.get r = some p →
      p.point = .takeNonce wallet signature nonce now →
        (p.resume deps r s.store (.ok random uuid uuid')).1.nonces = s.store.nonces.del wallet ∧
          ∀ record, s.store.challenge wallet = some record →
            ⟨wallet, record, now, s.store.history.issued.length⟩ ∈
              (p.resume deps r s.store (.ok random uuid uuid')).1.history.attempts := by
  obtain ⟨⟨⟨hchallenged, hnonces⟩, hopenings⟩, -⟩ := (calls_openings deps).reachable
    (fun s h => ⟨h.challenged, by rw [h.2.2.2.2.2]; exact .empty, fun r _ p _ _ hp => by
      rw [h.2.2.2.2.2] at hp; cases hp⟩) hs
  refine ⟨fun nonce => (hopenings nonce).1, ?_, ?_, ?_⟩
  · intro x hx attempt horigin
    have hpassed := hchallenged.sessions x hx attempt (by rw [horigin]; rfl)
    exact ⟨hchallenged.attempts attempt hpassed.1, hpassed⟩
  · intro attempt hattempt
    refine ⟨Nat.le_antisymm ((Nat.le_add_left _ _).trans (hnonces attempt.record.nonce).1)
      (List.length_pos_of_mem (List.mem_filter.mpr ⟨hattempt, by simp⟩)), ?_⟩
    intro wallet held hheld e
    exact nonces_untaken hnonces hheld (List.mem_map.mpr ⟨attempt, hattempt, e.symm⟩)
  · intro r p wallet signature nonce now random uuid uuid' _ hpt
    exact Call.resume_takes hpt

/-- A wallet asks for a challenge, signs it, and signs in. -/
theorem challenge_used_once_signed : ∃ s : System Store Call,
    ∃ x ∈ s.store.history.sessions, ∃ attempt, x.origin = .signed attempt ∧
      s.store.history.TookLatest attempt ∧ s.store.history.Passed gateway attempt := by
  have run : ((calls gateway).actsWhen (Assumed gateway) noSessions
      (called 0 (.issueNonce address) (List.replicate 2 ("n0", 0, 0)) ++
        .other (.sign address (gateway.message address ⟨"n0", 0, 300000⟩)) ::
        called 1 (.verifyWalletSignature address signature "n0")
          (List.replicate 6 ("r0", 1, 2)))).any
      (fun s => s.store.history.sessions.any (·.origin.challenge.isSome)) = true := by
    decide +kernel
  obtain ⟨s, hs, htest⟩ := (calls gateway).reachable_of_actsWhen noSessions_genesis run
  obtain ⟨x, hx, hsigned⟩ := List.any_eq_true.mp htest
  obtain ⟨attempt, horigin⟩ : ∃ attempt, x.origin = .signed attempt := by
    cases e : x.origin with
    | signed attempt => exact ⟨attempt, rfl⟩
    | connected | rotated => rw [e] at hsigned; cases hsigned
  exact ⟨s, x, hx, attempt, horigin, (challenge_used_once hs).2.1 x hx attempt horigin⟩

/-- Redis gets a challenge five seconds after it is made, and keeps it as much longer.  A call
that begins when it expires opens a session four seconds later. -/
theorem challenge_used_once_late : ¬ ∀ (deps : AuthDeps) (s : System Store Call),
    Reachable (Guarded (calls deps).Step (Assumed deps)) Genesis s →
      ∀ x ∈ s.store.history.sessions, ∀ attempt, x.origin = .signed attempt →
        attempt.began < attempt.record.expiresAt ∨ x.openedAt < attempt.record.expiresAt := by
  intro hclaim
  have run : ((calls gateway).actsWhen (Assumed gateway) noSessions
      ([.start 0 ⟨.issueNonce address, .start, false⟩, .resume 0 (.ok "n0" 0 0),
          .other (.tick 5000), .resume 0 (.ok "" 0 0),
          .other (.sign address (gateway.message address ⟨"n0", 0, 300000⟩)),
          .other (.tick 300000),
          .start 1 ⟨.verifyWalletSignature address signature "n0", .start, false⟩,
          .resume 1 (.ok "" 0 0), .other (.tick 304000)] ++
        List.replicate 5 (.resume 1 (.ok "r0" 1 2)))).any (fun s =>
          s.store.history.sessions.any fun x => match x.origin with
            | .signed attempt =>
                decide (attempt.record.expiresAt ≤ attempt.began ∧
                  attempt.record.expiresAt ≤ x.openedAt)
            | _ => false) = true := by
    decide +kernel
  obtain ⟨s, hs, htest⟩ := (calls gateway).reachable_of_actsWhen noSessions_genesis run
  obtain ⟨x, hx, hlate⟩ := List.any_eq_true.mp htest
  cases horigin : x.origin with
  | signed attempt =>
      simp only [horigin, decide_eq_true_eq] at hlate
      have hearly := hclaim gateway s hs x hx attempt horigin
      omega
  | connected | rotated => simp only [horigin] at hlate; cases hlate

end SnakeArena.Auth
