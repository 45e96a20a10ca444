import Mathlib
import SnakeArena.Auth.Service

/-!
# Auth — access tokens

`gateway/src/plugins/auth.ts`, `matchmaker/src/app.ts` and the revocations of
`gateway/src/services/auth.service.ts`.  An access token is kept nowhere.  A logout denylists its
id until it expires, a ban leaves a cut-off for its user, and both services read the two from one
Redis for every request; what `auth.service.ts` does to the refresh tokens is `Auth.Call.resume`.

* `revoked_refused`: after a cut-off has landed, no token from before it is accepted, unless a
  revocation that had read the clock earlier wrote over it.
* `logged_out_refused`: after a logout, its token is accepted by no request that reads the denylist
  while the token lives.
* `refused_revoked`: nothing else is refused by the two reads.
-/

namespace SnakeArena.Auth.Access
open SnakeArena.Library

inductive Service where
  | gateway | matchmaker
deriving DecidableEq

/-- The claims, with what the signer adds to them, in seconds. -/
structure AccessToken extends AccessTokenClaims where
  iat : Option ℕ
  exp : ℕ

/-- The JWT library. -/
structure Jwt where
  /-- What `jwtVerify` makes of a presented text, at a time. -/
  verify : Service → String → ℕ → Option AccessToken

def Jwt.Verified (jwt : Jwt) (token : AccessToken) : Prop :=
  ∃ service text now, jwt.verify service text now = some token

/-- What verifies is a token that `issueSession` signed, under an id of its own, while it lives. -/
structure Jwt.Signs (jwt : Jwt) (accessTtlSeconds : ℕ) : Prop where
  live : ∀ service text now token, jwt.verify service text now = some token →
    now ≤ token.exp * 1000
  lasts : ∀ token, jwt.Verified token →
    ∃ iat, token.iat = some iat ∧ token.exp = iat + accessTtlSeconds
  once : ∀ token token', jwt.Verified token → jwt.Verified token' → token.jti = token'.jti →
    token.exp = token'.exp

/-! ### The check -/

/-- Whether a token was minted before a cut-off, which Redis holds as the digits of its second. -/
def isBeforeCutoff (issuedAtSeconds cutoff : Option ℕ) : Bool :=
  match cutoff, issuedAtSeconds with
  | none, _ | _, none => false
  | some cutoffSeconds, some issuedAtSeconds => decide (issuedAtSeconds < cutoffSeconds)

/-- Which tokens a service refuses for the cut-off; the matchmaker has the comparison in its own
guard. -/
def Service.cutsOff (service : Service) (issuedAt cutoffSeconds : Option ℕ) : Bool :=
  match service with
  | .gateway => isBeforeCutoff issuedAt cutoffSeconds
  | .matchmaker =>
      cutoffSeconds.any fun cutoffSeconds => issuedAt.any fun issuedAt => issuedAt < cutoffSeconds

/-- Both services compare alike. -/
theorem Service.cutsOff_eq (service : Service) (issuedAt cutoff : Option ℕ) :
    service.cutsOff issuedAt cutoff = isBeforeCutoff issuedAt cutoff := by
  cases service with
  | gateway => rfl
  | matchmaker => cases cutoff <;> cases issuedAt <;> rfl

/-- A token was minted before the cut-off, by the seconds of both. -/
theorem isBeforeCutoff_iff {issuedAt cutoff : Option ℕ} :
    isBeforeCutoff issuedAt cutoff = true ↔
      ∃ iat second, issuedAt = some iat ∧ cutoff = some second ∧ iat < second := by
  cases cutoff <;> cases issuedAt <;> simp [isBeforeCutoff]

/-! ### Redis

The history is stored nowhere. -/

/-- A cut-off of a user, as it landed. -/
structure Cutoff where
  userId : ℕ
  second : ℕ
  landedAt : ℕ
deriving DecidableEq

/-- What a read answered, and how many writes had landed by then. -/
structure Reply (α : Type) where
  value : α
  readAt : ℕ
  landed : ℕ

structure Acceptance where
  token : AccessToken
  verifiedAt : ℕ
  revoked : Reply Bool
  cutoff : Reply (Option ℕ)

structure Refusal where
  token : AccessToken
  message : String

structure History where
  accepted : List Acceptance
  refused : List Refusal
  /-- The tokens whose logout is done. -/
  loggedOut : List AccessToken
  cutoffs : List Cutoff

structure Store where
  clock : ℕ
  /-- `auth:revoked:`, with the `EX`. -/
  revokedTokens : Table ℕ ℕ
  /-- `auth:cutoff:`, the second and the `EX`. -/
  sessionCutoffs : Table ℕ (ℕ × ℕ)
  history : History

namespace Store

/-- `EXISTS`. -/
def isRevoked (s : Store) (jti : ℕ) : Reply Bool :=
  ⟨(s.revokedTokens.get jti).any (s.clock ≤ ·), s.clock, s.history.loggedOut.length⟩

/-- `GET`. -/
def cutoff (s : Store) (userId : ℕ) : Reply (Option ℕ) :=
  ⟨((s.sessionCutoffs.get userId).filter (s.clock ≤ ·.2)).map (·.1), s.clock,
    s.history.cutoffs.length⟩

def accept (s : Store) (acceptance : Acceptance) : Store :=
  { s with history := { s.history with accepted := acceptance :: s.history.accepted } }

def refuse (s : Store) (refusal : Refusal) : Store :=
  { s with history := { s.history with refused := refusal :: s.history.refused } }

/-- A logout that had nothing to denylist. -/
def leave (s : Store) (token : AccessToken) : Store :=
  { s with history := { s.history with loggedOut := s.history.loggedOut ++ [token] } }

def denylist (s : Store) (token : AccessToken) (remaining : ℕ) : Store :=
  { s.leave token with
    revokedTokens := s.revokedTokens.upd token.jti (s.clock + remaining * 1000) }

def setCutoff (s : Store) (userId second ttl : ℕ) : Store :=
  { s with
    sessionCutoffs := s.sessionCutoffs.upd userId (second, s.clock + ttl * 1000)
    history := { s.history with
      cutoffs := s.history.cutoffs ++ [⟨userId, second, s.clock⟩] } }

end Store

/-! ### Calls -/

inductive Request where
  /-- A request of a route behind `authenticate`. -/
  | authenticate (service : Service) (text : String)
  | logout (text : String)
  | revokeAllSessions (userId : ℕ)

def Request.service : Request → Service
  | .authenticate service _ => service
  | .logout _ | .revokeAllSessions _ => .gateway

/-- The await a call stops at. -/
inductive Point where
  | start
  /-- The two reads, which are answered in either order. -/
  | checking (token : AccessToken) (verifiedAt : ℕ) (revoked : Option (Reply Bool))
      (cutoff : Option (Reply (Option ℕ)))
  | denylist (token : AccessToken) (remaining : ℕ)
  | revokeTokens (userId now : ℕ)
  | setCutoff (userId now : ℕ)

structure Call where
  request : Request
  point : Point

inductive Answer where
  | exists | get | done | throw
deriving DecidableEq

namespace Call

def goto (p : Call) (s : Store) (point : Point) : Store × Option Call := (s, some { p with point })

/-- Denylists a token for the seconds that it has left. -/
def revokeAccessToken (s : Store) (p : Call) (token : AccessToken) : Store × Option Call :=
  let remaining := (token.exp * 1000 - s.clock + 999) / 1000
  -- already expired, so that an entry would be dead weight
  if remaining = 0 then (s.leave token, none) else p.goto s (.denylist token remaining)

/-- Goes on once both reads are answered. -/
def check (s : Store) (p : Call) (token : AccessToken) (verifiedAt : ℕ)
    (revoked : Option (Reply Bool)) (cutoff : Option (Reply (Option ℕ))) : Store × Option Call :=
  match revoked, cutoff with
  | some revoked, some cutoff =>
      if revoked.value then (s.refuse ⟨token, "Token has been revoked"⟩, none)
      else if p.request.service.cutsOff token.iat cutoff.value then
        (s.refuse ⟨token, "Session was revoked; sign in again"⟩, none)
      else
        let s := s.accept ⟨token, verifiedAt, revoked, cutoff⟩
        match p.request with
        | .logout _ => p.revokeAccessToken s token
        | _ => (s, none)
  | _, _ => p.goto s (.checking token verifiedAt revoked cutoff)

def begin (jwt : Jwt) (s : Store) (p : Call) : Store × Option Call :=
  match p.request with
  | .authenticate service text =>
      match jwt.verify service text s.clock with
      | none => (s, none)
      | some token => p.goto s (.checking token s.clock none none)
  | .logout text =>
      match jwt.verify .gateway text s.clock with
      | none => (s, none)
      | some token => p.goto s (.checking token s.clock none none)
  | .revokeAllSessions userId => p.goto s (.revokeTokens userId s.clock)

/-- A call, from one await to the next. -/
def resume (jwt : Jwt) (accessTtlSeconds : ℕ) (_ : ℕ) (s : Store) (p : Call) :
    Answer → Store × Option Call
  | .throw => (s, none)
  | answer =>
      match p.point, answer with
      | .start, _ => p.begin jwt s
      | .checking token verifiedAt none cutoff, .exists =>
          p.check s token verifiedAt (some (s.isRevoked token.jti)) cutoff
      | .checking token verifiedAt revoked none, .get =>
          p.check s token verifiedAt revoked (some (s.cutoff token.sub))
      | .denylist token remaining, .done => (s.denylist token remaining, none)
      | .revokeTokens userId now, .done => p.goto s (.setCutoff userId now)
      | .setCutoff userId now, .done =>
          (s.setCutoff userId (now / 1000) (accessTtlSeconds * 2), none)
      | _, _ => (s, some p)

end Call

/-- Time passes. -/
def tick (s : Store) (clock : ℕ) : Option Store :=
  if s.clock ≤ clock then some { s with clock } else none

/-- Any number of requests to both services. -/
def services (jwt : Jwt) (accessTtlSeconds : ℕ) : Processes Store Call Answer ℕ where
  starts p :=
    match p.point with
    | .start => true
    | _ => false
  resume := Call.resume jwt accessTtlSeconds
  other := tick

/-- Before the first request. -/
def Genesis (s : System Store Call) : Prop :=
  s.store.revokedTokens = .empty ∧ s.store.sessionCutoffs = .empty ∧
    s.store.history = ⟨[], [], [], []⟩ ∧ s.procs = .empty

/-! ### What has landed -/

/-- The cut-off of a user that landed last. -/
def lastCutoff (cutoffs : List Cutoff) (userId : ℕ) : Option Cutoff :=
  (cutoffs.filter (·.userId = userId)).getLast?

/-- What a read of the denylist says of a token. -/
structure Reply.OfDenylist (s : Store) (token : AccessToken) (r : Reply Bool) : Prop where
  landed : r.landed ≤ s.history.loggedOut.length
  found : r.value = true → ∃ x ∈ s.history.loggedOut, x.jti = token.jti
  absent : r.value = false →
    ∀ x ∈ s.history.loggedOut.take r.landed, x.jti = token.jti → x.exp * 1000 ≤ r.readAt

/-- What a read of a user's cut-off says, whose keys live for `ttl` seconds. -/
structure Reply.OfCutoff (s : Store) (ttl userId : ℕ) (r : Reply (Option ℕ)) : Prop where
  landed : r.landed ≤ s.history.cutoffs.length
  found : ∀ second, r.value = some second →
    ∃ x ∈ s.history.cutoffs, x.userId = userId ∧ x.second = second
  last : ∀ x, lastCutoff (s.history.cutoffs.take r.landed) userId = some x →
    r.value = some x.second ∨ x.landedAt + ttl * 1000 < r.readAt

section Sound
variable (jwt : Jwt) (accessTtlSeconds : ℕ)

/-- A request that was let through. -/
structure Acceptance.Sound (s : Store) (a : Acceptance) : Prop where
  verified : jwt.Verified a.token
  live : a.verifiedAt ≤ a.token.exp * 1000
  revoked : a.revoked.OfDenylist s a.token
  absent : a.revoked.value = false
  cutoff : a.cutoff.OfCutoff s (accessTtlSeconds * 2) a.token.sub
  after : isBeforeCutoff a.token.iat a.cutoff.value = false

structure Store.Sound (s : Store) : Prop where
  cutoffs : ∀ x ∈ s.history.cutoffs, x.second * 1000 ≤ x.landedAt ∧ x.landedAt ≤ s.clock
  ordered : s.history.cutoffs.Pairwise (·.landedAt ≤ ·.landedAt)
  held : ∀ userId, s.sessionCutoffs.get userId =
    (lastCutoff s.history.cutoffs userId).map fun x =>
      (x.second, x.landedAt + accessTtlSeconds * 2 * 1000)
  keys : s.revokedTokens.All fun jti _ => ∃ x ∈ s.history.loggedOut, x.jti = jti
  denied : ∀ x ∈ s.history.loggedOut, jwt.Verified x ∧ (x.exp * 1000 ≤ s.clock ∨
    ∃ deadline, s.revokedTokens.get x.jti = some deadline ∧ x.exp * 1000 ≤ deadline)
  accepted : ∀ a ∈ s.history.accepted, a.Sound jwt accessTtlSeconds s
  refused : ∀ r ∈ s.history.refused, (∃ x ∈ s.history.loggedOut, x.jti = r.token.jti) ∨
    ∃ x ∈ s.history.cutoffs, x.userId = r.token.sub ∧
      ∃ iat, r.token.iat = some iat ∧ iat < x.second

/-- Time goes on, and what has landed stays. -/
structure Store.Extends (s s' : Store) : Prop where
  clock : s.clock ≤ s'.clock
  loggedOut : s.history.loggedOut <+: s'.history.loggedOut
  cutoffs : s.history.cutoffs <+: s'.history.cutoffs

/-- What a call knows where it waits. -/
def Point.Knows (s : Store) : Point → Prop
  | .start => True
  | .checking token verifiedAt revoked cutoff =>
      jwt.Verified token ∧ verifiedAt ≤ token.exp * 1000 ∧
        (∀ r, revoked = some r → r.OfDenylist s token) ∧
        ∀ r, cutoff = some r → r.OfCutoff s (accessTtlSeconds * 2) token.sub
  | .denylist token remaining =>
      jwt.Verified token ∧ token.exp * 1000 ≤ s.clock + remaining * 1000
  | .revokeTokens _ now | .setCutoff _ now => now ≤ s.clock

end Sound

variable {jwt : Jwt} {accessTtlSeconds : ℕ} {s s' : Store} {token : AccessToken}

/-! ### What stays -/

theorem Store.Extends.refl (s : Store) : s.Extends s :=
  ⟨le_refl _, List.prefix_refl _, List.prefix_refl _⟩

theorem Store.Extends.trans {s'' : Store} (h : s.Extends s') (h' : s'.Extends s'') :
    s.Extends s'' :=
  ⟨h.clock.trans h'.clock, h.loggedOut.trans h'.loggedOut, h.cutoffs.trans h'.cutoffs⟩

/-- What had landed by a read stays what it was. -/
theorem landed_unchanged {α : Type} {l l' : List α} {n : ℕ} (h : l <+: l') (hn : n ≤ l.length) :
    l'.take n = l.take n := by
  obtain ⟨l₂, rfl⟩ := h
  exact List.take_append_of_le_length hn

/-- What a read of the denylist said stays true of it. -/
theorem Reply.OfDenylist.mono {r : Reply Bool} (h : r.OfDenylist s token) (hs : s.Extends s') :
    r.OfDenylist s' token where
  landed := h.landed.trans hs.loggedOut.length_le
  found hr := by
    obtain ⟨x, hx, hjti⟩ := h.found hr
    exact ⟨x, hs.loggedOut.subset hx, hjti⟩
  absent := by
    rw [landed_unchanged hs.loggedOut h.landed]
    exact h.absent

/-- What a read of a cut-off said stays true of it. -/
theorem Reply.OfCutoff.mono {ttl userId : ℕ} {r : Reply (Option ℕ)} (h : r.OfCutoff s ttl userId)
    (hs : s.Extends s') : r.OfCutoff s' ttl userId where
  landed := h.landed.trans hs.cutoffs.length_le
  found second hr := by
    obtain ⟨x, hx, huser⟩ := h.found second hr
    exact ⟨x, hs.cutoffs.subset hx, huser⟩
  last := by
    rw [landed_unchanged hs.cutoffs h.landed]
    exact h.last

/-- An acceptance stays justified by what its reads saw. -/
theorem Acceptance.Sound.mono {a : Acceptance} (h : a.Sound jwt accessTtlSeconds s)
    (hs : s.Extends s') : a.Sound jwt accessTtlSeconds s' :=
  { h with
    revoked := h.revoked.mono hs
    cutoff := h.cutoff.mono hs }

/-- What a call knows, it still knows when others have gone on. -/
theorem Point.Knows.mono {point : Point} (h : point.Knows jwt accessTtlSeconds s)
    (hs : s.Extends s') : point.Knows jwt accessTtlSeconds s' := by
  cases point with
  | start => trivial
  | checking token verifiedAt revoked cutoff =>
      obtain ⟨hverified, hlive, hrevoked, hcutoff⟩ := h
      exact ⟨hverified, hlive, fun r hr => (hrevoked r hr).mono hs,
        fun r hr => (hcutoff r hr).mono hs⟩
  | denylist token remaining => exact ⟨h.1, h.2.trans (Nat.add_le_add_right hs.clock _)⟩
  | revokeTokens userId now | setCutoff userId now => exact le_trans h hs.clock

/-! ### The two reads -/

/-- **A read of the denylist finds a logout that landed**, as long as its token lives. -/
theorem Store.isRevoked_spec (h : s.Sound jwt accessTtlSeconds) (token : AccessToken) :
    (s.isRevoked token.jti).OfDenylist s token where
  landed := le_refl _
  found hvalue := by
    obtain ⟨deadline, hget, -⟩ := (Option.any_eq_true _ _).mp hvalue
    exact h.keys token.jti deadline hget
  absent hvalue x hx hjti := by
    rcases (h.denied x (List.take_subset _ _ hx)).2 with hover | ⟨deadline, hget, hdeadline⟩
    · exact hover
    · simp only [Store.isRevoked, ← hjti, hget, Option.any_some, decide_eq_false_iff_not,
        not_le] at hvalue
      exact hdeadline.trans hvalue.le

/-- **A read of a cut-off finds the last that landed**, until its key expires. -/
theorem Store.cutoff_spec (h : s.Sound jwt accessTtlSeconds) (userId : ℕ) :
    (s.cutoff userId).OfCutoff s (accessTtlSeconds * 2) userId where
  landed := le_refl _
  found second hvalue := by
    simp only [Store.cutoff, h.held userId, Option.map_eq_some_iff,
      Option.filter_eq_some_iff] at hvalue
    obtain ⟨held, ⟨⟨x, hx, rfl⟩, -⟩, rfl⟩ := hvalue
    have hmem := List.mem_filter.mp (List.mem_of_getLast? hx)
    exact ⟨x, hmem.1, by simpa using hmem.2, rfl⟩
  last x hx := by
    rw [Store.cutoff, List.take_length] at hx
    by_cases hlive : s.clock ≤ x.landedAt + accessTtlSeconds * 2 * 1000
    · left
      simp [Store.cutoff, h.held userId, hx, hlive]
    · exact .inr (not_le.mp hlive)

/-! ### The writes -/

/-- The cut-off that lands last is its user's last. -/
theorem lastCutoff_append (cutoffs : List Cutoff) (x : Cutoff) (userId : ℕ) :
    lastCutoff (cutoffs ++ [x]) userId =
      if x.userId = userId then some x else lastCutoff cutoffs userId := by
  unfold lastCutoff
  by_cases huser : x.userId = userId <;> simp [List.filter_append, huser]

/-- What is written beside the history of requests keeps what is known of them. -/
theorem Store.Sound.accepted_mono (h : s.Sound jwt accessTtlSeconds) (hs : s.Extends s') :
    ∀ a ∈ s.history.accepted, a.Sound jwt accessTtlSeconds s' :=
  fun a ha => (h.accepted a ha).mono hs

/-- A refusal keeps its reason: what was logged out or cut off stays so. -/
theorem Store.Sound.refused_mono (h : s.Sound jwt accessTtlSeconds) (hs : s.Extends s') :
    ∀ r ∈ s.history.refused, (∃ x ∈ s'.history.loggedOut, x.jti = r.token.jti) ∨
      ∃ x ∈ s'.history.cutoffs, x.userId = r.token.sub ∧
        ∃ iat, r.token.iat = some iat ∧ iat < x.second := by
  intro r hr
  rcases h.refused r hr with ⟨x, hx, hjti⟩ | ⟨x, hx, hbefore⟩
  · exact .inl ⟨x, hs.loggedOut.subset hx, hjti⟩
  · exact .inr ⟨x, hs.cutoffs.subset hx, hbefore⟩

theorem Store.accept_extends (s : Store) (a : Acceptance) : s.Extends (s.accept a) :=
  ⟨le_refl _, List.prefix_refl _, List.prefix_refl _⟩

theorem Store.refuse_extends (s : Store) (r : Refusal) : s.Extends (s.refuse r) :=
  ⟨le_refl _, List.prefix_refl _, List.prefix_refl _⟩

/-- An acceptance that its two reads justify. -/
theorem Store.Sound.accept (h : s.Sound jwt accessTtlSeconds) {a : Acceptance}
    (ha : a.Sound jwt accessTtlSeconds s) : (s.accept a).Sound jwt accessTtlSeconds := by
  have hs := s.accept_extends a
  refine { h with accepted := ?_, refused := h.refused_mono hs }
  rintro b (_ | ⟨_, hb⟩)
  · exact ha.mono hs
  · exact h.accepted_mono hs b hb

/-- A refusal with a reason. -/
theorem Store.Sound.refuse (h : s.Sound jwt accessTtlSeconds) {r : Refusal}
    (hr : (∃ x ∈ s.history.loggedOut, x.jti = r.token.jti) ∨
      ∃ x ∈ s.history.cutoffs, x.userId = r.token.sub ∧
        ∃ iat, r.token.iat = some iat ∧ iat < x.second) :
    (s.refuse r).Sound jwt accessTtlSeconds := by
  have hs := s.refuse_extends r
  refine { h with accepted := h.accepted_mono hs, refused := ?_ }
  rintro r' (_ | ⟨_, hr'⟩)
  · exact hr
  · exact h.refused_mono hs r' hr'

theorem Store.leave_extends (s : Store) (token : AccessToken) : s.Extends (s.leave token) :=
  ⟨le_refl _, List.prefix_append _ _, List.prefix_refl _⟩

theorem Store.denylist_extends (s : Store) (token : AccessToken) (remaining : ℕ) :
    s.Extends (s.denylist token remaining) :=
  ⟨le_refl _, List.prefix_append _ _, List.prefix_refl _⟩

/-- The tokens that are logged out, with one more. -/
theorem Store.mem_leave {x : AccessToken} (hx : x ∈ (s.leave token).history.loggedOut) :
    x ∈ s.history.loggedOut ∨ x = token := by
  simpa [Store.leave] using hx

/-- A logout with a token that is over has nothing to denylist. -/
theorem Store.Sound.leave (h : s.Sound jwt accessTtlSeconds) (hverified : jwt.Verified token)
    (hover : token.exp * 1000 ≤ s.clock) : (s.leave token).Sound jwt accessTtlSeconds := by
  have hs := s.leave_extends token
  refine { h with
    keys := h.keys.mono fun jti _ hk => ?_
    denied := fun x hx => ?_
    accepted := h.accepted_mono hs
    refused := h.refused_mono hs }
  · obtain ⟨x, hx, hjti⟩ := hk
    exact ⟨x, hs.loggedOut.subset hx, hjti⟩
  · rcases Store.mem_leave hx with hx | rfl
    · exact h.denied x hx
    · exact ⟨hverified, .inl hover⟩

/-- A logout: the key lives at least as long as its token. -/
theorem Store.Sound.denylist (hjwt : jwt.Signs accessTtlSeconds) (h : s.Sound jwt accessTtlSeconds)
    {remaining : ℕ} (hverified : jwt.Verified token)
    (hremaining : token.exp * 1000 ≤ s.clock + remaining * 1000) :
    (s.denylist token remaining).Sound jwt accessTtlSeconds := by
  have hs := s.denylist_extends token remaining
  refine { h with
    keys := .upd (h.keys.mono fun jti _ hk => ?_) ?_
    denied := fun x hx => ?_
    accepted := h.accepted_mono hs
    refused := h.refused_mono hs }
  · obtain ⟨x, hx, hjti⟩ := hk
    exact ⟨x, hs.loggedOut.subset hx, hjti⟩
  · exact ⟨token, List.mem_append_right _ List.mem_cons_self, rfl⟩
  · -- a token of the same id expires when this one does
    have hx : jwt.Verified x ∧ (x.exp * 1000 ≤ s.clock ∨ x.jti = token.jti ∨
        ∃ deadline, s.revokedTokens.get x.jti = some deadline ∧ x.exp * 1000 ≤ deadline) := by
      rcases Store.mem_leave hx with hx | rfl
      · exact ⟨(h.denied x hx).1, (h.denied x hx).2.imp_right .inr⟩
      · exact ⟨hverified, .inr (.inl rfl)⟩
    refine ⟨hx.1, ?_⟩
    by_cases hjti : x.jti = token.jti
    · rw [hjwt.once x token hx.1 hverified hjti]
      exact .inr ⟨_, by rw [hjti]; exact Table.get_upd_same _ _ _, hremaining⟩
    · rcases hx.2 with hover | hsame | ⟨deadline, hget, hdeadline⟩
      · exact .inl hover
      · exact absurd hsame hjti
      · exact .inr ⟨deadline, by rw [← hget]; exact Table.get_upd_other hjti, hdeadline⟩

theorem Store.setCutoff_extends (s : Store) (userId second ttl : ℕ) :
    s.Extends (s.setCutoff userId second ttl) :=
  ⟨le_refl _, List.prefix_refl _, List.prefix_append _ _⟩

/-- A cut-off: its second is not ahead of the clock. -/
theorem Store.Sound.setCutoff (h : s.Sound jwt accessTtlSeconds) {userId second : ℕ}
    (hsecond : second * 1000 ≤ s.clock) :
    (s.setCutoff userId second (accessTtlSeconds * 2)).Sound jwt accessTtlSeconds := by
  have hs := s.setCutoff_extends userId second (accessTtlSeconds * 2)
  refine { h with
    cutoffs := fun x hx => ?_
    ordered := ?_
    held := fun userId' => ?_
    accepted := h.accepted_mono hs
    refused := h.refused_mono hs }
  · rcases List.mem_append.mp hx with hx | hx
    · exact h.cutoffs x hx
    · obtain rfl := List.mem_singleton.mp hx
      exact ⟨hsecond, le_refl _⟩
  · refine List.pairwise_append.mpr ⟨h.ordered, List.pairwise_singleton _ _, fun x hx y hy => ?_⟩
    obtain rfl := List.mem_singleton.mp hy
    exact (h.cutoffs x hx).2
  · simp only [Store.setCutoff, lastCutoff_append]
    by_cases huser : userId = userId'
    · subst huser
      simp
    · rw [Table.get_upd_other (Ne.symm huser), if_neg huser]
      exact h.held userId'

/-- Keys expire as time goes on, and so do the tokens that they were for. -/
theorem Store.Sound.tick (h : s.Sound jwt accessTtlSeconds) {clock : ℕ} (hclock : s.clock ≤ clock) :
    ({ s with clock } : Store).Sound jwt accessTtlSeconds := by
  have hs : s.Extends { s with clock } := ⟨hclock, List.prefix_refl _, List.prefix_refl _⟩
  exact { h with
    cutoffs := fun x hx => ⟨(h.cutoffs x hx).1, (h.cutoffs x hx).2.trans hclock⟩
    denied := fun x hx => ⟨(h.denied x hx).1, (h.denied x hx).2.imp_left (·.trans hclock)⟩
    accepted := h.accepted_mono hs
    refused := h.refused_mono hs }

/-! ### The calls -/

/-- What a step leads to. -/
def Leads (jwt : Jwt) (accessTtlSeconds : ℕ) (s : Store) : Store × Option Call → Prop :=
  Processes.Leads (fun s s' => s.Extends s' ∧ s'.Sound jwt accessTtlSeconds)
    (fun s p => p.point.Knows jwt accessTtlSeconds s) s

/-- A logout, once its token is verified. -/
theorem Call.revokeAccessToken_leads (hs : s.Extends s') (h : s'.Sound jwt accessTtlSeconds)
    (p : Call) (hverified : jwt.Verified token) :
    Leads jwt accessTtlSeconds s (p.revokeAccessToken s' token) := by
  unfold Call.revokeAccessToken
  extract_lets remaining
  split_ifs with hremaining
  · exact .ends ⟨hs.trans (s'.leave_extends token), h.leave hverified (by omega)⟩
  · exact .goes ⟨hs, h⟩ ⟨hverified, by omega⟩

/-- A request is judged when both of its reads are answered. -/
theorem Call.check_leads (h : s.Sound jwt accessTtlSeconds) (p : Call) {verifiedAt : ℕ}
    {revoked : Option (Reply Bool)} {cutoff : Option (Reply (Option ℕ))}
    (hknows : (Point.checking token verifiedAt revoked cutoff).Knows jwt accessTtlSeconds s) :
    Leads jwt accessTtlSeconds s (p.check s token verifiedAt revoked cutoff) := by
  unfold Call.check
  split
  next revoked cutoff =>
      obtain ⟨hverified, hlive, hrevoked, hcutoff⟩ := hknows
      have hrevoked := hrevoked revoked rfl
      have hcutoff := hcutoff cutoff rfl
      rw [Service.cutsOff_eq]
      split_ifs with hfound hbefore
      · exact .ends ⟨s.refuse_extends _, h.refuse (.inl (hrevoked.found hfound))⟩
      · obtain ⟨iat, second, hiat, hsecond, hlt⟩ := isBeforeCutoff_iff.mp hbefore
        obtain ⟨x, hx, huser, rfl⟩ := hcutoff.found second hsecond
        exact .ends ⟨s.refuse_extends _, h.refuse (.inr ⟨x, hx, huser, iat, hiat, hlt⟩)⟩
      · have haccept := h.accept (a := ⟨token, verifiedAt, revoked, cutoff⟩)
          ⟨hverified, hlive, hrevoked, by simpa using hfound, hcutoff, by simpa using hbefore⟩
        have hs := s.accept_extends ⟨token, verifiedAt, revoked, cutoff⟩
        dsimp only
        split
        · exact Call.revokeAccessToken_leads hs haccept p hverified
        · exact .ends ⟨hs, haccept⟩
  · exact .goes ⟨.refl s, h⟩ hknows

/-- A call begins by verifying its token. -/
theorem Call.begin_leads (hjwt : jwt.Signs accessTtlSeconds) (h : s.Sound jwt accessTtlSeconds)
    (p : Call) : Leads jwt accessTtlSeconds s (p.begin jwt s) := by
  have checks : ∀ {service text token}, jwt.verify service text s.clock = some token →
      Leads jwt accessTtlSeconds s (p.goto s (.checking token s.clock none none)) :=
    fun hverify => .goes ⟨.refl s, h⟩
      ⟨⟨_, _, _, hverify⟩, hjwt.live _ _ _ _ hverify, by simp, by simp⟩
  unfold Call.begin
  split
  · split
    · exact .ends ⟨.refl s, h⟩
    next hverify => exact checks hverify
  · split
    · exact .ends ⟨.refl s, h⟩
    next hverify => exact checks hverify
  · exact .goes ⟨.refl s, h⟩ (le_refl _)

/-- Every step of every call keeps the stores sound. -/
theorem Call.resume_leads (hjwt : jwt.Signs accessTtlSeconds) (h : s.Sound jwt accessTtlSeconds)
    {p : Call} (hknows : p.point.Knows jwt accessTtlSeconds s) (r : ℕ) (a : Answer) :
    Leads jwt accessTtlSeconds s (p.resume jwt accessTtlSeconds r s a) := by
  unfold Call.resume
  split
  · exact .ends ⟨.refl s, h⟩
  · split
    · exact Call.begin_leads hjwt h p
    next token verifiedAt cutoff hpt _ =>
        rw [hpt] at hknows
        obtain ⟨hverified, hlive, -, hcutoff⟩ := hknows
        refine Call.check_leads h p ⟨hverified, hlive, fun r hr => ?_, hcutoff⟩
        obtain rfl := Option.some.inj hr
        exact Store.isRevoked_spec h token
    next token verifiedAt revoked hpt _ =>
        rw [hpt] at hknows
        obtain ⟨hverified, hlive, hrevoked, -⟩ := hknows
        refine Call.check_leads h p ⟨hverified, hlive, hrevoked, fun r hr => ?_⟩
        obtain rfl := Option.some.inj hr
        exact Store.cutoff_spec h token.sub
    next token remaining hpt _ =>
        rw [hpt] at hknows
        exact .ends ⟨s.denylist_extends token remaining, .denylist hjwt h hknows.1 hknows.2⟩
    next userId now hpt _ =>
        rw [hpt] at hknows
        exact .goes ⟨.refl s, h⟩ hknows
    next userId now hpt _ =>
        rw [hpt] at hknows
        exact .ends ⟨s.setCutoff_extends _ _ _,
          h.setCutoff ((Nat.div_mul_le_self now 1000).trans hknows)⟩
    · exact .goes ⟨.refl s, h⟩ hknows

/-- **In every run of both services** the keys say what landed, and what was let through or refused
had its reason. -/
theorem services_sound (hjwt : jwt.Signs accessTtlSeconds) {s : System Store Call}
    (hs : Reachable (services jwt accessTtlSeconds).Step Genesis s) :
    s.store.Sound jwt accessTtlSeconds := by
  have hkeeps : (services jwt accessTtlSeconds).Keeps (fun _ _ => True)
      (Store.Sound jwt accessTtlSeconds)
      (fun s _ p => p.point.Knows jwt accessTtlSeconds s) fun _ _ => True := by
    refine .of_leads (R := fun (s s' : Store) => s.Extends s' ∧ s'.Sound jwt accessTtlSeconds)
      (K := fun (s : Store) (p : Call) => p.point.Knows jwt accessTtlSeconds s) (fun _ _ h => h.2)
      (fun _ _ _ h hp => hp.mono h.1) ?_ ?_ ?_
    · intro s p hstarts
      simp only [services] at hstarts
      split at hstarts
      next hpt =>
          rw [hpt]
          trivial
      · cases hstarts
    · intro s r p a hI _ hp _
      exact Call.resume_leads hjwt hI hp r a
    · intro s clock store hI _ he
      simp only [services, tick, Option.ite_none_right_eq_some] at he
      obtain ⟨hclock, he⟩ := he
      obtain rfl := Option.some.inj he
      exact ⟨⟨hclock, List.prefix_refl _, List.prefix_refl _⟩, hI.tick hclock⟩
  have hguarded : Reachable (Guarded (services jwt accessTtlSeconds).Step fun _ _ => True)
      Genesis s := hs.mono fun _ _ _ h => ⟨h, trivial⟩
  refine (hkeeps.reachable ?_ hguarded).1
  rintro s ⟨hrevoked, hcutoffs, hhistory, hprocs⟩
  refine ⟨?_, by rw [hprocs]; exact .empty, fun _ _ _ _ _ _ _ => trivial⟩
  constructor <;> simp [hrevoked, hcutoffs, hhistory, lastCutoff, Table.All.empty]

/-! ### Revocation -/

section Revocation
variable {s : System Store Call}

/-- **A cut-off holds.**  A request that read the cut-off of its user within the life of a token,
after some had landed, was let through only with a token from no earlier second than each of them,
unless a later one had read the clock earlier. -/
theorem revoked_refused (hjwt : jwt.Signs accessTtlSeconds)
    (hs : Reachable (services jwt accessTtlSeconds).Step Genesis s) :
    ∀ a ∈ s.store.history.accepted, ∀ x ∈ s.store.history.cutoffs.take a.cutoff.landed,
      x.userId = a.token.sub → a.cutoff.readAt ≤ a.verifiedAt + accessTtlSeconds * 1000 →
        (∃ iat, a.token.iat = some iat ∧ x.second ≤ iat) ∨
          ∃ y ∈ s.store.history.cutoffs.take a.cutoff.landed, y.userId = x.userId ∧
            y.second < x.second ∧ x.landedAt ≤ y.landedAt := by
  intro a ha x hx huser hread
  have hsound := services_sound hjwt hs
  have haccepted := hsound.accepted a ha
  obtain ⟨iat, hiat, hexp⟩ := hjwt.lasts a.token haccepted.verified
  have hlive := haccepted.live
  set landed := s.store.history.cutoffs.take a.cutoff.landed with hlanded
  have hmem : x ∈ landed.filter (·.userId = a.token.sub) :=
    List.mem_filter.mpr ⟨hx, by simpa using huser⟩
  -- the one that the read found, or would have found
  obtain ⟨y, hy⟩ : ∃ y, lastCutoff landed a.token.sub = some y :=
    Option.isSome_iff_exists.mp (List.getLast?_isSome.mpr (List.ne_nil_of_mem hmem))
  obtain ⟨hylanded, hyuser⟩ := List.mem_filter.mp (List.mem_of_getLast? hy)
  have hysecond : y.second ≤ iat := by
    rcases haccepted.cutoff.last y hy with hvalue | hover
    · by_contra hlt
      have hbefore : isBeforeCutoff a.token.iat a.cutoff.value = true :=
        isBeforeCutoff_iff.mpr ⟨iat, y.second, hiat, hvalue, not_le.mp hlt⟩
      rw [haccepted.after] at hbefore
      cases hbefore
    · have := (hsound.cutoffs y (List.take_subset _ _ hylanded)).1
      omega
  by_cases hlt : y.second < x.second
  · refine .inr ⟨y, hylanded, ?_, hlt, ?_⟩
    · rw [huser]
      simpa using hyuser
    · have hordered := (hsound.ordered.sublist (List.take_sublist a.cutoff.landed _)).sublist
        (List.filter_sublist (p := (·.userId = a.token.sub)))
      obtain ⟨before, hbefore⟩ := List.getLast?_eq_some_iff.mp hy
      rw [← hlanded, hbefore] at hordered
      rw [hbefore, List.mem_append, List.mem_singleton] at hmem
      rcases hmem with hmem | rfl
      · exact (List.pairwise_append.mp hordered).2.2 x hmem y (List.mem_singleton_self y)
      · exact le_refl _
  · exact .inl ⟨iat, hiat, (not_lt.mp hlt).trans hysecond⟩

/-- **A logout holds.**  A request that read the denylist after the logout of its token was let
through only when the token had expired before the read. -/
theorem logged_out_refused (hjwt : jwt.Signs accessTtlSeconds)
    (hs : Reachable (services jwt accessTtlSeconds).Step Genesis s) :
    ∀ a ∈ s.store.history.accepted, ∀ x ∈ s.store.history.loggedOut.take a.revoked.landed,
      x.jti = a.token.jti → a.token.exp * 1000 ≤ a.revoked.readAt := by
  intro a ha x hx hjti
  have hsound := services_sound hjwt hs
  have haccepted := hsound.accepted a ha
  have hverified := (hsound.denied x (List.take_subset _ _ hx)).1
  rw [← hjwt.once x a.token hverified haccepted.verified hjti]
  exact haccepted.revoked.absent haccepted.absent x hx hjti

/-- **Nothing else is refused.**  A token that verifies and is refused was logged out, or was signed
before the second of a cut-off of its user. -/
theorem refused_revoked (hjwt : jwt.Signs accessTtlSeconds)
    (hs : Reachable (services jwt accessTtlSeconds).Step Genesis s) :
    ∀ r ∈ s.store.history.refused, (∃ x ∈ s.store.history.loggedOut, x.jti = r.token.jti) ∨
      ∃ x ∈ s.store.history.cutoffs, x.userId = r.token.sub ∧
        ∃ iat, r.token.iat = some iat ∧ iat < x.second :=
  (services_sound hjwt hs).refused

end Revocation

/-! ### Two tokens of one player -/

/-- Signed in the seconds 5 and 10, for 900. -/
def earlier : AccessToken := ⟨⟨1, "", .player, 1, none⟩, some 5, 905⟩

def later : AccessToken := ⟨⟨1, "", .player, 2, none⟩, some 10, 910⟩

def library : Jwt where
  verify _ text now :=
    if text = "earlier" then if now ≤ 905000 then some earlier else none
    else if text = "later" then if now ≤ 910000 then some later else none
    else none

/-- What the library verifies is one of two tokens, until it expires. -/
theorem library_verify {service : Service} {text : String} {now : ℕ} {token : AccessToken}
    (h : library.verify service text now = some token) :
    token = earlier ∧ now ≤ 905000 ∨ token = later ∧ now ≤ 910000 := by
  simp only [library] at h
  split_ifs at h with htext hlive htext hlive
  · exact .inl ⟨(Option.some.inj h).symm, hlive⟩
  · exact .inr ⟨(Option.some.inj h).symm, hlive⟩

theorem library_signs : library.Signs 900 where
  live service text now token h := by
    rcases library_verify h with ⟨rfl, hlive⟩ | ⟨rfl, hlive⟩ <;> exact hlive
  lasts token h := by
    obtain ⟨service, text, now, h⟩ := h
    rcases library_verify h with ⟨rfl, -⟩ | ⟨rfl, -⟩
    · exact ⟨5, rfl, rfl⟩
    · exact ⟨10, rfl, rfl⟩
  once token token' h h' hjti := by
    obtain ⟨service, text, now, h⟩ := h
    obtain ⟨service', text', now', h'⟩ := h'
    rcases library_verify h with ⟨rfl, -⟩ | ⟨rfl, -⟩ <;>
      rcases library_verify h' with ⟨rfl, -⟩ | ⟨rfl, -⟩
    · rfl
    · simp [earlier, later] at hjti
    · simp [earlier, later] at hjti
    · rfl

def nobody : System Store Call := ⟨⟨0, .empty, .empty, ⟨[], [], [], []⟩⟩, .empty⟩

theorem nobody_genesis : Genesis nobody := ⟨rfl, rfl, rfl, rfl⟩

/-- A call with the answers that it gets. -/
def called (r : ℕ) (request : Request) (answers : List Answer) : List (Act Call Answer ℕ) :=
  .start r ⟨request, .start⟩ :: answers.map (.resume r)

/-- A ban in second 8, a request with each token, a logout, and a request with the token of it. -/
def banned : List (Act Call Answer ℕ) :=
  .other 8000 :: called 0 (.revokeAllSessions 1) [.done, .done, .done] ++
    .other 11000 :: called 1 (.authenticate .matchmaker "later") [.done, .get, .exists] ++
      called 2 (.authenticate .gateway "earlier") [.done, .exists, .get] ++
        called 3 (.logout "later") [.done, .exists, .get, .done] ++
          called 4 (.authenticate .gateway "later") [.done, .exists, .get]

theorem revoked_refused_ban : ∃ (s : System Store Call) (a : Acceptance) (x : Cutoff),
    a ∈ s.store.history.accepted ∧ x ∈ s.store.history.cutoffs.take a.cutoff.landed ∧
      ((∃ iat, a.token.iat = some iat ∧ x.second ≤ iat) ∨
        ∃ y ∈ s.store.history.cutoffs.take a.cutoff.landed, y.userId = x.userId ∧
          y.second < x.second ∧ x.landedAt ≤ y.landedAt) := by
  have run : ((services library 900).acts nobody banned).any (fun s =>
      s.store.history.accepted.any fun a =>
        (s.store.history.cutoffs.take a.cutoff.landed).any fun x =>
          decide (x.userId = a.token.sub ∧
            a.cutoff.readAt ≤ a.verifiedAt + 900 * 1000)) = true := by
    decide
  obtain ⟨s, hs, htest⟩ := (services library 900).reachable_of_acts nobody_genesis run
  obtain ⟨a, ha, htest⟩ := List.any_eq_true.mp htest
  obtain ⟨x, hx, htest⟩ := List.any_eq_true.mp htest
  obtain ⟨huser, hread⟩ := of_decide_eq_true htest
  exact ⟨s, a, x, ha, hx, revoked_refused library_signs hs a ha x hx huser hread⟩

/-- Two bans, of which the one that read the clock first lands last. -/
theorem cutoff_overwritten : ∃ s, Reachable (services library 900).Step Genesis s ∧
    ∃ a ∈ s.store.history.accepted, ∃ x ∈ s.store.history.cutoffs.take a.cutoff.landed,
      x.userId = a.token.sub ∧ ∃ iat, a.token.iat = some iat ∧ iat < x.second := by
  have run : ((services library 900).acts nobody
      (.other 8000 :: called 0 (.revokeAllSessions 1) [.done, .done] ++
        .other 20000 :: called 1 (.revokeAllSessions 1) [.done, .done, .done] ++
          .resume 0 .done ::
            called 2 (.authenticate .gateway "later") [.done, .exists, .get])).any (fun s =>
      s.store.history.accepted.any fun a =>
        (s.store.history.cutoffs.take a.cutoff.landed).any fun x =>
          decide (x.userId = a.token.sub) && a.token.iat.any fun iat =>
            decide (iat < x.second)) = true := by
    decide
  obtain ⟨s, hs, htest⟩ := (services library 900).reachable_of_acts nobody_genesis run
  obtain ⟨a, ha, htest⟩ := List.any_eq_true.mp htest
  obtain ⟨x, hx, htest⟩ := List.any_eq_true.mp htest
  rw [Bool.and_eq_true, decide_eq_true_eq] at htest
  obtain ⟨iat, hiat, hlt⟩ := (Option.any_eq_true _ _).mp htest.2
  exact ⟨s, hs, a, ha, x, hx, htest.1, iat, hiat, of_decide_eq_true hlt⟩

/-- A request that read the denylist when the token was over, a moment after it verified. -/
theorem logged_out_refused_late : ∃ (s : System Store Call) (a : Acceptance),
    a ∈ s.store.history.accepted ∧ s.store.history.loggedOut.take a.revoked.landed ≠ [] ∧
      a.token.exp * 1000 ≤ a.revoked.readAt := by
  have run : ((services library 900).acts nobody
      (.other 11000 :: called 0 (.logout "later") [.done, .exists, .get, .done] ++
        .other 910000 :: called 1 (.authenticate .gateway "later") [.done] ++
          [.other 910001, .resume 1 .exists, .resume 1 .get])).any (fun s =>
      s.store.history.accepted.any fun a =>
        (s.store.history.loggedOut.take a.revoked.landed).any fun x =>
          decide (x.jti = a.token.jti)) = true := by
    decide
  obtain ⟨s, hs, htest⟩ := (services library 900).reachable_of_acts nobody_genesis run
  obtain ⟨a, ha, htest⟩ := List.any_eq_true.mp htest
  obtain ⟨x, hx, htest⟩ := List.any_eq_true.mp htest
  exact ⟨s, a, ha, List.ne_nil_of_mem hx,
    logged_out_refused library_signs hs a ha x hx (of_decide_eq_true htest)⟩

theorem refused_revoked_both : ∃ s : System Store Call, 2 ≤ s.store.history.refused.length ∧
    ∀ r ∈ s.store.history.refused, (∃ x ∈ s.store.history.loggedOut, x.jti = r.token.jti) ∨
      ∃ x ∈ s.store.history.cutoffs, x.userId = r.token.sub ∧
        ∃ iat, r.token.iat = some iat ∧ iat < x.second := by
  have run : ((services library 900).acts nobody banned).any (fun s =>
      decide (2 ≤ s.store.history.refused.length)) = true := by
    decide
  obtain ⟨s, hs, htest⟩ := (services library 900).reachable_of_acts nobody_genesis run
  exact ⟨s, of_decide_eq_true htest, refused_revoked library_signs hs⟩

end SnakeArena.Auth.Access
