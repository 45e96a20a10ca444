import SnakeArena.Auth.Families
import SnakeArena.Library.Permits

/-!
# Auth — a refresh token is spent once

The read of a token, its revocation and the insert of its successor are three statements.  Where
a token that was presented before is found revoked, and no successor is inserted into a family
that was burned, at most one token of a family is unrevoked (`Store.Solo`), and the right to
rotate it is with one call (`rotations`).
-/

namespace SnakeArena.Auth
open SnakeArena.Library

/-! ### The condition -/

/-- A token that was presented before is presented again when it is revoked or has expired. -/
def PresentsSpent (deps : AuthDeps) (s : System Store Call) : Act Call Answer Outside → Prop
  | .resume r (.ok _ _ _) =>
      match s.procs.get r with
      | some ⟨_, .findToken refreshToken now, _⟩ =>
          match s.store.refreshTokens.get (deps.hashToken refreshToken) with
          | some row => deps.hashToken refreshToken ∈ s.store.history.presented →
              row.revokedAt.isSome = true ∨ row.expiresAt < now
          | none => True
      | _ => True
  | _ => True

instance (deps : AuthDeps) (s : System Store Call) : DecidablePred (PresentsSpent deps s) :=
  fun a => by
    unfold PresentsSpent
    rcases a with _ | ⟨r, _ | _⟩ | _ | _ <;> dsimp only
    on_goal 2 => rcases s.procs.get r with _ | ⟨_, point, _⟩
    on_goal 3 => rcases point with _ | _ | _ | _ | _ | _ | _ | _ | _ | ⟨refreshToken, _⟩
    on_goal 12 =>
      dsimp only
      rcases s.store.refreshTokens.get (deps.hashToken refreshToken)
    all_goals infer_instance

/-- Redis or the database failed. -/
def Response.failed (x : Response) : Bool :=
  match x.result with
  | .error e => decide (e = internal)
  | .ok _ => false

/-- The family of a token that was answered as presented again. -/
def Store.reused (deps : AuthDeps) (s : Store) (x : Response) : Option ℕ :=
  if x.again = true ∧ x.failed = false then
    match x.request with
    | .rotateRefreshToken refreshToken =>
        (s.refreshTokens.get (deps.hashToken refreshToken)).map (·.familyId)
    | _ => none
  else none

/-- A rotation inserts its successor into no family of a token answered as presented again. -/
def SparesReused (deps : AuthDeps) (s : System Store Call) : Act Call Answer Outside → Prop
  | .resume r (.ok _ _ _) =>
      match s.procs.get r with
      | some ⟨_, .insertToken origin _ _ familyId, _⟩ =>
          origin.parent ≠ none → ∀ x ∈ s.store.history.responses,
            s.store.reused deps x ≠ some familyId
      | _ => True
  | _ => True

instance (deps : AuthDeps) (s : System Store Call) : DecidablePred (SparesReused deps s) :=
  fun a => by
    unfold SparesReused
    rcases a with _ | ⟨r, _ | _⟩ | _ | _ <;> dsimp only
    on_goal 2 => rcases s.procs.get r with _ | ⟨_, point, _⟩
    on_goal 3 => rcases point
    all_goals infer_instance

/-- The condition: families begin fresh, a token presented before is found spent, and a rotation
spares what was burned. -/
def SpendsOnce (deps : AuthDeps) (s : System Store Call) (a : Act Call Answer Outside) : Prop :=
  FreshFamilies s a ∧ PresentsSpent deps s a ∧ SparesReused deps s a

instance (deps : AuthDeps) (s : System Store Call) : DecidablePred (SpendsOnce deps s) :=
  fun a => by
    unfold SpendsOnce
    infer_instance

/-! ### What holds of a family -/

/-- Neither revoked nor expired. -/
def RefreshToken.live (row : RefreshToken) (clock : ℕ) : Prop :=
  row.revokedAt = none ∧ clock ≤ row.expiresAt

/-- No token of the family is live. -/
def Store.Dead (s : Store) (familyId : ℕ) : Prop :=
  s.refreshTokens.All fun _ row => row.familyId = familyId → ¬row.live s.clock

/-- One token of a family is unrevoked at most, and a family whose token was presented again is
dead. -/
structure Store.Solo (deps : AuthDeps) (s : Store) : Prop where
  alone : ∀ tokenHash tokenHash' row row', s.refreshTokens.get tokenHash = some row →
    s.refreshTokens.get tokenHash' = some row' → row.familyId = row'.familyId →
      row.revokedAt = none → row'.revokedAt = none → tokenHash = tokenHash'
  reused : ∀ x ∈ s.history.responses, x.again = true → x.failed = false →
    ∀ refreshToken, x.request = .rotateRefreshToken refreshToken →
      ∃ row, s.refreshTokens.get (deps.hashToken refreshToken) = some row ∧ s.Dead row.familyId

/-- The token that is rotated is revoked. -/
def Point.Spent : Point → Prop
  | .revokeToken _ _ _ _ => False
  | _ => True

/-- What a call knows where it waits. -/
structure Call.Solo (deps : AuthDeps) (s : Store) (p : Call) : Prop where
  spent : ∀ x, p.point.rotation = some x → ∀ tokenHash row,
    s.refreshTokens.get tokenHash = some row → row.familyId = x.familyId → row.revokedAt = none →
      ¬p.point.Spent ∧ tokenHash = x.tokenHash
  again : p.again = true → ∃ familyId now, p.point = .burnFamily familyId now
  burns : ∀ familyId now, p.point = .burnFamily familyId now → ∃ refreshToken row,
    p.request = .rotateRefreshToken refreshToken ∧
      s.refreshTokens.get (deps.hashToken refreshToken) = some row ∧ row.familyId = familyId
  finds : ∀ refreshToken now, p.point = .findToken refreshToken now →
    p.request = .rotateRefreshToken refreshToken ∧ now ≤ s.clock

/-- Rows stay, and a row that is not revoked was there, or is in the family added to. -/
structure Store.Revises (added : Option ℕ) (s s' : Store) : Prop where
  rows : s.Extends s'
  clock : s.clock ≤ s'.clock
  unrevoked : ∀ tokenHash row', s'.refreshTokens.get tokenHash = some row' → row'.revokedAt = none →
    s.refreshTokens.get tokenHash = some row' ∨ added = some row'.familyId

section Families
variable {deps : AuthDeps} {s s' : Store} {p : Call} {added : Option ℕ}

/-- Where no row changed. -/
theorem Store.Revises.of_eq (hr : s'.refreshTokens = s.refreshTokens) (hc : s.clock ≤ s'.clock)
    (hp : s.history.presented ⊆ s'.history.presented) : Store.Revises none s s' :=
  ⟨.of_eq hr hp, hc, fun _ _ h _ => .inl (hr ▸ h)⟩

/-- An answer changes no row. -/
theorem Store.Revises.answer (h : Store.Revises added s s') (x : Response) :
    Store.Revises added s (s'.answer x) :=
  ⟨⟨h.rows.rows, h.rows.presented⟩, h.clock, h.unrevoked⟩

/-- Revoking many adds to no family. -/
theorem Store.revokeMany_revises (s : Store) (which : RefreshToken → Bool) (now : ℕ) :
    Store.Revises none s (s.revokeMany which now) := by
  refine ⟨s.revokeMany_extends which now, le_rfl, fun tokenHash row' hrow' hnone => .inl ?_⟩
  obtain ⟨row, hrow, hlater, -⟩ := Store.revokeMany_row hrow'
  rwa [hlater.revoked hnone]

/-- Revoking one adds to no family. -/
theorem Store.revokeToken_revises {tokenHash : String} {row : RefreshToken}
    (h : s.refreshTokens.get tokenHash = some row) (now : ℕ) :
    Store.Revises none s (s.revokeToken tokenHash row now) := by
  refine ⟨Store.revokeToken_extends h now, le_rfl, fun tokenHash' row' hrow' hnone => .inl ?_⟩
  by_cases e : tokenHash' = tokenHash
  · subst e
    obtain rfl := Option.some.inj ((Table.get_upd_same _ _ _).symm.trans hrow')
    cases hnone
  · exact (Table.get_upd_other e).symm.trans hrow'

/-- An insert adds to its own family. -/
theorem Store.createToken_revises {tokenHash : String} (h : s.refreshTokens.get tokenHash = none)
    (row : RefreshToken) (origin : Origin) :
    Store.Revises (some row.familyId) s (s.createToken tokenHash row origin) := by
  refine ⟨Store.createToken_extends h row origin, le_rfl, fun tokenHash' row' hrow' _ => ?_⟩
  by_cases e : tokenHash' = tokenHash
  · subst e
    obtain rfl := Option.some.inj ((Table.get_upd_same _ _ _).symm.trans hrow')
    exact .inr rfl
  · exact .inl ((Table.get_upd_other e).symm.trans hrow')

/-- A family that nothing is added to stays dead. -/
theorem Store.Dead.later {familyId : ℕ} (hd : s.Dead familyId) (h : Store.Revises added s s')
    (hadded : added ≠ some familyId) : s'.Dead familyId := by
  intro tokenHash row' hrow' hfamily hlive
  obtain ⟨hnone, hclock⟩ := hlive
  rcases h.unrevoked tokenHash row' hrow' hnone with hrow | hin
  · exact hd tokenHash row' hrow hfamily ⟨hnone, h.clock.trans hclock⟩
  · exact hadded (hfamily ▸ hin)

/-- What another call adds to is not the family of a rotation under way. -/
theorem Call.Solo.later (hp : p.Solo deps s) (hroot : p.point.Rooted s)
    (h : Store.Revises added s s') (hadded : ∀ familyId, added = some familyId →
      (∀ tokenHash row, s.refreshTokens.get tokenHash = some row → row.familyId ≠ familyId) ∨
        ∀ x, p.point.rotation = some x → x.familyId ≠ familyId) : p.Solo deps s' := by
  refine ⟨fun x hx tokenHash row' hrow' hfamily hnone => ?_, hp.again, fun familyId now hpt => ?_,
    fun refreshToken now hpt => ⟨(hp.finds _ _ hpt).1, (hp.finds _ _ hpt).2.trans h.clock⟩⟩
  · rcases h.unrevoked tokenHash row' hrow' hnone with hrow | hin
    · exact hp.spent x hx tokenHash row' hrow hfamily hnone
    · rcases hadded _ hin with hfresh | hother
      · obtain ⟨-, row, hrow, -, hrowFamily⟩ := hroot.known x hx
        exact absurd (hrowFamily.trans hfamily.symm) (hfresh _ row hrow)
      · exact absurd hfamily.symm (hother x hx)
  · obtain ⟨refreshToken, row, hrequest, hrow, rfl⟩ := hp.burns familyId now hpt
    obtain ⟨row', hrow', hlater⟩ := h.rows.rows _ row hrow
    exact ⟨refreshToken, row', hrequest, hrow', hlater.familyId⟩

/-- A call that waits somewhere else has nothing to know. -/
theorem Call.Solo.idle (hrotation : p.point.rotation = none) (hagain : p.again = false)
    (hburns : ∀ familyId now, p.point ≠ .burnFamily familyId now)
    (hfinds : ∀ refreshToken now, p.point ≠ .findToken refreshToken now) : p.Solo deps s :=
  ⟨fun _ hx => absurd (hrotation.symm.trans hx) nofun, fun h => absurd (hagain.symm.trans h) nofun,
    fun _ _ h => absurd h (hburns _ _), fun _ _ h => absurd h (hfinds _ _)⟩

/-- A step that adds to no family, and answers nobody. -/
theorem Store.Solo.revises (hs : s.Solo deps) (h : Store.Revises none s s')
    (hr : s'.history.responses = s.history.responses) : s'.Solo deps := by
  refine ⟨fun tokenHash tokenHash' row row' hrow hrow' hfamily hnone hnone' => ?_,
    fun x hx hagain hfailed refreshToken hrequest => ?_⟩
  · rcases h.unrevoked _ _ hrow hnone with hrow | ⟨⟨⟩⟩
    rcases h.unrevoked _ _ hrow' hnone' with hrow' | ⟨⟨⟩⟩
    exact hs.alone _ _ _ _ hrow hrow' hfamily hnone hnone'
  · obtain ⟨row, hrow, hdead⟩ := hs.reused x (hr ▸ hx) hagain hfailed refreshToken hrequest
    obtain ⟨row', hrow', hlater⟩ := h.rows.rows _ row hrow
    exact ⟨row', hrow', hlater.familyId ▸ hdead.later h nofun⟩

/-- An answer is given, and not as to a token presented again, unless its family is dead. -/
theorem Store.Solo.answer (hs : s.Solo deps) {x : Response}
    (hx : x.again = true → x.failed = false →
      ∀ refreshToken, x.request = .rotateRefreshToken refreshToken →
        ∃ row, s.refreshTokens.get (deps.hashToken refreshToken) = some row ∧
          s.Dead row.familyId) : (s.answer x).Solo deps := by
  refine ⟨hs.alone, fun y hy hagain hfailed refreshToken hrequest => ?_⟩
  obtain hy | hy := List.mem_append.mp hy
  · exact hs.reused y hy hagain hfailed refreshToken hrequest
  · obtain rfl := List.mem_singleton.mp hy
    exact hx hagain hfailed refreshToken hrequest

/-- A token is inserted into a family with no other that is not revoked. -/
theorem Store.Solo.createToken (hs : s.Solo deps) {tokenHash : String} {row : RefreshToken}
    (hnew : s.refreshTokens.get tokenHash = none) (origin : Origin)
    (halone : ∀ tokenHash' row', s.refreshTokens.get tokenHash' = some row' →
      row'.familyId = row.familyId → row'.revokedAt.isSome = true)
    (hspares : ∀ x ∈ s.history.responses, s.reused deps x ≠ some row.familyId) :
    (s.createToken tokenHash row origin).Solo deps := by
  have hrevises := Store.createToken_revises hnew row origin
  have hold : ∀ tokenHash' row', (s.createToken tokenHash row origin).refreshTokens.get tokenHash' =
      some row' → tokenHash' ≠ tokenHash → s.refreshTokens.get tokenHash' = some row' :=
    fun tokenHash' row' hrow' e => (Table.get_upd_other e).symm.trans hrow'
  have hself : ∀ row', (s.createToken tokenHash row origin).refreshTokens.get
    tokenHash = some row' →
      row' = row :=
    fun row' hrow' => (Option.some.inj ((Table.get_upd_same _ _ _).symm.trans hrow')).symm
  refine ⟨fun h₁ h₂ row₁ row₂ hrow₁ hrow₂ hfamily hnone₁ hnone₂ => ?_,
    fun x hx hagain hfailed refreshToken hrequest => ?_⟩
  · by_cases e₁ : h₁ = tokenHash <;> by_cases e₂ : h₂ = tokenHash
    · exact e₁.trans e₂.symm
    · subst e₁
      obtain rfl := hself row₁ hrow₁
      have hrevoked := halone h₂ row₂ (hold h₂ row₂ hrow₂ e₂) hfamily.symm
      rw [hnone₂] at hrevoked
      cases hrevoked
    · subst e₂
      obtain rfl := hself row₂ hrow₂
      have hrevoked := halone h₁ row₁ (hold h₁ row₁ hrow₁ e₁) hfamily
      rw [hnone₁] at hrevoked
      cases hrevoked
    · exact hs.alone _ _ _ _ (hold h₁ row₁ hrow₁ e₁) (hold h₂ row₂ hrow₂ e₂) hfamily hnone₁ hnone₂
  · obtain ⟨row', hrow', hdead⟩ := hs.reused x hx hagain hfailed refreshToken hrequest
    have hother : some row.familyId ≠ some row'.familyId := by
      refine fun e => hspares x hx ?_
      simp only [Store.reused, hagain, hfailed, hrequest, hrow', and_self, if_true,
        Option.map_some, e]
    obtain ⟨row'', hrow'', hlater⟩ := hrevises.rows.rows _ row' hrow'
    exact ⟨row'', hrow'', hlater.familyId ▸ hdead.later hrevises hother⟩

/-- What a step adds to is a family that begins, or that of its own rotation. -/
theorem Call.Outcome.revises {a : Answer} {next : Option Call} (ho : p.Outcome deps s a s' next)
    (hroot : s.Rooted)
    (hfresh : ∀ origin issued now familyId, p.point = .insertToken origin issued now familyId →
      a ≠ .throw → origin.parent = none → ∀ x ∈ s.history.sessions, x.familyId ≠ familyId) :
    ∃ added, Store.Revises added s s' ∧ ∀ familyId, added = some familyId →
      (∀ tokenHash row, s.refreshTokens.get tokenHash = some row → row.familyId ≠ familyId) ∨
        p.point.rotation.map (·.familyId) = some familyId := by
  have same : s'.refreshTokens = s.refreshTokens → s.clock ≤ s'.clock →
      s.history.presented ⊆ s'.history.presented → ∃ added, Store.Revises added s s' ∧
        ∀ familyId, added = some familyId → (∀ tokenHash row,
          s.refreshTokens.get tokenHash = some row → row.familyId ≠ familyId) ∨
            p.point.rotation.map (·.familyId) = some familyId :=
    fun hr hc hp => ⟨none, .of_eq hr hc hp, nofun⟩
  cases ho with
  | answers | draws | verifies | connects | rotates | leaves | issues | misses | refuses | proves
  | findsOwner | findsNobody | renames | drafts => exact same rfl le_rfl (List.Subset.refl _)
  | spent | turnsAway | accepted => exact same rfl le_rfl (List.subset_cons_self _ _)
  | stamps _ hsigns => cases hsigns <;> exact same rfl le_rfl (List.Subset.refl _)
  | creates _ _ hsigns => cases hsigns <;> exact same rfl le_rfl (List.Subset.refl _)
  | @inserts _ origin issued now familyId tokenHash expiresAt _ hok hpt hnew =>
      have h := Store.createToken_revises hnew ⟨issued.playerId, familyId, expiresAt, none⟩ origin
      refine ⟨some familyId, h.answer _, ?_⟩
      rintro _ ⟨⟩
      cases origin with
      | signed | connected =>
          refine .inl fun tokenHash' row' hrow' hfamily => ?_
          obtain ⟨x, hx, hxfamily, -⟩ := hroot.rows tokenHash' row' hrow'
          exact hfresh _ _ _ _ hpt hok rfl x hx (hxfamily.trans hfamily)
      | rotated =>
          rw [hpt]
          exact .inr rfl
  | burns => exact ⟨none, (s.revokeMany_revises _ _).answer _, nofun⟩
  | revokes _ hcurrent => exact ⟨none, Store.revokeToken_revises hcurrent _, nofun⟩
  | @ends _ userId now _ =>
      have h := s.revokeMany_revises (·.userId = userId) now
      exact ⟨none, ⟨⟨h.rows.rows, h.rows.presented⟩, h.clock, h.unrevoked⟩, nofun⟩

/-- A call that goes on with a rotation had it, or found its token unrevoked and presented by
nobody. -/
def Call.Takes (s s' : Store) (p p' : Call) : Prop :=
  ∀ x, p'.point.rotation = some x → p.point.rotation = some x ∨
    x.tokenHash ∉ s.history.presented ∧ x.tokenHash ∈ s'.history.presented ∧
      s'.history.sessions = s.history.sessions ∧ ∃ row,
        s.refreshTokens.get x.tokenHash = some row ∧ row.revokedAt = none ∧
          row.familyId = x.familyId

/-- Who goes on with a rotation had it, or takes it with the read of a fresh token. -/
theorem Call.Outcome.takes {a : Answer} {next : Option Call} (ho : p.Outcome deps s a s' next)
    (hp : p.point.Rooted s)
    (hspent : ∀ refreshToken now row, p.point = .findToken refreshToken now → a ≠ .throw →
      s.refreshTokens.get (deps.hashToken refreshToken) = some row →
        deps.hashToken refreshToken ∈ s.history.presented →
          row.revokedAt.isSome = true ∨ row.expiresAt < now) :
    ∀ p', next = some p' → p.Takes s s' p' := by
  have ends : ∀ p' : Call, none = some p' → p.Takes s s' p' := fun _ e => nomatch e
  have idle : ∀ {q : Call}, q.point.rotation = none → ∀ p', some q = some p' → p.Takes s s' p' := by
    rintro q hnone _ ⟨⟩ x hx
    cases hnone.symm.trans hx
  cases ho with
  | answers | issues | misses | refuses | inserts | turnsAway | burns | ends => exact ends
  | draws | verifies | connects | rotates | leaves | proves | findsOwner | findsNobody | renames
  | spent => exact idle rfl
  | stamps _ hsigns =>
      cases hsigns with
      | refused => exact ends
      | goes hnext => exact idle hnext.rotation
  | creates _ _ hsigns =>
      cases hsigns with
      | refused => exact ends
      | goes hnext => exact idle hnext.rotation
  | drafts hpt hissued =>
      rw [hpt] at hp
      rintro _ ⟨⟩ x hx
      refine .inl ?_
      rw [hpt, ← Point.rotation_insertToken hissued (by rintro rfl; exact hp.begins)]
      exact hx
  | @accepted _ refreshToken now tokenHash row _ hok hpt hhash hrow hrevoked hnow =>
      rintro _ ⟨⟩ x ⟨⟩
      subst hhash
      refine .inr ⟨fun hmem => ?_, List.mem_cons_self, rfl, row, hrow, hrevoked, rfl⟩
      rcases hspent _ _ _ hpt hok hrow hmem with h | h
      · rw [hrevoked] at h
        cases h
      · omega
  | revokes hpt =>
      rintro _ ⟨⟩ x hx
      rw [hpt]
      exact .inl hx

/-- The call that presents a token again is the one that burns its family. -/
theorem Call.Solo.again_false (hp : p.Solo deps s)
    (hpt : ∀ familyId now, p.point ≠ .burnFamily familyId now) : p.again = false := by
  by_contra hagain
  obtain ⟨familyId, now, h⟩ := hp.again (Bool.eq_true_of_not_eq_false hagain)
  exact hpt familyId now h

/-- A call that presented no token again is answered. -/
theorem Store.Solo.answer_first (hs : s.Solo deps) (hagain : p.again = false)
    (result : Except AppError Reply) : (s.answer ⟨p.request, p.again, result⟩).Solo deps :=
  hs.answer fun h => absurd (hagain.symm.trans h) Bool.false_ne_true

/-- A family that is burned is dead. -/
theorem Store.Dead.burnt (familyId now : ℕ) :
    (s.revokeMany (·.familyId = familyId) now).Dead familyId := by
  rintro tokenHash row' hrow' hfamily ⟨hnone, -⟩
  obtain ⟨row, -, hlater, hrevoked⟩ := Store.revokeMany_row hrow'
  have h := hrevoked (by simpa using hlater.familyId.symm.trans hfamily)
  rw [hnone] at h
  cases h

/-- An answer on a store whose tokens are as they were. -/
theorem Store.Solo.answer_quiet {s₁ : Store} {result : Except AppError Reply} (hs : s.Solo deps)
    (hagain : p.again = false) (hr : s₁.refreshTokens = s.refreshTokens)
    (hc : s.clock ≤ s₁.clock) (hpr : s.history.presented ⊆ s₁.history.presented)
    (hre : s₁.history.responses = s.history.responses) :
    (s₁.answer ⟨p.request, p.again, result⟩).Solo deps :=
  (hs.revises (.of_eq hr hc hpr) hre).answer_first hagain _

/-- The family a token is inserted into has no other unrevoked one: it begins, or it is the
family of the rotation, whose token is revoked by then. -/
theorem Call.Solo.inserts_alone {origin : Origin} {issued : IssuedSession} {now familyId : ℕ}
    (hp : p.Solo deps s) (hroot : s.Rooted)
    (hpt : p.point = .insertToken origin issued now familyId)
    (hfresh : origin.parent = none → ∀ x ∈ s.history.sessions, x.familyId ≠ familyId)
    (tokenHash : String) (row : RefreshToken) (hrow : s.refreshTokens.get tokenHash = some row)
    (hfamily : row.familyId = familyId) : row.revokedAt.isSome = true := by
  by_contra hnone
  cases origin with
  | signed | connected =>
      obtain ⟨x, hx, hxfamily, -⟩ := hroot.rows tokenHash row hrow
      exact hfresh rfl x hx (hxfamily.trans hfamily)
  | rotated =>
      have hpoint := hp.spent ⟨_, _, familyId⟩ (by rw [hpt]; rfl) tokenHash row hrow hfamily
        (Option.not_isSome_iff_eq_none.mp hnone)
      rw [hpt] at hpoint
      exact hpoint.1 trivial

/-- A family that begins was answered to nobody as presented again. -/
theorem Store.Rooted.not_reused {familyId : ℕ} (hroot : s.Rooted)
    (hfresh : ∀ x ∈ s.history.sessions, x.familyId ≠ familyId) (x : Response) :
    s.reused deps x ≠ some familyId := by
  intro hreused
  unfold Store.reused at hreused
  split at hreused
  next =>
    split at hreused
    · obtain ⟨row, hrow, hfamily⟩ := Option.map_eq_some_iff.mp hreused
      obtain ⟨y, hy, hyfamily, -⟩ := hroot.rows _ row hrow
      exact hfresh y hy (hyfamily.trans hfamily)
    · cases hreused
  · cases hreused

/-- A token that is not revoked and was presented before has expired: its family is dead. -/
theorem Store.Solo.turnsAway {refreshToken : String} {now : ℕ} {row : RefreshToken}
    (hs : s.Solo deps) (hp : p.Solo deps s) (hpt : p.point = .findToken refreshToken now)
    (hrow : s.refreshTokens.get (deps.hashToken refreshToken) = some row)
    (hrevoked : row.revokedAt = none)
    (hspent : deps.hashToken refreshToken ∈ s.history.presented →
      row.revokedAt.isSome = true ∨ row.expiresAt < now) (result : Except AppError Reply) :
    ((s.present (deps.hashToken refreshToken)).answer ⟨p.request,
      decide (deps.hashToken refreshToken ∈ s.history.presented), result⟩).Solo deps := by
  have hpresent : (s.present (deps.hashToken refreshToken)).Solo deps :=
    hs.revises (.of_eq rfl le_rfl (List.subset_cons_self _ _)) rfl
  refine hpresent.answer fun hagain _ refreshToken' hrequest => ?_
  obtain ⟨hself, hclock⟩ := hp.finds _ _ hpt
  obtain rfl : refreshToken = refreshToken' := by
    have := hself.symm.trans hrequest
    injection this
  refine ⟨row, hrow, ?_⟩
  rintro tokenHash' row' hrow' hfamily ⟨hnone, hlive⟩
  obtain rfl := hs.alone _ _ _ _ hrow' hrow hfamily hnone hrevoked
  obtain rfl := Option.some.inj (hrow.symm.trans hrow')
  rcases hspent (of_decide_eq_true hagain) with h | h
  · rw [hrevoked] at h
    cases h
  · have hle : s.clock ≤ row.expiresAt := hlive
    omega

/-- A family that is burned is dead, which is what the answer says. -/
theorem Store.Solo.burns {familyId now : ℕ} (hs : s.Solo deps) (hp : p.Solo deps s)
    (hpt : p.point = .burnFamily familyId now) (result : Except AppError Reply) :
    ((s.revokeMany (·.familyId = familyId) now).answer ⟨p.request, p.again, result⟩).Solo deps := by
  have hburnt : (s.revokeMany (·.familyId = familyId) now).Solo deps :=
    hs.revises (s.revokeMany_revises _ now) rfl
  refine hburnt.answer fun _ _ refreshToken' hrequest => ?_
  obtain ⟨refreshToken, row, hself, hrow, rfl⟩ := hp.burns _ _ hpt
  obtain rfl : refreshToken = refreshToken' := by
    have := hself.symm.trans hrequest
    injection this
  obtain ⟨row', hrow', hlater⟩ :=
    (s.revokeMany_extends (·.familyId = row.familyId) now).rows _ row hrow
  refine ⟨row', hrow', ?_⟩
  rw [hlater.familyId]
  exact .burnt row.familyId now

/-- A step keeps one token of a family unrevoked at most, when it meets the condition. -/
theorem Call.Outcome.solo {a : Answer} {next : Option Call} (ho : p.Outcome deps s a s' next)
    (hs : s.Solo deps) (hroot : s.Rooted) (hp : p.Solo deps s)
    (hfresh : ∀ origin issued now familyId, p.point = .insertToken origin issued now familyId →
      a ≠ .throw → origin.parent = none → ∀ x ∈ s.history.sessions, x.familyId ≠ familyId)
    (hspent : ∀ refreshToken now row, p.point = .findToken refreshToken now → a ≠ .throw →
      s.refreshTokens.get (deps.hashToken refreshToken) = some row →
        deps.hashToken refreshToken ∈ s.history.presented →
          row.revokedAt.isSome = true ∨ row.expiresAt < now)
    (hspares : ∀ origin issued now familyId, p.point = .insertToken origin issued now familyId →
      a ≠ .throw → origin.parent ≠ none →
        ∀ x ∈ s.history.responses, s.reused deps x ≠ some familyId) : s'.Solo deps := by
  have first : ∀ {point : Point}, p.point = point →
      (∀ familyId now, point ≠ .burnFamily familyId now) → p.again = false :=
    fun hpt hno => hp.again_false fun _ _ => hpt ▸ hno _ _
  have same : s'.refreshTokens = s.refreshTokens → s.clock ≤ s'.clock →
      s.history.presented ⊆ s'.history.presented → s'.history.responses = s.history.responses →
        s'.Solo deps := fun hr hc hpr hre => hs.revises (.of_eq hr hc hpr) hre
  cases ho with
  | answers hresult =>
      refine hs.answer fun hagain hfailed => ?_
      rcases hresult with rfl | ⟨refreshToken, now, hpt⟩
      · cases hfailed
      · exact absurd ((first hpt nofun).symm.trans hagain) Bool.false_ne_true
  | draws | verifies | connects | rotates | leaves | proves | findsOwner | findsNobody | renames
  | drafts => exact same rfl le_rfl (List.Subset.refl _) rfl
  | spent | accepted => exact same rfl le_rfl (List.subset_cons_self _ _) rfl
  | issues hpt | misses hpt | refuses hpt =>
      exact hs.answer_quiet (first hpt nofun) rfl le_rfl (List.Subset.refl _) rfl
  | stamps hpt hsigns | creates hpt _ hsigns =>
      cases hsigns with
      | refused => exact hs.answer_quiet (first hpt nofun) rfl le_rfl (List.Subset.refl _) rfl
      | goes => exact same rfl le_rfl (List.Subset.refl _) rfl
  | @inserts _ origin issued now familyId tokenHash expiresAt _ hok hpt hnew =>
      have hbegins := hfresh _ _ _ _ hpt hok
      refine Store.Solo.answer_first (hs.createToken hnew origin
        (hp.inserts_alone hroot hpt hbegins) fun x hx => ?_) (first hpt nofun) _
      cases origin with
      | signed | connected => exact hroot.not_reused (hbegins rfl) x
      | rotated => exact hspares _ _ _ _ hpt hok nofun x hx
  | turnsAway hok hpt hhash hrow hrevoked =>
      subst hhash
      exact hs.turnsAway hp hpt hrow hrevoked (hspent _ _ _ hpt hok hrow) _
  | burns hpt => exact hs.burns hp hpt _
  | revokes _ hcurrent => exact hs.revises (Store.revokeToken_revises hcurrent _) rfl
  | @ends _ userId now _ hpt =>
      have hrevoked : (s.revokeMany (·.userId = userId) now).Solo deps :=
        hs.revises (s.revokeMany_revises _ now) rfl
      have hended : ((s.revokeMany (·.userId = userId) now).endSessions userId).Solo deps :=
        hrevoked.revises (.of_eq rfl le_rfl (List.Subset.refl _)) rfl
      exact hended.answer_first (first hpt nofun) _

/-- What the call knows where it waits next. -/
theorem Call.Outcome.solo_next {a : Answer} {next : Option Call} (ho : p.Outcome deps s a s' next)
    (hs : s.Solo deps) (hp : p.Solo deps s) (hpr : p.point.Rooted s)
    (hspent : ∀ refreshToken now row, p.point = .findToken refreshToken now → a ≠ .throw →
      s.refreshTokens.get (deps.hashToken refreshToken) = some row →
        deps.hashToken refreshToken ∈ s.history.presented →
          row.revokedAt.isSome = true ∨ row.expiresAt < now) :
    ∀ p', next = some p' → p'.Solo deps s' := by
  have first : ∀ {point : Point}, p.point = point →
    (∀ familyId now, point ≠ .burnFamily familyId now) →
      p.again = false := fun hpt hno => hp.again_false fun _ _ => hpt ▸ hno _ _
  have ends : ∀ p' : Call, none = some p' → p'.Solo deps s' := fun _ e => nomatch e
  have idle : ∀ {q : Call}, q.point.rotation = none → q.again = false →
      (∀ familyId now, q.point ≠ .burnFamily familyId now) →
        (∀ refreshToken now, q.point ≠ .findToken refreshToken now) →
          ∀ p' : Call, some q = some p' → p'.Solo deps s' := by
    rintro q hrotation hagain hburns hfinds _ ⟨⟩
    exact .idle hrotation hagain hburns hfinds
  cases ho with
  | answers | issues | misses | refuses | inserts | turnsAway | burns | ends => exact ends
  | draws hpt | verifies hpt | connects hpt | leaves hpt | proves hpt | findsOwner hpt
  | findsNobody hpt | renames hpt => exact idle rfl (first hpt nofun) nofun nofun
  | rotates hpt hrequest =>
      rintro _ ⟨⟩
      refine ⟨nofun, fun h => absurd ((first hpt nofun).symm.trans h) Bool.false_ne_true, nofun, ?_⟩
      rintro _ _ ⟨⟩
      exact ⟨hrequest, le_rfl⟩
  | stamps hpt hsigns | creates hpt _ hsigns =>
      cases hsigns with
      | refused => exact ends
      | goes hnext =>
          refine idle hnext.rotation (first hpt nofun) ?_ ?_
          · cases hnext <;> nofun
          · cases hnext <;> nofun
  | @drafts _ _ _ origin userId user now familyId _ hpt hissued =>
      rintro _ ⟨⟩
      rw [hpt] at hpr
      refine ⟨fun x hx tokenHash row hrow hfamily hnone => ?_,
        fun h => absurd ((first hpt nofun).symm.trans h) Bool.false_ne_true, nofun, nofun⟩
      rw [Point.rotation_insertToken hissued (by rintro rfl; exact hpr.begins), ← hpt] at hx
      have hpoint := hp.spent x hx tokenHash row hrow hfamily hnone
      rw [hpt] at hpoint
      exact absurd trivial hpoint.1
  | @spent _ refreshToken now tokenHash row hok hpt hhash hrow =>
      rintro _ ⟨⟩
      subst hhash
      refine ⟨nofun, fun _ => ⟨_, _, rfl⟩, ?_, nofun⟩
      rintro _ _ ⟨⟩
      exact ⟨refreshToken, row, (hp.finds _ _ hpt).1, hrow, rfl⟩
  | @accepted _ refreshToken now tokenHash row user hok hpt hhash hrow hrevoked hnow =>
      rintro _ ⟨⟩
      subst hhash
      have hnew : deps.hashToken refreshToken ∉ s.history.presented := by
        intro hmem
        rcases hspent _ _ _ hpt hok hrow hmem with h | h
        · rw [hrevoked] at h
          cases h
        · omega
      refine ⟨?_, fun h => absurd (of_decide_eq_true h) hnew, nofun, nofun⟩
      rintro x ⟨⟩ tokenHash' row' hrow' hfamily hnone
      exact ⟨id, hs.alone _ _ _ _ hrow' hrow hfamily hnone hrevoked⟩
  | @revokes _ tokenHash row user now current hpt hcurrent =>
      rintro _ ⟨⟩
      refine ⟨?_, fun h => absurd ((first hpt nofun).symm.trans h) Bool.false_ne_true, nofun, nofun⟩
      rintro x ⟨⟩ tokenHash' row' hrow' hfamily hnone
      -- the row of the token is revoked, and no other was unrevoked
      rcases (Store.revokeToken_revises hcurrent now).unrevoked _ _ hrow' hnone with hold | ⟨⟨⟩⟩
      obtain rfl := (hp.spent _ (by rw [hpt]; rfl) tokenHash' row' hold hfamily hnone).2
      obtain rfl := Option.some.inj ((Table.get_upd_same _ _ _).symm.trans hrow')
      cases hnone

end Families

/-! ### The run -/

/-- What the condition says of a read. -/
theorem PresentsSpent.spent {deps : AuthDeps} {s : System Store Call} {r : ℕ} {p : Call}
    {a : Answer}
    (hg : PresentsSpent deps s (.resume r a)) (hp : s.procs.get r = some p) (refreshToken : String)
    (now : ℕ) (row : RefreshToken) (hpt : p.point = .findToken refreshToken now) (hok : a ≠ .throw)
    (hrow : s.store.refreshTokens.get (deps.hashToken refreshToken) = some row)
    (hmem : deps.hashToken refreshToken ∈ s.store.history.presented) :
    row.revokedAt.isSome = true ∨ row.expiresAt < now := by
  obtain ⟨request, point, again⟩ := p
  obtain rfl := hpt
  cases a with
  | throw => cases hok rfl
  | ok =>
      simp only [PresentsSpent, hp, hrow] at hg
      exact hg hmem

/-- What the condition says of an insert. -/
theorem SparesReused.spares {deps : AuthDeps} {s : System Store Call} {r : ℕ} {p : Call}
    {a : Answer}
    (hg : SparesReused deps s (.resume r a)) (hp : s.procs.get r = some p) (origin : Origin)
    (issued : IssuedSession) (now familyId : ℕ)
    (hpt : p.point = .insertToken origin issued now familyId) (hok : a ≠ .throw)
    (hparent : origin.parent ≠ none) :
    ∀ x ∈ s.store.history.responses, s.store.reused deps x ≠ some familyId := by
  obtain ⟨request, point, again⟩ := p
  obtain rfl := hpt
  cases a with
  | throw => cases hok rfl
  | ok =>
      simp only [SparesReused, hp] at hg
      exact hg hparent

/-- Every step keeps one token of a family unrevoked at most, and no two calls rotate tokens of
one family. -/
theorem calls_solo (deps : AuthDeps) :
    (calls deps).Keeps (SpendsOnce deps) (fun s => s.Rooted ∧ s.Solo deps)
      (fun s _ p => p.point.Rooted s ∧ p.Solo deps s)
      fun p q => ∀ familyId, p.point.rotation.map (·.familyId) = some familyId →
        q.point.rotation.map (·.familyId) ≠ some familyId := by
  refine .of_owners (fun p : Call => p.point.rotation.map (·.familyId))
    (fun owned s s' => (s'.Rooted ∧ s'.Solo deps) ∧ ∃ added, Store.Revises added s s' ∧
      ∀ familyId, added = some familyId → (∀ tokenHash row,
        s.refreshTokens.get tokenHash = some row → row.familyId ≠ familyId) ∨ owned = some familyId)
    (fun s p => p.point.Rooted s ∧ p.Solo deps s) (fun _ _ _ h => h.1) ?_ ?_ ?_ ?_
  · rintro owned s s' p ⟨-, added, hrevises, hadded⟩ ⟨hroot, hsolo⟩ hother
    refine ⟨hroot.later hrevises.rows, hsolo.later hroot hrevises fun familyId hin => ?_⟩
    rcases hadded familyId hin with hfresh | howned
    · exact .inl hfresh
    · refine .inr fun x hx hfamily => hother familyId ?_ howned
      rw [hx, Option.map_some, hfamily]
  · intro s p hstarts
    obtain ⟨hpt, hagain⟩ := calls_starts hstarts
    have hrotation : p.point.rotation = none := by rw [hpt]; rfl
    refine ⟨⟨.idle hrotation (by rw [hpt]; trivial), .idle hrotation hagain ?_ ?_⟩, ?_⟩
    · rw [hpt]
      nofun
    · rw [hpt]
      nofun
    · rw [hrotation]
      rfl
  · rintro s r p c ⟨hroot, hsolo⟩ hp ⟨hpr, hps⟩ ⟨hfresh, hspent, hspares⟩
    have hoc := Call.resume_outcome deps r s.store p c
    obtain ⟨⟨hroot', -⟩, hnext⟩ := hoc.rooted hroot hpr (hfresh.begins hp)
    refine ⟨⟨⟨hroot', hoc.solo hsolo hroot hps (hfresh.begins hp) (hspent.spent hp)
      (hspares.spares hp)⟩, hoc.revises hroot (hfresh.begins hp)⟩, fun p' hp' =>
      ⟨⟨hnext p' hp', hoc.solo_next hsolo hps hpr (hspent.spent hp) p' hp'⟩, ?_⟩⟩
    intro familyId hfamily
    obtain ⟨x, hx, rfl⟩ := Option.map_eq_some_iff.mp hfamily
    rcases hoc.takes hpr (hspent.spent hp) p' hp' x hx with hsame | ⟨hnew, -, -, row, hrow,
      hnone, hrowFamily⟩
    · exact .inl (by rw [hsame]; rfl)
    · refine .inr fun q ⟨hqr, hqs⟩ hq => hnew ?_
      obtain ⟨y, hy, hyfamily⟩ := Option.map_eq_some_iff.mp hq
      obtain ⟨-, hsame⟩ := hqs.spent y hy x.tokenHash row hrow
        (hrowFamily.trans hyfamily.symm) hnone
      rw [hsame]
      exact (hqr.known y hy).1
  · rintro s e store ⟨hroot, hsolo⟩ - he
    have quiet : store.refreshTokens = s.store.refreshTokens → s.store.clock ≤ store.clock →
        store.history.sessions = s.store.history.sessions →
          store.history.ended = s.store.history.ended →
            store.history.presented = s.store.history.presented →
              store.history.responses = s.store.history.responses →
                (store.Rooted ∧ store.Solo deps) ∧ ∃ added, Store.Revises added s.store store ∧
                  ∀ familyId, added = some familyId → (∀ tokenHash row,
                    s.store.refreshTokens.get tokenHash = some row → row.familyId ≠ familyId) ∨
                      none = some familyId := by
      intro hr hc hx hen hpr hre
      have hrevises : Store.Revises none s.store store := .of_eq hr hc (hpr ▸ List.Subset.refl _)
      exact ⟨⟨hroot.of_eq hr hx hen hpr, hsolo.revises hrevises hre⟩, none, hrevises, nofun⟩
    cases e with
    | tick clock =>
        simp only [calls, outside, Option.ite_none_right_eq_some] at he
        obtain ⟨hclock, he⟩ := he
        obtain rfl := Option.some.inj he
        exact quiet rfl hclock rfl rfl rfl rfl
    | sign wallet message =>
        obtain rfl := Option.some.inj he
        exact quiet rfl le_rfl rfl rfl rfl rfl
    | user userId row =>
        obtain rfl := Option.some.inj he
        exact quiet rfl le_rfl rfl rfl rfl rfl

/-- With the call that rotates the token, or in the session it led to. -/
def rotations : Permits Store Call String where
  count s tokenHash := (s.history.sessions.filter (·.origin.parent = some tokenHash)).length
  held p := p.point.rotation.map (·.tokenHash)
  known s tokenHash := tokenHash ∈ s.history.presented

section Run
variable {deps : AuthDeps} {s s' : Store} {p : Call}

/-- A step moves the right to rotate a token, or makes one for a token presented by nobody. -/
theorem Call.Outcome.moves_rotations {a : Answer} {next : Option Call}
    (ho : p.Outcome deps s a s' next) (htakes : ∀ p', next = some p' → p.Takes s s' p') :
    rotations.Moves s p (s', next) := by
  have frame : s.history.presented ⊆ s'.history.presented →
      s'.history.sessions = s.history.sessions → rotations.Moves s p (s', next) := by
    intro hpresented hsessions
    refine ⟨fun k hk => hpresented hk, fun k => ?_⟩
    have hcount : rotations.count s' k = rotations.count s k := by
      simp only [rotations, hsessions]
    by_cases hheld : next.bind rotations.held = some k
    · obtain ⟨p', rfl, hk⟩ := Option.bind_eq_some_iff.mp hheld
      obtain ⟨x, hx, rfl⟩ := Option.map_eq_some_iff.mp hk
      rcases htakes p' rfl x hx with hsame | ⟨hnew, hmem, -, -⟩
      · have hself : rotations.held p = some x.tokenHash := by simp [rotations, hsame]
        rw [hcount, Permits.heldBy_some hk, Permits.heldBy_some hself]
        exact .inl le_rfl
      · rw [hcount, Permits.heldBy_some hk]
        exact .inr ⟨hnew, hmem, le_rfl⟩
    · rw [hcount, Permits.heldBy, if_neg hheld]
      exact .inl (Nat.le_add_right _ _)
  cases ho with
  | answers | draws | verifies | connects | rotates | leaves | issues | misses | refuses | proves
  | findsOwner | findsNobody | renames | drafts | burns | revokes | ends =>
      exact frame (List.Subset.refl _) rfl
  | spent | turnsAway | accepted => exact frame (List.subset_cons_self _ _) rfl
  | stamps _ hsigns | creates _ _ hsigns => cases hsigns <;> exact frame (List.Subset.refl _) rfl
  | @inserts _ origin issued now familyId tokenHash expiresAt _ hok hpt hnew =>
      refine ⟨fun k hk => hk, fun k => .inl ?_⟩
      have hheld : rotations.heldBy (some p) k = if origin.parent = some k then 1 else 0 := by
        cases origin <;> simp [Permits.heldBy, rotations, hpt, Point.rotation, Origin.parent]
      rw [hheld, Permits.heldBy_ended]
      simp only [rotations, Store.answer, Store.createToken, List.filter_append, List.length_append]
      split
      case isTrue e => rw [List.filter_cons_of_pos (by simpa using e)]; simp
      case isFalse e => rw [List.filter_cons_of_neg (by simpa using e)]; simp

/-- The rule's invariant: one token of a family, and one call to rotate it. -/
theorem calls_rotations (deps : AuthDeps) :
    (calls deps).Keeps (SpendsOnce deps)
      (fun s => (s.Rooted ∧ s.Solo deps) ∧ rotations.Single s)
      (fun s _ p => (p.point.Rooted s ∧ p.Solo deps s) ∧ rotations.Alone s p)
      fun p q => (∀ familyId, p.point.rotation.map (·.familyId) = some familyId →
        q.point.rotation.map (·.familyId) ≠ some familyId) ∧ rotations.Apart p q := by
  refine rotations.keeps (calls_solo deps) ?_ ?_ ?_
  · intro p hstarts
    simp only [rotations, (calls_starts hstarts).1, Point.rotation, Option.map_none]
  · intro s r p c hs hp hg
    have hoc := Call.resume_outcome deps r s.store p c
    exact hoc.moves_rotations (hoc.takes (hs.2.1 r p hp).1 (hg.2.1.spent hp))
  · intro s e store _ _ he k
    cases e with
    | tick clock =>
        simp only [calls, outside, Option.ite_none_right_eq_some] at he
        obtain rfl := Option.some.inj he.2
        exact ⟨rfl, id⟩
    | sign wallet message =>
        obtain rfl := Option.some.inj he
        exact ⟨rfl, id⟩
    | user userId row =>
        obtain rfl := Option.some.inj he
        exact ⟨rfl, id⟩

/-- Before the first call. -/
theorem Genesis.solo {s : System Store Call} (h : Genesis s) :
    (s.store.Rooted ∧ s.store.Solo deps) ∧ rotations.Single s.store := by
  refine ⟨⟨h.rooted, ?_, ?_⟩, fun k => ?_⟩
  · rw [h.2.2.2.1]
    nofun
  · rw [h.2.2.2.2.1]
    nofun
  · simp [rotations, h.2.2.2.2.1, emptyHistory]

end Run

/-- **Refresh tokens are single-use.**  A token leads to one session at most, and once a call that
presents one again is answered, no token of its family is live. -/
theorem refresh_single_use {deps : AuthDeps} {s : System Store Call}
    (hs : Reachable (Guarded (calls deps).Step (SpendsOnce deps)) Genesis s) :
    (∀ tokenHash, (s.store.history.sessions.filter
      (·.origin.parent = some tokenHash)).length ≤ 1) ∧
    ∀ x ∈ s.store.history.responses, x.again = true → x.failed = false →
      ∀ refreshToken, x.request = .rotateRefreshToken refreshToken →
        ∃ row, s.store.refreshTokens.get (deps.hashToken refreshToken) = some row ∧
          ∀ tokenHash' row', s.store.refreshTokens.get tokenHash' = some row' →
            row'.familyId = row.familyId → ¬row'.live s.store.clock := by
  obtain ⟨⟨⟨-, hsolo⟩, hrotations⟩, -⟩ := (calls_rotations deps).reachable
    (fun s h => ⟨h.solo, by rw [h.2.2.2.2.2]; exact .empty, fun r _ p _ _ hp => by
      rw [h.2.2.2.2.2] at hp; cases hp⟩) hs
  exact ⟨fun tokenHash => (hrotations tokenHash).1, hsolo.reused⟩

/-- A token is rotated, and presented again. -/
theorem refresh_single_use_again : ∃ s : System Store Call,
    (s.store.history.sessions.filter
      (·.origin.parent = some (gateway.hashToken "r0"))).length = 1 ∧
    ∃ x ∈ s.store.history.responses, x.again = true ∧
      ∀ refreshToken, x.request = .rotateRefreshToken refreshToken →
        ∃ row, s.store.refreshTokens.get (gateway.hashToken refreshToken) = some row ∧
          ∀ tokenHash' row', s.store.refreshTokens.get tokenHash' = some row' →
            row'.familyId = row.familyId → ¬row'.live s.store.clock := by
  have run : ((calls gateway).actsWhen (SpendsOnce gateway) noSessions
      (called 0 (.connectWallet address none) (List.replicate 5 ("r0", 1, 2)) ++
        called 1 (.rotateRefreshToken "r0") (List.replicate 5 ("r1", 3, 4)) ++
        called 2 (.rotateRefreshToken "r0") (List.replicate 3 ("", 0, 0)))).any (fun s =>
          s.store.history.sessions.any (fun x => decide
            (x.origin.parent = some (gateway.hashToken "r0"))) &&
          s.store.history.responses.any fun x => x.again && !x.failed) = true := by
    decide
  obtain ⟨s, hs, htest⟩ := (calls gateway).reachable_of_actsWhen noSessions_genesis run
  obtain ⟨hsessions, hresponses⟩ := Bool.and_eq_true_iff.mp htest
  obtain ⟨y, hy, hparent⟩ := List.any_eq_true.mp hsessions
  obtain ⟨x, hx, hagain⟩ := List.any_eq_true.mp hresponses
  rw [Bool.and_eq_true, Bool.not_eq_true'] at hagain
  obtain ⟨honce, hreused⟩ := refresh_single_use hs
  refine ⟨s, Nat.le_antisymm (honce _) ?_, x, hx, hagain.1, hreused x hx hagain.1 hagain.2⟩
  exact List.length_pos_of_mem (List.mem_filter.mpr ⟨hy, hparent⟩)

/-- Two calls that present one token find it unrevoked, and both open a session on it. -/
theorem refresh_single_use_together : ¬ ∀ (deps : AuthDeps) (s : System Store Call),
    Reachable (Guarded (calls deps).Step FreshFamilies) Genesis s → ∀ tokenHash,
      (s.store.history.sessions.filter (·.origin.parent = some tokenHash)).length ≤ 1 := by
  intro hclaim
  have run : ((calls gateway).actsWhen FreshFamilies noSessions
      (called 0 (.connectWallet address none) (List.replicate 5 ("r0", 1, 2)) ++
        called 1 (.rotateRefreshToken "r0") (List.replicate 2 ("", 0, 0)) ++
        called 2 (.rotateRefreshToken "r0") (List.replicate 5 ("r1", 3, 4)) ++
        List.replicate 3 (.resume 1 (.ok "r2" 5 6)))).any (fun s =>
          decide (2 ≤ (s.store.history.sessions.filter
            (·.origin.parent = some (gateway.hashToken "r0"))).length)) = true := by
    decide
  obtain ⟨s, hs, htest⟩ := (calls gateway).reachable_of_actsWhen noSessions_genesis run
  have hone := hclaim gateway s hs (gateway.hashToken "r0")
  have htwo := of_decide_eq_true htest
  omega

end SnakeArena.Auth
