import SnakeArena.Auth.Steps

/-!
# Auth — the families of refresh tokens

Every row descends from a sign-in, and has its user and its family (`Store.Rooted`); a rotation
under way knows the row it is of (`Point.rotation`).

`revocation_final`: a logout or a ban ends the families that are there, in a run where no rotation
inserts its successor into one that has ended.
-/

namespace SnakeArena.Auth
open SnakeArena.Library

/-! ### Rotations under way -/

/-- The token that was spent on a session. -/
def Origin.parent : Origin → Option String
  | .rotated tokenHash => some tokenHash
  | _ => none

/-- The token that is rotated, and whose its successor will be. -/
structure Rotation where
  tokenHash : String
  userId : ℕ
  familyId : ℕ

def Point.rotation : Point → Option Rotation
  | .revokeToken tokenHash row _ _ => some ⟨tokenHash, row.userId, row.familyId⟩
  | .findWallet (.rotated tokenHash) userId _ _ (some familyId) =>
      some ⟨tokenHash, userId, familyId⟩
  | .insertToken (.rotated tokenHash) issued _ familyId =>
      some ⟨tokenHash, issued.playerId, familyId⟩
  | _ => none

/-- A family that begins is a new one. -/
def FreshFamilies (s : System Store Call) : Act Call Answer Outside → Prop
  | .resume r (.ok _ _ _) =>
      match s.procs.get r with
      | some ⟨_, .insertToken origin _ _ familyId, _⟩ =>
          origin.parent = none → ∀ x ∈ s.store.history.sessions, x.familyId ≠ familyId
      | _ => True
  | _ => True

instance (s : System Store Call) : DecidablePred (FreshFamilies s) := fun a => by
  unfold FreshFamilies
  rcases a with _ | ⟨r, _ | _⟩ | _ | _ <;> dsimp only
  on_goal 2 => rcases s.procs.get r with _ | ⟨_, point, _⟩
  on_goal 3 => rcases point
  all_goals infer_instance

/-- What the condition says of a family that begins. -/
theorem FreshFamilies.begins {s : System Store Call} {r : ℕ} {p : Call} {a : Answer}
    (hg : FreshFamilies s (.resume r a)) (hp : s.procs.get r = some p) (origin : Origin)
    (issued : IssuedSession) (now familyId : ℕ)
    (hpt : p.point = .insertToken origin issued now familyId) (hok : a ≠ .throw)
    (hparent : origin.parent = none) :
    ∀ x ∈ s.store.history.sessions, x.familyId ≠ familyId := by
  obtain ⟨request, point, again⟩ := p
  obtain rfl := hpt
  cases a with
  | throw => cases hok rfl
  | ok =>
      simp only [FreshFamilies, hp] at hg
      exact hg hparent

/-! ### What holds of the rows -/

structure Store.Rooted (s : Store) : Prop where
  rows : s.refreshTokens.All fun _ row =>
    ∃ x ∈ s.history.sessions, x.familyId = row.familyId ∧ x.userId = row.userId
  users : ∀ x ∈ s.history.sessions, ∀ y ∈ s.history.sessions,
    x.familyId = y.familyId → x.userId = y.userId
  ended : ∀ familyId ∈ s.history.ended, ∃ x ∈ s.history.sessions, x.familyId = familyId
  presented : ∀ tokenHash ∈ s.history.presented, (s.refreshTokens.get tokenHash).isSome = true

/-- The row of the token that is rotated is there. -/
def Rotation.Known (s : Store) (x : Rotation) : Prop :=
  x.tokenHash ∈ s.history.presented ∧ ∃ row, s.refreshTokens.get x.tokenHash = some row ∧
    row.userId = x.userId ∧ row.familyId = x.familyId

/-- A session that is opened in no family spends no token. -/
def Point.Begins : Point → Prop
  | .findWallet origin _ _ _ none => origin.parent = none
  | _ => True

/-- What a call knows where it waits. -/
structure Point.Rooted (s : Store) (point : Point) : Prop where
  known : ∀ x, point.rotation = some x → x.Known s
  begins : point.Begins

/-- What becomes of one row. -/
structure RefreshToken.Later (row row' : RefreshToken) : Prop where
  userId : row'.userId = row.userId
  familyId : row'.familyId = row.familyId
  expiresAt : row'.expiresAt = row.expiresAt
  revoked : row'.revokedAt = none → row' = row

/-- Rows stay, and what is revoked stays revoked. -/
structure Store.Extends (s s' : Store) : Prop where
  rows : ∀ tokenHash row, s.refreshTokens.get tokenHash = some row →
    ∃ row', s'.refreshTokens.get tokenHash = some row' ∧ row.Later row'
  presented : s.history.presented ⊆ s'.history.presented

section Rows
variable {deps : AuthDeps} {s s' : Store} {p : Call} {point point' : Point}

theorem RefreshToken.Later.refl (row : RefreshToken) : row.Later row :=
  ⟨rfl, rfl, rfl, fun _ => rfl⟩

theorem RefreshToken.Later.revoke (row : RefreshToken) (now : ℕ) :
    row.Later { row with revokedAt := some now } := ⟨rfl, rfl, rfl, nofun⟩

/-- A revoked token stays revoked. -/
theorem RefreshToken.Later.isSome {row row' : RefreshToken} (h : row.Later row')
    (hrevoked : row.revokedAt.isSome = true) : row'.revokedAt.isSome = true := by
  by_contra hnone
  rw [h.revoked (Option.not_isSome_iff_eq_none.mp hnone)] at hnone
  exact hnone hrevoked

/-- Where no row changed. -/
theorem Store.Extends.of_eq (hr : s'.refreshTokens = s.refreshTokens)
    (hp : s.history.presented ⊆ s'.history.presented) : s.Extends s' :=
  ⟨fun _ row h => ⟨row, hr ▸ h, .refl row⟩, hp⟩

/-- The rows after some were revoked. -/
theorem Store.revokeMany_row {which : RefreshToken → Bool} {now : ℕ} {tokenHash : String}
    {row' : RefreshToken} (h : (s.revokeMany which now).refreshTokens.get tokenHash = some row') :
    ∃ row, s.refreshTokens.get tokenHash = some row ∧ row.Later row' ∧
      (which row = true → row'.revokedAt.isSome = true) := by
  simp only [Store.revokeMany, Table.get_map] at h
  obtain ⟨row, hrow, rfl⟩ := Option.map_eq_some_iff.mp h
  refine ⟨row, hrow, ?_⟩
  by_cases hwhich : which row = true
  · cases hrevoked : row.revokedAt with
    | none =>
        simp only [hwhich, Option.isNone_none, Bool.and_self, if_true]
        exact ⟨.revoke row now, fun _ => rfl⟩
    | some at' =>
        simp only [Option.isNone_some, Bool.and_false, Bool.false_eq_true, if_false]
        exact ⟨.refl row, fun _ => by rw [hrevoked]; rfl⟩
  · simp only [hwhich, Bool.false_and, Bool.false_eq_true, if_false]
    exact ⟨.refl row, False.elim⟩

/-- Revoking rows deletes none. -/
theorem Store.revokeMany_extends (s : Store) (which : RefreshToken → Bool) (now : ℕ) :
    s.Extends (s.revokeMany which now) := by
  refine ⟨fun tokenHash row h => ?_, List.Subset.refl _⟩
  have hget : (s.revokeMany which now).refreshTokens.get tokenHash = some
      (if which row && row.revokedAt.isNone then { row with revokedAt := some now } else row) := by
    simp [Store.revokeMany, Table.get_map, h]
  refine ⟨_, hget, ?_⟩
  split
  · exact .revoke row now
  · exact .refl row

/-- Revoking one row deletes none. -/
theorem Store.revokeToken_extends {tokenHash : String} {row : RefreshToken}
    (h : s.refreshTokens.get tokenHash = some row) (now : ℕ) :
    s.Extends (s.revokeToken tokenHash row now) := by
  refine ⟨fun tokenHash' row' h' => ?_, List.Subset.refl _⟩
  by_cases e : tokenHash' = tokenHash
  · subst e
    obtain rfl := Option.some.inj (h.symm.trans h')
    exact ⟨_, Table.get_upd_same _ _ _, .revoke row now⟩
  · exact ⟨row', (Table.get_upd_other e).trans h', .refl row'⟩

/-- A row is added under a hash of its own. -/
theorem Store.createToken_extends {tokenHash : String} (h : s.refreshTokens.get tokenHash = none)
    (row : RefreshToken) (origin : Origin) : s.Extends (s.createToken tokenHash row origin) := by
  refine ⟨fun tokenHash' row' h' => ?_, List.Subset.refl _⟩
  have hne : tokenHash' ≠ tokenHash := by
    rintro rfl
    cases h.symm.trans h'
  exact ⟨row', (Table.get_upd_other hne).trans h', .refl row'⟩

/-- A rotation's token stays a row. -/
theorem Rotation.Known.later {x : Rotation} (hx : x.Known s) (h : s.Extends s') : x.Known s' := by
  obtain ⟨hpresented, row, hrow, huser, hfamily⟩ := hx
  obtain ⟨row', hrow', hlater⟩ := h.rows _ _ hrow
  exact ⟨h.presented hpresented, row', hrow', hlater.userId.trans huser,
    hlater.familyId.trans hfamily⟩

/-- What a call rests on stays. -/
theorem Point.Rooted.later (hp : point.Rooted s) (h : s.Extends s') : point.Rooted s' :=
  ⟨fun x hx => (hp.known x hx).later h, hp.begins⟩

/-- Where no rotation is under way. -/
theorem Point.Rooted.idle (hnone : point.rotation = none) (hbegins : point.Begins) :
    point.Rooted s :=
  ⟨fun _ hx => absurd (hnone.symm.trans hx) nofun, hbegins⟩

theorem Flow.origin_parent (flow : Flow) : flow.origin.parent = none := by cases flow <;> rfl

/-- A sign-in rotates nothing. -/
theorem Flow.Next.rotation {flow : Flow} (hnext : flow.Next point) : point.rotation = none := by
  cases hnext with
  | rename => rfl
  | findWallet => cases flow <;> rfl

/-- So it rests on no token. -/
theorem Flow.Next.rooted {flow : Flow} (hnext : flow.Next point) : point.Rooted s := by
  refine .idle hnext.rotation ?_
  cases hnext with
  | rename => trivial
  | findWallet => exact flow.origin_parent

/-- A rotation goes on when the wallet is found. -/
theorem Point.rotation_insertToken {origin : Origin} {issued : IssuedSession} {user : User}
    {now userId uuid : ℕ} {familyId : Option ℕ} (hissued : issued.playerId = userId)
    (hfamily : familyId = none → origin.parent = none) :
    (Point.insertToken origin issued now (familyId.getD uuid)).rotation =
      (Point.findWallet origin userId user now familyId).rotation := by
  cases origin with
  | signed | connected => rfl
  | rotated tokenHash =>
      cases familyId with
      | none => cases hfamily rfl
      | some familyId => subst hissued; rfl

/-- A step that inserts no row and ends no session. -/
theorem Store.Rooted.of_extends (hs : s.Rooted) (h : s.Extends s')
    (hrows : ∀ tokenHash row', s'.refreshTokens.get tokenHash = some row' →
      ∃ row, s.refreshTokens.get tokenHash = some row)
    (hx : s'.history.sessions = s.history.sessions) (he : s'.history.ended = s.history.ended)
    (hp : s'.history.presented = s.history.presented) : s'.Rooted := by
  refine ⟨fun tokenHash row' hrow' => ?_, hx ▸ hs.users, ?_, ?_⟩
  · obtain ⟨row, hrow⟩ := hrows tokenHash row' hrow'
    obtain ⟨row'', hrow'', hlater⟩ := h.rows tokenHash row hrow
    obtain rfl := Option.some.inj (hrow'.symm.trans hrow'')
    rw [hx, hlater.userId, hlater.familyId]
    exact hs.rows tokenHash row hrow
  · rw [he, hx]
    exact hs.ended
  · rw [hp]
    intro tokenHash hmem
    obtain ⟨row, hrow⟩ := Option.isSome_iff_exists.mp (hs.presented tokenHash hmem)
    obtain ⟨row', hrow', -⟩ := h.rows tokenHash row hrow
    exact Option.isSome_iff_exists.mpr ⟨row', hrow'⟩

/-- Where no session and no row changed. -/
theorem Store.Rooted.of_eq (hs : s.Rooted) (hr : s'.refreshTokens = s.refreshTokens)
    (hx : s'.history.sessions = s.history.sessions) (he : s'.history.ended = s.history.ended)
    (hp : s'.history.presented = s.history.presented) : s'.Rooted :=
  hs.of_extends (.of_eq hr (hp ▸ List.Subset.refl _)) (fun _ row h => ⟨row, hr ▸ h⟩) hx he hp

/-- Revoking keeps a token's session. -/
theorem Store.Rooted.revokeMany (hs : s.Rooted) (which : RefreshToken → Bool) (now : ℕ) :
    (s.revokeMany which now).Rooted := by
  refine hs.of_extends (s.revokeMany_extends which now) (fun tokenHash row' hrow' => ?_) rfl rfl rfl
  obtain ⟨row, hrow, -⟩ := Store.revokeMany_row hrow'
  exact ⟨row, hrow⟩

/-- Revoking one keeps it too. -/
theorem Store.Rooted.revokeToken (hs : s.Rooted) {tokenHash : String} {row : RefreshToken}
    (h : s.refreshTokens.get tokenHash = some row) (now : ℕ) :
    (s.revokeToken tokenHash row now).Rooted := by
  refine hs.of_extends (Store.revokeToken_extends h now)
    (fun tokenHash' row' hrow' => ?_) rfl rfl rfl
  by_cases e : tokenHash' = tokenHash
  · exact ⟨row, e ▸ h⟩
  · exact ⟨row', (Table.get_upd_other e).symm.trans hrow'⟩

/-- A token that is presented is a row. -/
theorem Store.Rooted.present (hs : s.Rooted) {tokenHash : String} {row : RefreshToken}
    (h : s.refreshTokens.get tokenHash = some row) : (s.present tokenHash).Rooted := by
  refine ⟨hs.rows, hs.users, hs.ended, fun tokenHash' hmem => ?_⟩
  obtain rfl | hmem := List.mem_cons.mp hmem
  · exact Option.isSome_iff_exists.mpr ⟨row, h⟩
  · exact hs.presented tokenHash' hmem

/-- What ends is of sessions that began. -/
theorem Store.Rooted.endSessions (hs : s.Rooted) (userId : ℕ) : (s.endSessions userId).Rooted := by
  refine ⟨hs.rows, hs.users, fun familyId hmem => ?_, hs.presented⟩
  obtain hmem | hmem := List.mem_append.mp hmem
  · exact hs.ended familyId hmem
  · obtain ⟨x, hx, rfl⟩ := List.mem_map.mp hmem
    exact ⟨x, List.mem_of_mem_filter hx, rfl⟩

/-- A row is inserted: the first of its family, or one more of its user. -/
theorem Store.Rooted.createToken (hs : s.Rooted) {tokenHash : String} {row : RefreshToken}
    (origin : Origin) (hnew : s.refreshTokens.get tokenHash = none)
    (hfamily : ∀ x ∈ s.history.sessions, x.familyId = row.familyId → x.userId = row.userId) :
    (s.createToken tokenHash row origin).Rooted := by
  have hrows : ∀ {familyId userId : ℕ}, (∃ x ∈ s.history.sessions, x.familyId = familyId ∧
      x.userId = userId) → ∃ x ∈ (s.createToken tokenHash row origin).history.sessions,
        x.familyId = familyId ∧ x.userId = userId := fun ⟨x, hx, h⟩ =>
    ⟨x, List.mem_append_left _ hx, h⟩
  refine ⟨?_, fun x hx y hy hxy => ?_, fun familyId hmem => ?_, fun tokenHash' hmem => ?_⟩
  · exact (hs.rows.mono fun _ _ h => hrows h).upd
      ⟨⟨origin, row.userId, row.familyId, tokenHash, s.clock⟩,
        List.mem_append_right _ (List.mem_singleton_self _), rfl, rfl⟩
  · obtain hx | hx := List.mem_append.mp hx <;> obtain hy | hy := List.mem_append.mp hy
    · exact hs.users x hx y hy hxy
    · obtain rfl := List.mem_singleton.mp hy
      exact hfamily x hx hxy
    · obtain rfl := List.mem_singleton.mp hx
      exact (hfamily y hy hxy.symm).symm
    · obtain rfl := List.mem_singleton.mp hx
      obtain rfl := List.mem_singleton.mp hy
      rfl
  · obtain ⟨x, hx, h⟩ := hs.ended familyId hmem
    exact ⟨x, List.mem_append_left _ hx, h⟩
  · obtain ⟨row', hrow'⟩ := Option.isSome_iff_exists.mp (hs.presented tokenHash' hmem)
    obtain ⟨row'', hrow'', -⟩ := (Store.createToken_extends hnew row origin).rows
      tokenHash' row' hrow'
    exact Option.isSome_iff_exists.mpr ⟨row'', hrow''⟩

/-- A step keeps the rows rooted, when a family that begins is a new one. -/
theorem Call.Outcome.rooted {a : Answer} {next : Option Call} (ho : p.Outcome deps s a s' next)
    (hs : s.Rooted) (hp : p.point.Rooted s)
    (hfresh : ∀ origin issued now familyId, p.point = .insertToken origin issued now familyId →
      a ≠ .throw → origin.parent = none → ∀ x ∈ s.history.sessions, x.familyId ≠ familyId) :
    (s'.Rooted ∧ s.Extends s') ∧ ∀ p', next = some p' → p'.point.Rooted s' := by
  have frame : s'.refreshTokens = s.refreshTokens → s'.history.sessions = s.history.sessions →
      s'.history.ended = s.history.ended → s'.history.presented = s.history.presented →
        s'.Rooted ∧ s.Extends s' :=
    fun hr hx he hpr => ⟨hs.of_eq hr hx he hpr, .of_eq hr (hpr ▸ List.Subset.refl _)⟩
  have ends : ∀ p' : Call, none = some p' → p'.point.Rooted s' := fun _ e => nomatch e
  have idle : ∀ {q : Call}, q.point.rotation = none → q.point.Begins →
      ∀ p' : Call, some q = some p' → p'.point.Rooted s' := by
    rintro q hnone hbegins _ ⟨⟩
    exact .idle hnone hbegins
  cases ho with
  | answers | issues | misses | refuses => exact ⟨frame rfl rfl rfl rfl, ends⟩
  | draws | verifies | connects | rotates | leaves | proves | findsOwner | findsNobody =>
      exact ⟨frame rfl rfl rfl rfl, idle rfl trivial⟩
  | stamps hpt hsigns =>
      cases hsigns with
      | refused => exact ⟨frame rfl rfl rfl rfl, ends⟩
      | goes hnext =>
          refine ⟨frame rfl rfl rfl rfl, ?_⟩
          rintro _ ⟨⟩
          exact hnext.rooted
  | creates hpt _ hsigns =>
      cases hsigns with
      | refused => exact ⟨frame rfl rfl rfl rfl, ends⟩
      | goes hnext =>
          refine ⟨frame rfl rfl rfl rfl, ?_⟩
          rintro _ ⟨⟩
          exact hnext.rooted
  | renames => exact ⟨frame rfl rfl rfl rfl, idle rfl rfl⟩
  | @drafts _ _ _ origin userId user now familyId _ hpt hissued =>
      rw [hpt] at hp
      refine ⟨frame rfl rfl rfl rfl, ?_⟩
      rintro _ ⟨⟩
      have hfamily : familyId = none → origin.parent = none := by
        rintro rfl
        exact hp.begins
      refine ⟨fun x hx => hp.known x ?_, trivial⟩
      rw [← Point.rotation_insertToken hissued hfamily]
      exact hx
  | @inserts _ origin issued now familyId tokenHash expiresAt _ hok hpt hnew =>
      rw [hpt] at hp
      have hroot : ∀ x ∈ s.history.sessions, x.familyId = familyId →
          x.userId = issued.playerId := by
        intro x hx hfamily
        cases origin with
        | signed | connected =>
            exact absurd hfamily (hfresh _ _ _ _ hpt hok rfl x hx)
        | rotated parent =>
            obtain ⟨-, row, hrow, huser, hrowFamily⟩ := hp.known _ rfl
            obtain ⟨y, hy, hyfamily, hyuser⟩ := hs.rows _ row hrow
            rw [hs.users x hx y hy (hfamily.trans (hyfamily.trans hrowFamily).symm), hyuser]
            exact huser
      have hcreated : Store.Rooted (s.createToken tokenHash
          ⟨issued.playerId, familyId, expiresAt, none⟩ origin) := hs.createToken origin hnew hroot
      have hextends := Store.createToken_extends hnew
        ⟨issued.playerId, familyId, expiresAt, none⟩ origin
      exact ⟨⟨hcreated.of_eq rfl rfl rfl rfl, hextends.rows, hextends.presented⟩, ends⟩
  | spent _ hpt _ hrow =>
      exact ⟨⟨hs.present hrow, .of_eq rfl (List.subset_cons_self _ _)⟩, idle rfl trivial⟩
  | turnsAway _ hpt _ hrow =>
      exact ⟨⟨(hs.present hrow).of_eq rfl rfl rfl rfl, .of_eq rfl (List.subset_cons_self _ _)⟩,
        ends⟩
  | @accepted _ _ now tokenHash row user _ hpt _ hrow =>
      refine ⟨⟨hs.present hrow, .of_eq rfl (List.subset_cons_self _ _)⟩, ?_⟩
      rintro _ ⟨⟩
      refine ⟨?_, trivial⟩
      rintro x ⟨⟩
      exact ⟨List.mem_cons_self, row, hrow, rfl, rfl⟩
  | burns =>
      have hextends := s.revokeMany_extends
      exact ⟨⟨(hs.revokeMany _ _).of_eq rfl rfl rfl rfl, (hextends _ _).rows,
        (hextends _ _).presented⟩,
        ends⟩
  | @revokes _ tokenHash row user now current hpt hcurrent =>
      rw [hpt] at hp
      have hextends := Store.revokeToken_extends hcurrent now
      refine ⟨⟨hs.revokeToken hcurrent now, hextends⟩, ?_⟩
      rintro _ ⟨⟩
      refine ⟨?_, trivial⟩
      rintro x ⟨⟩
      exact (hp.known _ rfl).later hextends
  | ends =>
      have hextends := s.revokeMany_extends
      exact ⟨⟨((hs.revokeMany _ _).endSessions _).of_eq rfl rfl rfl rfl, (hextends _ _).rows,
        (hextends _ _).presented⟩, ends⟩

/-- Every step keeps the rows rooted, when families that begin are new ones. -/
theorem calls_rooted (deps : AuthDeps) :
    (calls deps).Keeps FreshFamilies Store.Rooted (fun s _ p => p.point.Rooted s)
      fun _ _ => True := by
  refine .of_leads (R := fun (s s' : Store) => s'.Rooted ∧ s.Extends s')
    (K := fun s (p : Call) => p.point.Rooted s) (fun _ _ h => h.1)
    (fun _ _ _ h hp => hp.later h.2) ?_ ?_ ?_
  · intro s p hstarts
    rw [(calls_starts hstarts).1]
    exact .idle rfl trivial
  · intro s r p c hs hp hknows hfresh
    exact (Call.resume_outcome deps r s.store p c).rooted hs hknows (hfresh.begins hp)
  · intro s e store hs _ he
    cases e with
    | tick clock =>
        simp only [calls, outside, Option.ite_none_right_eq_some] at he
        obtain rfl := Option.some.inj he.2
        exact ⟨hs.of_eq rfl rfl rfl rfl, .of_eq rfl (List.Subset.refl _)⟩
    | sign wallet message =>
        obtain rfl := Option.some.inj he
        exact ⟨hs.of_eq rfl rfl rfl rfl, .of_eq rfl (List.Subset.refl _)⟩
    | user userId row =>
        obtain rfl := Option.some.inj he
        exact ⟨hs.of_eq rfl rfl rfl rfl, .of_eq rfl (List.Subset.refl _)⟩

/-- Before the first call. -/
theorem Genesis.rooted {s : System Store Call} (h : Genesis s) : s.store.Rooted := by
  obtain ⟨-, -, -, hrows, hhistory, -⟩ := h
  refine ⟨?_, ?_, ?_, ?_⟩
  · rw [hrows]
    exact .empty
  · rw [hhistory]
    exact nofun
  · rw [hhistory]
    exact nofun
  · rw [hhistory]
    exact nofun

end Rows

/-! ### Revocation -/

/-- A rotation inserts its successor into no family that a logout or a ban has ended. -/
def SparesEnded (s : System Store Call) : Act Call Answer Outside → Prop
  | .resume r (.ok _ _ _) =>
      match s.procs.get r with
      | some ⟨_, .insertToken origin _ _ familyId, _⟩ =>
          origin.parent ≠ none → familyId ∉ s.store.history.ended
      | _ => True
  | _ => True

instance (s : System Store Call) : DecidablePred (SparesEnded s) := fun a => by
  unfold SparesEnded
  split
  · split <;> infer_instance
  · infer_instance

/-- What the condition says of an insert. -/
theorem SparesEnded.spares {s : System Store Call} {r : ℕ} {p : Call} {a : Answer}
    (hg : SparesEnded s (.resume r a)) (hp : s.procs.get r = some p) (origin : Origin)
    (issued : IssuedSession) (now familyId : ℕ)
    (hpt : p.point = .insertToken origin issued now familyId) (hok : a ≠ .throw)
    (hparent : origin.parent ≠ none) : familyId ∉ s.store.history.ended := by
  obtain ⟨request, point, again⟩ := p
  obtain rfl := hpt
  cases a with
  | throw => cases hok rfl
  | ok =>
      simp only [SparesEnded, hp] at hg
      exact hg hparent

def Revokes (s : System Store Call) (a : Act Call Answer Outside) : Prop :=
  FreshFamilies s a ∧ SparesEnded s a

instance (s : System Store Call) : DecidablePred (Revokes s) := fun a => by
  unfold Revokes
  infer_instance

/-- No token of a family that has ended is live. -/
def Store.Final (s : Store) : Prop :=
  s.refreshTokens.All fun _ row => row.familyId ∈ s.history.ended → row.revokedAt.isSome = true

section Final
variable {deps : AuthDeps} {s s' : Store} {p : Call}

/-- Where no row changed, and no session ended. -/
theorem Store.Final.of_eq (hs : s.Final) (hr : s'.refreshTokens = s.refreshTokens)
    (he : s'.history.ended = s.history.ended) : s'.Final := by
  unfold Store.Final
  rw [hr, he]
  exact hs

/-- Revoking makes nothing live. -/
theorem Store.Final.revokeMany (hs : s.Final) (which : RefreshToken → Bool) (now : ℕ) :
    (s.revokeMany which now).Final := by
  intro tokenHash row' hrow' hended
  obtain ⟨row, hrow, hlater, -⟩ := Store.revokeMany_row hrow'
  exact hlater.isSome (hs tokenHash row hrow (hlater.familyId ▸ hended))

/-- What a logout or a ban does: every row of the user is revoked, and no other row is in a family
of the user. -/
theorem Store.Final.endSessions (hs : s.Final) (hroot : s.Rooted) (userId now : ℕ) :
    ((s.revokeMany (·.userId = userId) now).endSessions userId).Final := by
  intro tokenHash row' hrow' hended
  obtain hended | hended := List.mem_append.mp hended
  · exact hs.revokeMany (·.userId = userId) now tokenHash row' hrow' hended
  · obtain ⟨row, hrow, hlater, hrevoked⟩ := Store.revokeMany_row hrow'
    obtain ⟨x, hx, hfamily⟩ := List.mem_map.mp hended
    obtain ⟨hx, huser⟩ := List.mem_filter.mp hx
    obtain ⟨y, hy, hyfamily, hyuser⟩ := hroot.rows tokenHash row hrow
    have hxy : x.familyId = y.familyId :=
      hfamily.trans (hlater.familyId.trans hyfamily.symm)
    have hrowUser : row.userId = userId := by
      rw [← hyuser, ← hroot.users x hx y hy hxy]
      simpa using huser
    exact hrevoked (by simpa using hrowUser)

/-- A step keeps them final, when a successor is inserted into no family that has ended. -/
theorem Call.Outcome.final {a : Answer} {next : Option Call} (ho : p.Outcome deps s a s' next)
    (hs : s.Final) (hroot : s.Rooted)
    (hspares : ∀ origin issued now familyId, p.point = .insertToken origin issued now familyId →
      a ≠ .throw → familyId ∉ s.history.ended) : s'.Final := by
  cases ho with
  | answers | draws | verifies | connects | rotates | leaves | issues | misses | refuses | proves
  | findsOwner | findsNobody | renames | drafts | spent | turnsAway | accepted => exact hs
  | stamps _ hsigns => cases hsigns <;> exact hs
  | creates _ _ hsigns => cases hsigns <;> exact hs
  | inserts hok hpt =>
      refine Table.All.upd hs fun hended => ?_
      exact absurd hended (hspares _ _ _ _ hpt hok)
  | burns => exact hs.revokeMany _ _
  | revokes => exact Table.All.upd hs fun _ => rfl
  | ends => exact hs.endSessions hroot _ _

/-- Every step keeps them final, on top of the rows being rooted. -/
theorem calls_final (deps : AuthDeps) :
    (calls deps).Keeps Revokes (fun s => s.Rooted ∧ s.Final)
      (fun s _ p => p.point.Rooted s ∧ True) fun _ _ => True ∧ True := by
  refine ((calls_rooted deps).mono fun _ _ h => h.1).and ?_
  refine .of_leads (R := fun (_ s' : Store) => s'.Final) (K := fun _ _ => True) (fun _ _ h => h)
    (fun _ _ _ _ _ => trivial) (fun _ _ _ => trivial) ?_ ?_
  · intro s r p c hs hp _ ⟨⟨hfresh, hspares⟩, hroot, _⟩
    refine ⟨(Call.resume_outcome deps r s.store p c).final hs hroot ?_, fun _ _ => trivial⟩
    intro origin issued now familyId hpt hok hended
    by_cases hparent : origin.parent = none
    · obtain ⟨x, hx, hfamily⟩ := hroot.ended familyId hended
      exact hfresh.begins hp origin issued now familyId hpt hok hparent x hx hfamily
    · exact hspares.spares hp origin issued now familyId hpt hok hparent hended
  · intro s e store hs _ he
    cases e with
    | tick clock =>
        simp only [calls, outside, Option.ite_none_right_eq_some] at he
        obtain rfl := Option.some.inj he.2
        exact hs
    | sign wallet message =>
        obtain rfl := Option.some.inj he
        exact hs
    | user userId row =>
        obtain rfl := Option.some.inj he
        exact hs

/-- What has ended stays so. -/
theorem Call.Outcome.ended {a : Answer} {next : Option Call} (ho : p.Outcome deps s a s' next) :
    s.history.ended ⊆ s'.history.ended := by
  cases ho with
  | answers | draws | verifies | connects | rotates | leaves | issues | misses | refuses | proves
  | findsOwner | findsNobody | renames | drafts | inserts | spent | turnsAway | accepted | burns
  | revokes => exact List.Subset.refl _
  | stamps _ hsigns => cases hsigns <;> exact List.Subset.refl _
  | creates _ _ hsigns => cases hsigns <;> exact List.Subset.refl _
  | ends => exact List.subset_append_left _ _

/-- What has ended stays so. -/
theorem ended_stays {s s' : System Store Call} {as : List (Act Call Answer Outside)}
    (h : Run (calls deps).Step s as s') {familyId : ℕ}
    (hended : familyId ∈ s.store.history.ended) : familyId ∈ s'.store.history.ended := by
  refine (calls deps).run_stable (I := fun s => familyId ∈ s.history.ended) ?_ ?_ h hended
  · intro r s p c hs
    exact (Call.resume_outcome deps r s p c).ended hs
  · intro s e store hs he
    cases e with
    | tick clock =>
        simp only [calls, outside, Option.ite_none_right_eq_some] at he
        obtain rfl := Option.some.inj he.2
        exact hs
    | sign wallet message =>
        obtain rfl := Option.some.inj he
        exact hs
    | user userId row =>
        obtain rfl := Option.some.inj he
        exact hs

/-- A call that presents a revoked token burns its family, unless it fails. -/
theorem Call.resume_spent {r now : ℕ} {refreshToken : String} {row : RefreshToken} {a : Answer}
    {p' : Call} (hpt : p.point = .findToken refreshToken now)
    (hrow : s.refreshTokens.get (deps.hashToken refreshToken) = some row)
    (hrevoked : row.revokedAt.isSome = true) (hnext : (p.resume deps r s a).2 = some p') :
    p'.point = .burnFamily row.familyId now := by
  cases a with
  | throw => cases hnext
  | ok =>
      simp only [Call.resume, hpt, hrow] at hnext
      split at hnext
      · cases hnext
      · simp only [Call.present, hrevoked, if_true] at hnext
        obtain rfl := Option.some.inj hnext
        rfl

end Final

/-- **Revocation is final.**  Once a logout or a ban is done, no token descended from a session
that the user had is live, in any run where no rotation inserts its successor into a family that
has ended; and a call that presents one goes no further than to burn its family. -/
theorem revocation_final {deps : AuthDeps} {s₁ s₂ s : System Store Call} {r userId now : ℕ}
    {p : Call} {c : Answer} {as : List (Act Call Answer Outside)}
    (h₁ : Reachable (Guarded (calls deps).Step Revokes) Genesis s₁)
    (hp : s₁.procs.get r = some p) (hpt : p.point = .revokeTokens userId now) (hc : c ≠ .throw)
    (hrevoke : Guarded (calls deps).Step Revokes s₁ (.resume r c) s₂)
    (hrun : Run (Guarded (calls deps).Step Revokes) s₂ as s) :
    ∀ x ∈ s₁.store.history.sessions, x.userId = userId → ∀ tokenHash row,
      s.store.refreshTokens.get tokenHash = some row → row.familyId = x.familyId →
        row.revokedAt.isSome = true ∧
        ∀ (q q' : Call) (a : Answer) (r' now' : ℕ) (refreshToken : String),
          q.point = .findToken refreshToken now' → deps.hashToken refreshToken = tokenHash →
            (q.resume deps r' s.store a).2 = some q' →
              q'.point = .burnFamily row.familyId now' := by
  obtain ⟨s₀, ls, h₀, hls⟩ := h₁
  obtain ⟨⟨-, hfinal⟩, -⟩ := (calls_final deps).reachable
    (fun s h => ⟨⟨h.rooted, by rw [Store.Final, h.2.2.2.1]; exact .empty⟩,
      by rw [h.2.2.2.2.2]; exact .empty, fun _ _ _ _ _ _ _ => ⟨trivial, trivial⟩⟩)
    ⟨s₀, _, h₀, (hls.snoc hrevoke).append hrun⟩
  intro x hx huser tokenHash row hrow hfamily
  have hended : x.familyId ∈ s.store.history.ended := by
    refine ended_stays hrun.of_guarded ?_
    obtain ⟨q, hq, hstore, -⟩ := (calls deps).step_resume hrevoke.1
    obtain rfl := Option.some.inj (hp.symm.trans hq)
    rw [hstore]
    cases c with
    | throw => cases hc rfl
    | ok =>
        simp only [calls, Call.resume, hpt]
        exact List.mem_append_right _
          (List.mem_map_of_mem (List.mem_filter.mpr ⟨hx, by simpa using huser⟩))
  have hrevoked := hfinal tokenHash row hrow (hfamily ▸ hended)
  refine ⟨hrevoked, ?_⟩
  rintro q q' a r' now' refreshToken hpt' rfl hnext
  exact Call.resume_spent hpt' hrow hrevoked hnext

/-- Waits to revoke the tokens of a user. -/
def Call.revoking (p : Call) : Option (ℕ × ℕ) :=
  match p.point with
  | .revokeTokens userId now => some (userId, now)
  | _ => none

theorem Call.revoking_some {p : Call} {userId now : ℕ} (h : p.revoking = some (userId, now)) :
    p.point = .revokeTokens userId now := by
  unfold Call.revoking at h
  split at h
  · cases h
    assumption
  · cases h

/-- Waits to look for a refresh token. -/
def Call.finding (p : Call) : Option (String × ℕ) :=
  match p.point with
  | .findToken refreshToken now => some (refreshToken, now)
  | _ => none

theorem Call.finding_some {p : Call} {refreshToken : String} {now : ℕ}
    (h : p.finding = some (refreshToken, now)) : p.point = .findToken refreshToken now := by
  unfold Call.finding at h
  split at h
  · cases h
    assumption
  · cases h

/-- A player connects, and rotates the token twice at once; both rotations are under way at the
logout.  The first goes on up to its insertion, and the second finds the token revoked. -/
theorem revocation_final_logout : ∃ (s : System Store Call) (row : RefreshToken) (q q' : Call),
    s.store.refreshTokens.get (gateway.hashToken "r0") = some row ∧ row.revokedAt.isSome = true ∧
      s.procs.get 2 = some q ∧ (q.resume gateway 2 s.store (.ok "" 0 0)).2 = some q' ∧
        q'.point = .burnFamily row.familyId 0 := by
  have run : ((calls gateway).actsWhen Revokes noSessions
      (called 0 (.connectWallet address none) (List.replicate 5 ("r0", 1, 2)) ++
        called 1 (.rotateRefreshToken "r0") (List.replicate 2 ("r1", 3, 4)) ++
        called 2 (.rotateRefreshToken "r0") [("", 0, 0)] ++
        called 3 (.logout 1) [("", 0, 0)])).any (fun s₁ =>
          decide ((s₁.procs.get 3).bind Call.revoking = some (1, 0)) &&
            ((calls gateway).actsWhen Revokes s₁
              [.resume 3 (.ok "" 0 0), .resume 1 (.ok "r1" 3 4), .resume 1 (.ok "r1" 3 4)]).any
                fun s => decide ((s.procs.get 2).bind Call.finding = some ("r0", 0)) &&
                  ((s.procs.get 2).bind fun q =>
                    (q.resume gateway 2 s.store (.ok "" 0 0)).2).isSome &&
                  s₁.store.history.sessions.any fun x => decide (x.userId = 1) &&
                    (s.store.refreshTokens.get (gateway.hashToken "r0")).any
                      (·.familyId = x.familyId)) = true := by
    decide
  obtain ⟨s₁, h₁, htest⟩ := (calls gateway).reachable_of_actsWhen noSessions_genesis run
  rw [Bool.and_eq_true, decide_eq_true_eq] at htest
  obtain ⟨p, hp, hrevoking⟩ := Option.bind_eq_some_iff.mp htest.1
  obtain ⟨s, hs, htest⟩ := (Option.any_eq_true _ _).mp htest.2
  rw [Bool.and_eq_true, Bool.and_eq_true, decide_eq_true_eq] at htest
  obtain ⟨⟨hfinding, hgoes⟩, hx⟩ := htest
  obtain ⟨q, hq, hfinding⟩ := Option.bind_eq_some_iff.mp hfinding
  rw [hq, Option.bind_some] at hgoes
  obtain ⟨q', hnext⟩ := Option.isSome_iff_exists.mp hgoes
  obtain ⟨x, hx, hrow⟩ := List.any_eq_true.mp hx
  rw [Bool.and_eq_true, decide_eq_true_eq] at hrow
  obtain ⟨row, hget, hfamily⟩ := (Option.any_eq_true _ _).mp hrow.2
  rcases (calls gateway).run_of_actsWhen hs with _ | ⟨hrevoke, hend⟩
  have hok : Answer.ok "" 0 0 ≠ .throw := nofun
  obtain ⟨hrevoked, hburns⟩ := revocation_final h₁ hp (Call.revoking_some hrevoking)
    hok hrevoke hend
    x hx hrow.1 (gateway.hashToken "r0") row hget (by simpa using hfamily)
  exact ⟨s, row, q, q', hget, hrevoked, hq, hnext,
    hburns q q' _ 2 0 "r0" (Call.finding_some hfinding) rfl hnext⟩

/-- A rotation has revoked its token when the player logs out, and inserts its successor after. -/
theorem revocation_final_rotated : ¬ ∀ (deps : AuthDeps) (s₁ s₂ s : System Store Call)
    (r userId now : ℕ) (p : Call) (c : Answer) (as : List (Act Call Answer Outside)),
      Reachable (Guarded (calls deps).Step FreshFamilies) Genesis s₁ → s₁.procs.get r = some p →
        p.point = .revokeTokens userId now → c ≠ .throw →
          Guarded (calls deps).Step FreshFamilies s₁ (.resume r c) s₂ →
            Run (Guarded (calls deps).Step FreshFamilies) s₂ as s →
              ∀ x ∈ s₁.store.history.sessions, x.userId = userId → ∀ tokenHash row,
                s.store.refreshTokens.get tokenHash = some row → row.familyId = x.familyId →
                  row.revokedAt.isSome = true ∨ row.expiresAt < s.store.clock := by
  intro hclaim
  have run : ((calls gateway).actsWhen FreshFamilies noSessions
      (called 0 (.connectWallet address none) (List.replicate 5 ("r0", 1, 2)) ++
        called 1 (.rotateRefreshToken "r0") (List.replicate 4 ("r1", 3, 4)) ++
        called 2 (.logout 1) [("", 0, 0)])).any (fun s₁ =>
          decide ((s₁.procs.get 2).bind Call.revoking = some (1, 0)) &&
            ((calls gateway).actsWhen FreshFamilies s₁
              [.resume 2 (.ok "" 0 0), .resume 1 (.ok "" 0 0)]).any fun s =>
                s₁.store.history.sessions.any fun x => decide (x.userId = 1) &&
                  (s.store.refreshTokens.get (gateway.hashToken "r1")).any fun row =>
                    decide (row.familyId = x.familyId ∧ row.revokedAt = none ∧
                      s.store.clock ≤ row.expiresAt)) = true := by
    decide
  obtain ⟨s₁, h₁, htest⟩ := (calls gateway).reachable_of_actsWhen noSessions_genesis run
  rw [Bool.and_eq_true, decide_eq_true_eq] at htest
  obtain ⟨p, hp, hrevoking⟩ := Option.bind_eq_some_iff.mp htest.1
  obtain ⟨s, hs, hx⟩ := (Option.any_eq_true _ _).mp htest.2
  obtain ⟨x, hx, hrow⟩ := List.any_eq_true.mp hx
  rw [Bool.and_eq_true, decide_eq_true_eq] at hrow
  obtain ⟨row, hget, hlive⟩ := (Option.any_eq_true _ _).mp hrow.2
  rw [decide_eq_true_eq] at hlive
  obtain ⟨hfamily, hnone, hclock⟩ := hlive
  rcases (calls gateway).run_of_actsWhen hs with _ | ⟨hrevoke, hrest⟩
  have hok : Answer.ok "" 0 0 ≠ .throw := nofun
  rcases hclaim gateway s₁ _ s 2 1 0 p _ _ h₁ hp (Call.revoking_some hrevoking) hok hrevoke hrest x
    hx hrow.1 _ row hget hfamily with hrevoked | hexpired
  · rw [hnone] at hrevoked
    cases hrevoked
  · omega

end SnakeArena.Auth
