import SnakeArena.Auth.Service
import SnakeArena.Library.Borsh

/-!
# Auth — what a call does

The inversion of `Call.resume` (`Call.Outcome`): one case for each thing that a call can do
between two awaits, with what it found there.  Every invariant is kept case by case from it.
-/

namespace SnakeArena.Auth
open SnakeArena.Library

/-- Where a call goes on once the owner of its wallet is known. -/
inductive Flow.Next (flow : Flow) : Point → Prop where
  | rename {userId nickname now} (hflow : flow.origin = .connected) :
      Next flow (.rename userId nickname now)
  | findWallet {userId user now} : Next flow (.findWallet flow.origin userId user now none)

/-- What becomes of a call once the owner of its wallet is known. -/
inductive Call.SignsIn (p : Call) (s : Store) (flow : Flow) : Store → Option Call → Prop where
  | refused {result} : SignsIn p s flow (s.answer ⟨p.request, p.again, result⟩) none
  | goes {point} (h : flow.Next point) : SignsIn p s flow s (some { p with point })

/-- A call that signs in is refused, or goes on with the owner's wallet. -/
theorem Call.signIn_signsIn (s : Store) (p : Call) (flow : Flow) (userId : ℕ) (user : User)
    (now : ℕ) : p.SignsIn s flow (p.signIn s flow userId user now).1
      (p.signIn s flow userId user now).2 := by
  unfold Call.signIn
  split
  · exact .refused
  · split
    · split
      · exact .goes (.rename rfl)
      · exact .goes .findWallet
    · exact .goes .findWallet

/-- What a call does from one await to the next. -/
inductive Call.Outcome (deps : AuthDeps) (s : Store) (p : Call) :
    Answer → Store → Option Call → Prop where
  /-- The call ends as it is: it failed, or no such token is known. -/
  | answers {a result}
      (hresult : result = .error internal ∨ ∃ refreshToken now,
        p.point = .findToken refreshToken now) :
      Outcome deps s p a (s.answer ⟨p.request, p.again, result⟩) none
  /-- A nonce is drawn, and is to be stored. -/
  | draws {wallet random uuid uuid'} (hpt : p.point = .start) :
      Outcome deps s p (.ok random uuid uuid') (s.draw random)
        (some { p with
          point := .setNonce wallet ⟨random, s.clock, s.clock + nonceTtlSeconds * 1000⟩ })
  | verifies {a wallet signature nonce} (hpt : p.point = .start) :
      Outcome deps s p a s (some { p with point := .takeNonce wallet signature nonce s.clock })
  | connects {a wallet nickname} (hpt : p.point = .start) :
      Outcome deps s p a s
        (some { p with point := .findOwner (.connecting nickname) wallet s.clock })
  | rotates {a refreshToken} (hpt : p.point = .start)
      (hrequest : p.request = .rotateRefreshToken refreshToken) :
      Outcome deps s p a s (some { p with point := .findToken refreshToken s.clock })
  | leaves {a userId} (hpt : p.point = .start) :
      Outcome deps s p a s (some { p with point := .revokeTokens userId s.clock })
  /-- The nonce is stored for its wallet, over the one that was there. -/
  | issues {a wallet record result} (hpt : p.point = .setNonce wallet record) :
      Outcome deps s p a ((s.setNonce wallet record).answer ⟨p.request, p.again, result⟩) none
  /-- No nonce is stored for the wallet, or not any more. -/
  | misses {a wallet signature nonce now result}
      (hpt : p.point = .takeNonce wallet signature nonce now) (hnone : s.challenge wallet = none) :
      Outcome deps s p a ((s.getdel wallet).answer ⟨p.request, p.again, result⟩) none
  /-- The nonce is taken, and does not match, has expired, or is not what was signed. -/
  | refuses {a wallet signature nonce now record result}
      (hpt : p.point = .takeNonce wallet signature nonce now)
      (hrecord : s.challenge wallet = some record) :
      Outcome deps s p a
        (((s.getdel wallet).attempt ⟨wallet, record, now, s.history.issued.length⟩).answer
          ⟨p.request, p.again, result⟩) none
  /-- The nonce is taken, and the signature is of it. -/
  | proves {a wallet signature nonce now record}
      (hpt : p.point = .takeNonce wallet signature nonce now)
      (hrecord : s.challenge wallet = some record) (hnonce : record.nonce = nonce)
      (hnow : now ≤ record.expiresAt)
      (hsig : deps.nacl.verifySignature (deps.message wallet record) signature wallet = true) :
      Outcome deps s p a
        (((s.getdel wallet).attempt ⟨wallet, record, now, s.history.issued.length⟩).prove wallet)
        (some { p with
          point :=
            .findOwner (.signing ⟨wallet, record, now, s.history.issued.length⟩) wallet now })
  | findsOwner {a flow address now wallet user} (hpt : p.point = .findOwner flow address now)
      (hwallet : s.wallet address = some wallet) :
      Outcome deps s p a s (some { p with point := .stampOwner flow wallet user now })
  | findsNobody {a flow address now} (hpt : p.point = .findOwner flow address now) :
      Outcome deps s p a s (some { p with point := .createOwner flow address now })
  /-- The wallet's proof is stamped: a sign-in, or a connection that stamps it too. -/
  | stamps {a flow wallet user row now s' next} (hpt : p.point = .stampOwner flow wallet user now)
      (h : p.SignsIn (s.stamp wallet row now) flow s' next) : Outcome deps s p a s' next
  /-- Nobody has the wallet: its owner is created with it. -/
  | creates {a flow address now userId walletId user s' next}
      (hpt : p.point = .createOwner flow address now)
      (hnew : ∀ w ∈ s.wallets, w.id ≠ walletId ∧ w.address ≠ address)
      (h : p.SignsIn (s.createOwner userId walletId user address now) flow s' next) :
      Outcome deps s p a s' next
  | renames {a userId nickname now users owner} (hpt : p.point = .rename userId nickname now) :
      Outcome deps s p a { s with users }
        (some { p with point := .findWallet .connected userId owner now none })
  /-- The tokens are made out; the first of a sign-in begins a family. -/
  | drafts {random uuid uuid' origin userId user now familyId issued}
      (hpt : p.point = .findWallet origin userId user now familyId)
      (hissued : issued.playerId = userId) :
      Outcome deps s p (.ok random uuid uuid') s
        (some { p with point := .insertToken origin issued now (familyId.getD uuid') })
  /-- The refresh token is inserted, and the call is answered. -/
  | inserts {a origin issued now familyId tokenHash expiresAt result}
      (hok : a ≠ .throw) (hpt : p.point = .insertToken origin issued now familyId)
      (hnew : s.refreshTokens.get tokenHash = none) :
      Outcome deps s p a
        ((s.createToken tokenHash ⟨issued.playerId, familyId, expiresAt, none⟩ origin).answer
          ⟨p.request, p.again, result⟩) none
  /-- A token that is revoked already: its family is to be burned. -/
  | spent {a refreshToken now tokenHash row} (hok : a ≠ .throw)
      (hpt : p.point = .findToken refreshToken now)
      (hhash : deps.hashToken refreshToken = tokenHash)
      (hrow : s.refreshTokens.get tokenHash = some row) (hrevoked : row.revokedAt.isSome = true) :
      Outcome deps s p a (s.present tokenHash)
        (some { p with
          point := .burnFamily row.familyId now
          again := decide (tokenHash ∈ s.history.presented) })
  /-- A token that has expired, or whose owner is barred. -/
  | turnsAway {a refreshToken now tokenHash row result} (hok : a ≠ .throw)
      (hpt : p.point = .findToken refreshToken now)
      (hhash : deps.hashToken refreshToken = tokenHash)
      (hrow : s.refreshTokens.get tokenHash = some row) (hrevoked : row.revokedAt = none) :
      Outcome deps s p a
        ((s.present tokenHash).answer
          ⟨p.request, decide (tokenHash ∈ s.history.presented), result⟩) none
  /-- A token that is good as far as the read tells, and is to be revoked. -/
  | accepted {a refreshToken now tokenHash row user} (hok : a ≠ .throw)
      (hpt : p.point = .findToken refreshToken now)
      (hhash : deps.hashToken refreshToken = tokenHash)
      (hrow : s.refreshTokens.get tokenHash = some row) (hrevoked : row.revokedAt = none)
      (hnow : now ≤ row.expiresAt) :
      Outcome deps s p a (s.present tokenHash)
        (some { p with
          point := .revokeToken tokenHash row user now
          again := decide (tokenHash ∈ s.history.presented) })
  /-- Every token of the family is revoked. -/
  | burns {a familyId now result} (hpt : p.point = .burnFamily familyId now) :
      Outcome deps s p a
        ((s.revokeMany (·.familyId = familyId) now).answer ⟨p.request, p.again, result⟩) none
  /-- The token is revoked, whatever became of it since the read. -/
  | revokes {a tokenHash row user now current}
      (hpt : p.point = .revokeToken tokenHash row user now)
      (hcurrent : s.refreshTokens.get tokenHash = some current) :
      Outcome deps s p a (s.revokeToken tokenHash current now)
        (some { p with
          point := .findWallet (.rotated tokenHash) row.userId user now (some row.familyId) })
  /-- Every token of the owner is revoked, and the owner's sessions end. -/
  | ends {a userId now result} (hpt : p.point = .revokeTokens userId now) :
      Outcome deps s p a
        (((s.revokeMany (·.userId = userId) now).endSessions userId).answer
          ⟨p.request, p.again, result⟩) none

/-- **What a call does is one of the cases**, whatever it is answered. -/
theorem Call.resume_outcome (deps : AuthDeps) (r : ℕ) (s : Store) (p : Call) (a : Answer) :
    p.Outcome deps s a (p.resume deps r s a).1 (p.resume deps r s a).2 := by
  cases a with
  | throw => exact .answers (.inl rfl)
  | ok random uuid uuid' =>
      simp only [Call.resume]
      cases hpt : p.point with
      | start =>
          simp only [Call.begin]
          cases hrequest : p.request with
          | issueNonce wallet => exact .draws hpt
          | verifyWalletSignature wallet signature nonce => exact .verifies hpt
          | connectWallet wallet nickname => exact .connects hpt
          | rotateRefreshToken refreshToken => exact .rotates hpt hrequest
          | logout userId => exact .leaves hpt
          | revokeAllSessions userId => exact .leaves hpt
      | setNonce wallet record => exact .issues hpt
      | takeNonce wallet signature nonce now =>
          dsimp only
          split
          next hnone => exact .misses hpt hnone
          next record hrecord =>
              simp only [Call.check]
              split_ifs with hnonce hexpired hsig
              · exact .refuses hpt hrecord
              · exact .refuses hpt hrecord
              · exact .refuses hpt hrecord
              · exact .proves hpt hrecord (not_not.mp hnonce) (not_lt.mp hexpired)
                  (Bool.eq_true_of_not_eq_false hsig)
      | findOwner flow address now =>
          dsimp only
          split
          · exact .findsNobody hpt
          next wallet hwallet =>
              split
              · exact .answers (.inl rfl)
              · exact .findsOwner hpt hwallet
      | stampOwner flow wallet user now =>
          dsimp only
          split
          · exact .answers (.inl rfl)
          · exact .stamps hpt (Call.signIn_signsIn _ p flow _ user now)
      | createOwner flow address now =>
          dsimp only
          split
          · exact .answers (.inl rfl)
          next hnew =>
              refine .creates hpt (fun w hw => ?_) (Call.signIn_signsIn _ p flow _ _ now)
              simp only [List.any_eq_true, not_or, not_exists, not_and, Bool.or_eq_true,
                decide_eq_true_eq] at hnew
              exact hnew.2 w hw
      | rename userId nickname now =>
          dsimp only
          split
          · exact .answers (.inl rfl)
          · exact .renames hpt
      | findWallet origin userId user now familyId => exact .drafts hpt rfl
      | insertToken origin issued now familyId =>
          dsimp only
          split
          · exact .answers (.inl rfl)
          next hnew => exact .inserts nofun hpt (Option.not_isSome_iff_eq_none.mp hnew)
      | findToken refreshToken now =>
          dsimp only
          split
          · exact .answers (.inr ⟨_, _, hpt⟩)
          next row hrow =>
              split
              · exact .answers (.inl rfl)
              · simp only [Call.present]
                split_ifs with hrevoked hexpired hbarred
                · exact .spent nofun hpt rfl hrow hrevoked
                · exact .turnsAway nofun hpt rfl hrow (Option.not_isSome_iff_eq_none.mp hrevoked)
                · exact .turnsAway nofun hpt rfl hrow (Option.not_isSome_iff_eq_none.mp hrevoked)
                · exact .accepted nofun hpt rfl hrow (Option.not_isSome_iff_eq_none.mp hrevoked)
                    (not_lt.mp hexpired)
      | burnFamily familyId now => exact .burns hpt
      | revokeToken tokenHash row user now =>
          dsimp only
          split
          · exact .answers (.inl rfl)
          next current hcurrent => exact .revokes hpt hcurrent
      | revokeTokens userId now => exact .ends hpt

/-- A challenge that is read has not expired. -/
theorem Store.challenge_held {s : Store} {wallet : String} {record : NonceRecord}
    (h : s.challenge wallet = some record) :
    ∃ held, s.nonces.get wallet = some held ∧ held.record = record ∧ s.clock ≤ held.deadline := by
  unfold Store.challenge at h
  split at h
  · cases h
  next held hheld =>
      simp only [Option.ite_none_right_eq_some, Option.some.injEq] at h
      exact ⟨held, hheld, h.2, h.1⟩

/-! ### A gateway -/

/-- The address of a key pair. -/
def address : String := "GmaDrppBC7P5ARKV8g3djiwP89vz1jLK23V2GBjuAEGB"

/-- What the pair signs of the challenge `n0`, issued at the epoch. -/
def signature : String :=
  "6Ms9DUBbpEXykqfZwPYJWerDytczFcUuso1FFnytkboHNriCWkhqK8VvJgcF4NtMVNVPt7mAEmGXetFDaeESQji"

/-- The bytes of the address. -/
def publicKeyBytes : List UInt8 :=
  Borsh.leBytes 32 0x2cd2461469ea1e42927bbebeae764795f9c52e137b50f5be0a529ce2636c4aea

/-- The bytes of the signature. -/
def signatureBytes : List UInt8 :=
  Borsh.leBytes 64
    (0x01cc012d545dcd40dc72079c9672b63d7ef2cd6c6a406e530cda973c7ca3ce92 * 2 ^ 256 +
      0x334896bf76f4a836e5054521cf1596ca51aea5bcb59fabf64d6ef4c65f3d9f04)

/-- A library that knows the pair, and one signature of it. -/
def nacl : Nacl where
  decode text :=
    if text = address then some publicKeyBytes
    else if text = signature then some signatureBytes
    else none
  verify _ signature publicKey :=
    some (decide (signature = signatureBytes ∧ publicKey = publicKeyBytes))

/-- A gateway whose hash tells three refresh tokens apart. -/
def gateway : AuthDeps where
  domain := "arena.test"
  accessTtlSeconds := 900
  jwtSign _ _ := "token"
  hashToken token :=
    if token = "r0" then "dd191696e15e2ee293410d02454c5f9461a2249dee6d57c75f264eaeb83a3782"
    else if token = "r1" then "82f3e9c695dc6b8d1b11818d5701919e286de8d47f7c3eb3100c485f79e57828"
    else "db77fd01af957221a4989b64b3770a83a3c56068405b9f0e9408feae57fd17e4"
  nacl

/-- Before the first request. -/
def noSessions : System Store Call := ⟨⟨0, .empty, .empty, [], .empty, emptyHistory⟩, .empty⟩

theorem noSessions_genesis : Genesis noSessions := ⟨rfl, rfl, rfl, rfl, rfl, rfl⟩

/-- A call that gets each of its answers: the random text and the ids it draws, one after the
other. -/
def called (r : ℕ) (request : Request) (draws : List (String × ℕ × ℕ)) :
    List (Act Call Answer Outside) :=
  .start r ⟨request, .start, false⟩ :: draws.map fun x => .resume r (.ok x.1 x.2.1 x.2.2)

end SnakeArena.Auth
