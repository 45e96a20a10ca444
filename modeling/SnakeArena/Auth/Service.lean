import SnakeArena.Auth.Message
import SnakeArena.Library.Processes
import Mathlib.Data.List.Sort

/-!
# Auth — sign-in, sessions and rotation

`gateway/src/services/auth.service.ts`.  A call of one of its functions is a process that stops
at each await, on Redis or on the database; between two of them it runs alone, and any number of
calls run at a time.  An await can throw, and a call can crash where it waits.

The denylist of access tokens, and what a row keeps of the caller's browser and address, are
left out: nothing here reads them.
-/

namespace SnakeArena.Auth
open SnakeArena.Library

/-! ### Rows -/

inductive UserStatus where
  | active | shadowbanned | banned | closed
deriving DecidableEq

inductive UserRole where
  | player | moderator | admin
deriving DecidableEq

structure User where
  username : Option String
  displayName : Option String
  role : UserRole
  status : UserStatus
  createdAt : ℕ
  lastSeenAt : Option ℕ
deriving DecidableEq

/-- May neither sign in nor refresh. -/
def User.barred (user : User) : Bool := user.status = .banned || user.status = .closed

structure Wallet where
  id : ℕ
  userId : ℕ
  /-- Globally unique: one address, one owner. -/
  address : String
  isPrimary : Bool
  /-- Set when the signature challenge succeeded.  None means unproven. -/
  verifiedAt : Option ℕ
  createdAt : ℕ
deriving DecidableEq

/-- `orderBy: [{ isPrimary: 'desc' }, { createdAt: 'asc' }]`. -/
def Wallet.before (a b : Wallet) : Prop :=
  (a.isPrimary = true ∧ b.isPrimary = false) ∨
    (a.isPrimary = b.isPrimary ∧ a.createdAt ≤ b.createdAt)

instance : DecidableRel Wallet.before := fun a b => by unfold Wallet.before; infer_instance

/-- A refresh token, kept under the hash of the token. -/
structure RefreshToken where
  userId : ℕ
  /-- The sign-in it descends from. -/
  familyId : ℕ
  expiresAt : ℕ
  revokedAt : Option ℕ
deriving DecidableEq

/-- What Redis keeps of a challenge, the times as ISO text. -/
structure NonceRecord where
  nonce : String
  issuedAt : ℕ
  expiresAt : ℕ
deriving DecidableEq

/-- A key of Redis with its `EX`. -/
structure Held where
  record : NonceRecord
  deadline : ℕ
deriving DecidableEq

def nonceTtlSeconds : ℕ := 300

def refreshTtlSeconds : ℕ := 30 * 24 * 60 * 60

/-! ### Requests and replies -/

inductive Request where
  | issueNonce (wallet : String)
  | verifyWalletSignature (wallet signature nonce : String)
  | connectWallet (wallet : String) (nickname : Option String)
  | rotateRefreshToken (refreshToken : String)
  | logout (userId : ℕ)
  | revokeAllSessions (userId : ℕ)

structure AccessTokenClaims where
  sub : ℕ
  wallet : String
  role : UserRole
  jti : ℕ
  nickname : Option String

structure IssuedNonce where
  record : NonceRecord
  message : String

structure IssuedSession where
  playerId : ℕ
  wallet : String
  nickname : Option String
  role : UserRole
  createdAt : ℕ
  accessToken : String
  refreshToken : String
  expiresIn : ℕ

inductive Reply where
  | nonce (issued : IssuedNonce)
  | session (issued : IssuedSession)
  | done

structure AppError where
  statusCode : ℕ
  code : String
  message : String
deriving DecidableEq

def unauthorized (message : String) : AppError := ⟨401, "UNAUTHORIZED", message⟩

def forbidden (message : String) : AppError := ⟨403, "FORBIDDEN", message⟩

/-- What a throw of Redis or of the database becomes. -/
def internal : AppError := ⟨500, "INTERNAL", "Internal server error"⟩

def tokenReuse : AppError :=
  ⟨401, "TOKEN_REUSE_DETECTED", "Session revoked: refresh token was reused"⟩

structure AuthDeps where
  domain : String
  accessTtlSeconds : ℕ
  jwtSign : AccessTokenClaims → String → String
  /-- SHA-256, in hexadecimal. -/
  hashToken : String → String
  nacl : Nacl

def AuthDeps.message (deps : AuthDeps) (wallet : String) (record : NonceRecord) : String :=
  buildAuthMessage
    { domain := deps.domain
      wallet
      nonce := record.nonce
      issuedAt := toISOString record.issuedAt
      expiresAt := toISOString record.expiresAt }

/-! ### What happened

No service stores any of this. -/

/-- A challenge taken from Redis by a call that began at `began`. -/
structure Attempt where
  wallet : String
  record : NonceRecord
  began : ℕ
  /-- How many challenges had been issued when it was taken. -/
  issued : ℕ
deriving DecidableEq

/-- What a session was opened on. -/
inductive Origin where
  | signed (attempt : Attempt)
  | connected
  | rotated (tokenHash : String)
deriving DecidableEq

structure Session where
  origin : Origin
  userId : ℕ
  familyId : ℕ
  tokenHash : String
  openedAt : ℕ
deriving DecidableEq

structure Response where
  request : Request
  /-- The refresh token of the request had been presented before. -/
  again : Bool
  result : Except AppError Reply

structure History where
  /-- What wallets have signed. -/
  signed : List (String × String)
  drawn : List String
  /-- The challenges, as Redis got them. -/
  issued : List (String × NonceRecord)
  attempts : List Attempt
  /-- The addresses a signature was checked for. -/
  proven : List String
  sessions : List Session
  /-- The hash of each refresh token found for a rotation. -/
  presented : List String
  /-- The families of the sessions that a logout or a ban ended. -/
  ended : List ℕ
  responses : List Response

structure Store where
  clock : ℕ
  /-- `auth:nonce:`. -/
  nonces : Table String Held
  users : Table ℕ User
  wallets : List Wallet
  refreshTokens : Table String RefreshToken
  history : History

namespace Store

def wallet (s : Store) (address : String) : Option Wallet := s.wallets.find? (·.address = address)

/-- The wallet a session is of. -/
def sessionWallet (s : Store) (userId : ℕ) : Option String :=
  ((s.wallets.filter fun w => w.userId = userId && w.verifiedAt.isSome).insertionSort
    Wallet.before).head?.map (·.address)

/-- What `GETDEL` answers. -/
def challenge (s : Store) (wallet : String) : Option NonceRecord :=
  match s.nonces.get wallet with
  | none => none
  | some held => if s.clock ≤ held.deadline then some held.record else none

def answer (s : Store) (response : Response) : Store :=
  { s with history := { s.history with responses := s.history.responses ++ [response] } }

def draw (s : Store) (nonce : String) : Store :=
  { s with history := { s.history with drawn := nonce :: s.history.drawn } }

def setNonce (s : Store) (wallet : String) (record : NonceRecord) : Store :=
  { s with
    nonces := s.nonces.upd wallet ⟨record, s.clock + nonceTtlSeconds * 1000⟩
    history := { s.history with issued := s.history.issued ++ [(wallet, record)] } }

/-- `GETDEL`. -/
def getdel (s : Store) (wallet : String) : Store := { s with nonces := s.nonces.del wallet }

def attempt (s : Store) (attempt : Attempt) : Store :=
  { s with history := { s.history with attempts := s.history.attempts ++ [attempt] } }

def prove (s : Store) (wallet : String) : Store :=
  { s with history := { s.history with proven := wallet :: s.history.proven } }

/-- One transaction over the wallet and its user. -/
def stamp (s : Store) (wallet : Wallet) (row : User) (now : ℕ) : Store :=
  { s with
    wallets := s.wallets.map fun w =>
      if w.id = wallet.id then { w with verifiedAt := some now } else w
    users := s.users.upd wallet.userId { row with lastSeenAt := some now } }

/-- A user and the wallet, in one write. -/
def createOwner (s : Store) (userId walletId : ℕ) (user : User) (address : String) (now : ℕ) :
    Store :=
  { s with
    users := s.users.upd userId user
    wallets := s.wallets ++ [⟨walletId, userId, address, true, some now, s.clock⟩] }

def createToken (s : Store) (tokenHash : String) (row : RefreshToken) (origin : Origin) : Store :=
  { s with
    refreshTokens := s.refreshTokens.upd tokenHash row
    history := { s.history with
      sessions := s.history.sessions ++ [⟨origin, row.userId, row.familyId, tokenHash, s.clock⟩] } }

def present (s : Store) (tokenHash : String) : Store :=
  { s with history := { s.history with presented := tokenHash :: s.history.presented } }

def revokeToken (s : Store) (tokenHash : String) (row : RefreshToken) (now : ℕ) : Store :=
  { s with refreshTokens := s.refreshTokens.upd tokenHash { row with revokedAt := some now } }

/-- Revokes the rows of some kind that are not revoked yet. -/
def revokeMany (s : Store) (p : RefreshToken → Bool) (now : ℕ) : Store :=
  { s with
    refreshTokens := s.refreshTokens.map fun _ row =>
      if p row && row.revokedAt.isNone then { row with revokedAt := some now } else row }

def endSessions (s : Store) (userId : ℕ) : Store :=
  { s with
    history := { s.history with
      ended := s.history.ended ++
        (s.history.sessions.filter (·.userId = userId)).map (·.familyId) } }

end Store

/-! ### Calls -/

/-- On which way a wallet's owner is looked up. -/
inductive Flow where
  | signing (attempt : Attempt)
  | connecting (nickname : Option String)

def Flow.origin : Flow → Origin
  | .signing attempt => .signed attempt
  | .connecting _ => .connected

def Flow.refusal : Flow → AppError
  | .signing _ => forbidden "This account is not permitted to sign in"
  | .connecting _ => forbidden "This account is not permitted to play"

/-- The await a call stops at, with what it has read so far. -/
inductive Point where
  | start
  | setNonce (wallet : String) (record : NonceRecord)
  | takeNonce (wallet signature nonce : String) (now : ℕ)
  | findOwner (flow : Flow) (address : String) (now : ℕ)
  | stampOwner (flow : Flow) (wallet : Wallet) (user : User) (now : ℕ)
  | createOwner (flow : Flow) (address : String) (now : ℕ)
  | rename (userId : ℕ) (nickname : String) (now : ℕ)
  | findWallet (origin : Origin) (userId : ℕ) (user : User) (now : ℕ) (familyId : Option ℕ)
  | insertToken (origin : Origin) (issued : IssuedSession) (now familyId : ℕ)
  | findToken (refreshToken : String) (now : ℕ)
  | burnFamily (familyId now : ℕ)
  | revokeToken (tokenHash : String) (row : RefreshToken) (user : User) (now : ℕ)
  | revokeTokens (userId now : ℕ)

structure Call where
  request : Request
  point : Point
  /-- The refresh token of the request had been presented before. -/
  again : Bool

/-- What an await answers.  Where the answer is a row, it is the row in the store; what a call
draws at random before its next await is here. -/
inductive Answer where
  | ok (random : String) (uuid uuid' : ℕ)
  | throw

inductive Outside where
  | tick (clock : ℕ)
  /-- The owner of a wallet signs. -/
  | sign (wallet message : String)
  /-- Another service writes a user: a ban, a profile. -/
  | user (userId : ℕ) (row : User)

namespace Call

def goto (p : Call) (s : Store) (point : Point) : Store × Option Call := (s, some { p with point })

def respond (p : Call) (s : Store) (result : Except AppError Reply) : Store × Option Call :=
  (s.answer ⟨p.request, p.again, result⟩, none)

/-- Where a function first waits. -/
def begin (s : Store) (p : Call) (random : String) : Store × Option Call :=
  let now := s.clock
  match p.request with
  | .issueNonce wallet =>
      p.goto (s.draw random) (.setNonce wallet ⟨random, now, now + nonceTtlSeconds * 1000⟩)
  | .verifyWalletSignature wallet signature nonce =>
      p.goto s (.takeNonce wallet signature nonce now)
  | .connectWallet wallet nickname => p.goto s (.findOwner (.connecting nickname) wallet now)
  | .rotateRefreshToken refreshToken => p.goto s (.findToken refreshToken now)
  | .logout userId | .revokeAllSessions userId => p.goto s (.revokeTokens userId now)

/-- The challenge taken from Redis is checked. -/
def check (deps : AuthDeps) (s : Store) (p : Call) (signature nonce : String) (attempt : Attempt) :
    Store × Option Call :=
  let wallet := attempt.wallet
  let record := attempt.record
  if record.nonce ≠ nonce then
    p.respond s (.error (unauthorized "Nonce does not match the outstanding challenge"))
  else if record.expiresAt < attempt.began then
    p.respond s (.error (unauthorized "Nonce has expired"))
  -- rebuilt from server state, never from anything the client sent
  else if deps.nacl.verifySignature (deps.message wallet record) signature wallet = false then
    p.respond s (.error (unauthorized "Signature does not match the wallet"))
  else p.goto (s.prove wallet) (.findOwner (.signing attempt) wallet attempt.began)

/-- The owner of the wallet is found, or created. -/
def signIn (s : Store) (p : Call) (flow : Flow) (userId : ℕ) (user : User) (now : ℕ) :
    Store × Option Call :=
  if user.barred then p.respond s (.error flow.refusal)
  else
    match flow with
    | .connecting (some nickname) =>
        if some nickname ≠ user.displayName then p.goto s (.rename userId nickname now)
        else p.goto s (.findWallet .connected userId user now none)
    | _ => p.goto s (.findWallet flow.origin userId user now none)

/-- A presented token that is known. -/
def present (s : Store) (p : Call) (tokenHash : String) (row : RefreshToken) (user : User)
    (now : ℕ) : Store × Option Call :=
  let p := { p with again := decide (tokenHash ∈ s.history.presented) }
  let s := s.present tokenHash
  if row.revokedAt.isSome then p.goto s (.burnFamily row.familyId now)
  else if row.expiresAt < now then
    p.respond s (.error (unauthorized "Refresh token has expired"))
  else if user.barred then
    p.respond s (.error (forbidden "This account is not permitted to sign in"))
  else p.goto s (.revokeToken tokenHash row user now)

/-- The tokens of a new session. -/
def issue (deps : AuthDeps) (s : Store) (random : String) (jti userId : ℕ) (user : User) :
    IssuedSession :=
  let wallet := (s.sessionWallet userId).getD ""
  let nickname := user.displayName <|> user.username
  { playerId := userId
    wallet
    nickname
    role := user.role
    createdAt := user.createdAt
    accessToken :=
      deps.jwtSign ⟨userId, wallet, user.role, jti, nickname⟩
        (toString deps.accessTtlSeconds ++ "s")
    refreshToken := random
    expiresIn := deps.accessTtlSeconds }

/-- A function, from one await to the next. -/
def resume (deps : AuthDeps) (_ : ℕ) (s : Store) (p : Call) : Answer → Store × Option Call
  | .throw => p.respond s (.error internal)
  | .ok random uuid uuid' =>
      match p.point with
      | .start => p.begin s random
      | .setNonce wallet record =>
          p.respond (s.setNonce wallet record) (.ok (.nonce ⟨record, deps.message wallet record⟩))
      | .takeNonce wallet signature nonce now =>
          match s.challenge wallet with
          | none =>
              p.respond (s.getdel wallet)
                (.error (unauthorized "Nonce is unknown, expired or already used"))
          | some record =>
              let attempt : Attempt := ⟨wallet, record, now, s.history.issued.length⟩
              p.check deps ((s.getdel wallet).attempt attempt) signature nonce attempt
      | .findOwner flow address now =>
          match s.wallet address with
          | none => p.goto s (.createOwner flow address now)
          | some wallet =>
              match s.users.get wallet.userId with
              | none => p.respond s (.error internal)
              | some user => p.goto s (.stampOwner flow wallet user now)
      | .stampOwner flow wallet user now =>
          match s.users.get wallet.userId with
          | none => p.respond s (.error internal)
          | some row => p.signIn (s.stamp wallet row now) flow wallet.userId user now
      | .createOwner flow address now =>
          -- unique ids and addresses
          if (s.users.get uuid).isSome ∨
            s.wallets.any (fun w => w.id = uuid' || w.address = address)
          then p.respond s (.error internal)
          else
            let user : User := ⟨none, none, .player, .active, s.clock, some now⟩
            p.signIn (s.createOwner uuid uuid' user address now) flow uuid user now
      | .rename userId nickname now =>
          match s.users.get userId with
          | none => p.respond s (.error internal)
          | some row =>
              let owner := { row with displayName := some nickname }
              p.goto { s with users := s.users.upd userId owner }
                (.findWallet .connected userId owner now none)
      | .findWallet origin userId user now familyId =>
          p.goto s (.insertToken origin (issue deps s random uuid userId user) now
            (familyId.getD uuid'))
      | .insertToken origin issued now familyId =>
          let tokenHash := deps.hashToken issued.refreshToken
          if (s.refreshTokens.get tokenHash).isSome then p.respond s (.error internal)
          else
            p.respond
              (s.createToken tokenHash
                ⟨issued.playerId, familyId, now + refreshTtlSeconds * 1000, none⟩ origin)
              (.ok (.session issued))
      | .findToken refreshToken now =>
          let tokenHash := deps.hashToken refreshToken
          match s.refreshTokens.get tokenHash with
          | none => p.respond s (.error (unauthorized "Refresh token is not recognised"))
          | some row =>
              match s.users.get row.userId with
              | none => p.respond s (.error internal)
              | some user => p.present s tokenHash row user now
      | .burnFamily familyId now =>
          p.respond (s.revokeMany (·.familyId = familyId) now) (.error tokenReuse)
      -- revoke first, issue second
      | .revokeToken tokenHash row user now =>
          match s.refreshTokens.get tokenHash with
          | none => p.respond s (.error internal)
          | some current =>
              p.goto (s.revokeToken tokenHash current now)
                (.findWallet (.rotated tokenHash) row.userId user now (some row.familyId))
      | .revokeTokens userId now =>
          p.respond ((s.revokeMany (·.userId = userId) now).endSessions userId) (.ok .done)

end Call

def outside (s : Store) : Outside → Option Store
  | .tick clock => if s.clock ≤ clock then some { s with clock } else none
  | .sign wallet message =>
      some { s with history := { s.history with signed := (wallet, message) :: s.history.signed } }
  | .user userId row => some { s with users := s.users.upd userId row }

/-- Any number of calls over one Redis and one database. -/
def calls (deps : AuthDeps) : Processes Store Call Answer Outside where
  starts p :=
    match p.point with
    | .start => !p.again
    | _ => false
  resume := Call.resume deps
  other := outside

def emptyHistory : History := ⟨[], [], [], [], [], [], [], [], []⟩

/-- Before the first request. -/
def Genesis (s : System Store Call) : Prop :=
  s.store.nonces = .empty ∧ s.store.users = .empty ∧ s.store.wallets = [] ∧
    s.store.refreshTokens = .empty ∧ s.store.history = emptyHistory ∧ s.procs = .empty

theorem calls_starts {deps : AuthDeps} {p : Call} (h : (calls deps).starts p = true) :
    p.point = .start ∧ p.again = false := by
  simp only [calls] at h
  split at h
  next hpt => exact ⟨hpt, by simpa using h⟩
  · cases h

end SnakeArena.Auth
