import Mathlib.Data.List.Basic
import Mathlib.Tactic.Common

/-!
# Auth — the message a wallet signs

`solana/src/auth/message.ts` and `verify.ts`.  The address of a wallet is its public key, so a
signature over the message is checked against the address itself.  Base58 and ed25519 are a
package of their own (`Nacl`).
-/

namespace SnakeArena.Auth

/-! ### Dates -/

/-- The Gregorian date of a day, counted from 1970-01-01. -/
def civil (days : ℕ) : ℕ × ℕ × ℕ :=
  let z := days + 719468
  let era := z / 146097
  let dayOfEra := z % 146097
  let yearOfEra :=
    (dayOfEra - dayOfEra / 1460 + dayOfEra / 36524 - dayOfEra / 146096) / 365
  let dayOfYear := dayOfEra - (365 * yearOfEra + yearOfEra / 4 - yearOfEra / 100)
  -- years that begin in March
  let month := (5 * dayOfYear + 2) / 153
  let day := dayOfYear - (153 * month + 2) / 5 + 1
  let year := yearOfEra + era * 400
  if month < 10 then (year, month + 3, day) else (year + 1, month - 9, day)

def pad (width n : ℕ) : String :=
  let digits := Nat.toDigits 10 n
  String.ofList (List.replicate (width - digits.length) '0' ++ digits)

/-- `Date.prototype.toISOString`, of milliseconds. -/
def toISOString (ms : ℕ) : String :=
  let (year, month, day) := civil (ms / 86400000)
  let time := ms % 86400000
  (if year ≤ 9999 then pad 4 year else "+" ++ pad 6 year) ++ "-" ++ pad 2 month ++ "-" ++
    pad 2 day ++ "T" ++ pad 2 (time / 3600000) ++ ":" ++ pad 2 (time / 60000 % 60) ++ ":" ++
    pad 2 (time / 1000 % 60) ++ "." ++ pad 3 (time % 1000) ++ "Z"

example : toISOString 1785412800000 = "2026-07-30T12:00:00.000Z" := by decide

/-! ### The message -/

def defaultStatement : String :=
  "Sign this message to authenticate. " ++
    "This request will not trigger a transaction or cost any fees."

structure AuthMessageParams where
  domain : String
  wallet : String
  nonce : String
  issuedAt : String
  expiresAt : String
  statement : String := defaultStatement
deriving DecidableEq

/-- The exact string a wallet signs. -/
def buildAuthMessage (p : AuthMessageParams) : String :=
  "\n".intercalate
    [p.domain ++ " wants you to sign in with your Solana account:", p.wallet, "", p.statement, "",
      "Nonce: " ++ p.nonce, "Issued At: " ++ p.issuedAt, "Expires At: " ++ p.expiresAt]

/-! ### Signatures -/

/-- `bs58` and `tweetnacl`; none is a throw. -/
structure Nacl where
  decode : String → Option (List UInt8)
  /-- `nacl.sign.detached.verify`, of message, signature and public key. -/
  verify : List UInt8 → List UInt8 → List UInt8 → Option Bool

/-- Verifies a signature over a UTF-8 message. -/
def Nacl.verifySignature (nacl : Nacl) (message signature wallet : String) : Bool :=
  match nacl.decode wallet, nacl.decode signature with
  | some publicKey, some signature =>
      -- the package throws on a wrong size
      if publicKey.length ≠ 32 ∨ signature.length ≠ 64 then false
      else (nacl.verify message.toUTF8.toList signature publicKey).getD false
  | _, _ => false

end SnakeArena.Auth
