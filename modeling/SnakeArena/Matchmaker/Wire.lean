import SnakeArena.Library.Base64
import SnakeArena.Library.Json
import SnakeArena.Matchmaker.Ticket

/-!
# Matchmaker — a join ticket as it is sent

`placement/ticket.ts`, down to the units of a ticket: the claims as JSON, in UTF-8, in base64url,
and after a point the HMAC of that in base64url.  Only the HMAC is a parameter.

A payload is whatever was signed, and nothing checks its shape: what is accepted is the value that
`JSON.parse` reads, if it has a number for `expiresAt`.

* `verifyTicket_mintTicket`: what was minted is accepted until it expires.
-/

namespace SnakeArena.Matchmaker.Wire
open SnakeArena.Library
open Json (Scalar)
open Utf8 (Bytes)
open Utf16 (Units ofChars scalars utf8)

/-- `createHmac('sha256', secret).update(payload).digest()`, of the bytes of the payload. -/
abbrev Hmac := Units → Bytes → Bytes

/-- A reading of the clock, within what a `Date` can hold. -/
structure EpochMs where
  ms : ℕ
  inRange : ms ≤ 8640000000000000

/-- The claims, as the object they are. -/
abbrev TicketClaims := List (Units × Scalar)

def key (name : String) : Units := ofChars name.toList

def POINT : UInt16 := 0x2e

def base64url (input : Bytes) : Units := ofChars (Base64.encode input)

def sign (hmac : Hmac) (payload secret : Units) : Units := base64url (hmac secret (utf8 payload))

def mintTicket (hmac : Hmac) (claims : TicketClaims) (secret : Units) : Units :=
  let payload := base64url (utf8 (ofChars (Json.stringify claims)))
  payload ++ POINT :: sign hmac payload secret

inductive TicketErrorReason where
  | malformed | badSignature | expired
deriving DecidableEq

inductive Thrown where
  | ticketError (reason : TicketErrorReason) (message : String)
  /-- A property of `null` is asked for. -/
  | typeError
deriving DecidableEq

/-- `claims.expiresAt`. -/
def expiresAt : Json → Except Unit (Option Json)
  | .null => .error ()
  | claims => .ok (claims.get (key "expiresAt"))

/-- It is not a number, or not after `now`. -/
def isExpired (now : ℚ) : Option Json → Bool
  | some (.num (.finite q)) => q ≤ now
  | some (.num (.infinity negative)) => negative
  | _ => true

def verifyTicket (hmac : Hmac) (ticket secret : Units) (now : ℚ) : Except Thrown Json :=
  match ticket.splitOn POINT with
  | [payload, signature] =>
      let expected := utf8 (sign hmac payload secret)
      let provided := utf8 signature
      if expected.length ≠ provided.length ∨ expected ≠ provided then
        .error (.ticketError .badSignature "Ticket signature is invalid")
      else
        match Json.parse (Utf8.decode (Base64.decode (scalars payload))) with
        | none => .error (.ticketError .malformed "Ticket payload is not valid JSON")
        | some claims =>
            match expiresAt claims with
            | .error () => .error .typeError
            | .ok expiresAt =>
                if isExpired now expiresAt then
                  .error (.ticketError .expired "Ticket has expired")
                else .ok claims
  | _ => .error (.ticketError .malformed "Ticket is malformed")

structure TicketParams where
  playerId : Units
  wallet : Units
  roomId : Units
  nodeId : Units
  nickname : Units
  gameId : Option Units
  now : EpochMs

def buildTicketClaims (params : TicketParams) : TicketClaims :=
  [(key "playerId", .text params.playerId), (key "wallet", .text params.wallet),
    (key "roomId", .text params.roomId), (key "nodeId", .text params.nodeId),
    (key "nickname", .text params.nickname)] ++
  -- omitted rather than set to undefined
  (match params.gameId with
    | none => []
    | some gameId => [(key "gameId", .text gameId)]) ++
  [(key "issuedAt", .integer params.now.ms),
    (key "expiresAt", .integer (params.now.ms + ticketTtlMs))]

/-! ### What was minted -/

theorem point_not_mem (input : Bytes) : POINT ∉ base64url input := fun h =>
  Base64.encode_no_point input (Utf16.mem_ofChars (by decide) h)

theorem splitOn_ticket (input input' : Bytes) :
    (base64url input ++ POINT :: base64url input').splitOn POINT =
      [base64url input, base64url input'] := by
  rw [List.splitOn_append_cons_self_of_not_mem (point_not_mem input),
    List.splitOn_eq_singleton (point_not_mem input')]

/-- What is sent is read back. -/
theorem decode_payload (claims : TicketClaims) :
    Utf8.decode (Base64.decode (scalars (base64url (utf8 (ofChars (Json.stringify claims)))))) =
      Json.stringify claims := by
  rw [base64url, Utf16.scalars_ofChars, Base64.decode_encode, Utf16.utf8_ofChars,
    Utf8.decode_encode]

theorem utf8_base64url_inj {input input' : Bytes}
    (h : utf8 (base64url input) = utf8 (base64url input')) : input = input' := by
  rw [base64url, base64url, Utf16.utf8_ofChars, Utf16.utf8_ofChars] at h
  refine Base64.encode_inj ?_
  rw [← Utf8.decode_encode (Base64.encode input), h, Utf8.decode_encode]

section Claims
variable (params : TicketParams)

theorem buildTicketClaims_safe : ∀ member ∈ buildTicketClaims params, member.2.Safe := by
  have := params.now.inRange
  intro member hmember
  unfold buildTicketClaims at hmember
  cases hgame : params.gameId with
  | none =>
      simp only [hgame, List.append_nil, List.cons_append, List.nil_append, List.mem_cons,
        List.not_mem_nil, or_false] at hmember
      rcases hmember with rfl | rfl | rfl | rfl | rfl | rfl | rfl
      all_goals simp only [Scalar.Safe, ticketTtlMs]
      all_goals omega
  | some gameId =>
      simp only [hgame, List.cons_append, List.nil_append, List.mem_cons,
        List.not_mem_nil, or_false] at hmember
      rcases hmember with rfl | rfl | rfl | rfl | rfl | rfl | rfl | rfl
      all_goals simp only [Scalar.Safe, ticketTtlMs]
      all_goals omega

theorem buildTicketClaims_nodup : ((buildTicketClaims params).map Prod.fst).Nodup := by
  have hnames : (["playerId", "wallet", "roomId", "nodeId", "nickname", "gameId", "issuedAt",
      "expiresAt"].map key).Nodup := by decide
  unfold buildTicketClaims
  cases params.gameId with
  | none => exact hnames.sublist (by simp)
  | some gameId => exact hnames

theorem expiresAt_buildTicketClaims : expiresAt (Json.object (buildTicketClaims params)) =
    .ok (some (.num (.finite (params.now.ms + ticketTtlMs : ℕ)))) :=
  congrArg Except.ok (Json.get_object (buildTicketClaims_nodup params)
    (List.mem_append_right _ (List.mem_cons_of_mem _ List.mem_cons_self)))

/-- **A ticket that was minted** is accepted with its claims until it expires. -/
theorem verifyTicket_mintTicket (hmac : Hmac) (secret : Units) (now : ℚ) :
    verifyTicket hmac (mintTicket hmac (buildTicketClaims params) secret) secret now =
      if ((params.now.ms + ticketTtlMs : ℕ) : ℚ) ≤ now then
        .error (.ticketError .expired "Ticket has expired")
      else .ok (Json.object (buildTicketClaims params)) := by
  have hparse := Json.parse_stringify (buildTicketClaims_safe params)
    (buildTicketClaims_nodup params)
  rw [verifyTicket, mintTicket]
  dsimp only
  rw [sign, splitOn_ticket]
  dsimp only
  rw [if_neg (by simp [sign]), decode_payload, hparse]
  dsimp only
  rw [expiresAt_buildTicketClaims]
  simp only [isExpired, decide_eq_true_eq]

/-- A ticket minted with another secret is refused. -/
theorem verifyTicket_other {hmac : Hmac} (hhmac : Function.Injective2 hmac) (claims : TicketClaims)
    {secret secret' : Units} (h : secret' ≠ secret) (now : ℚ) :
    verifyTicket hmac (mintTicket hmac claims secret) secret' now =
      .error (.ticketError .badSignature "Ticket signature is invalid") := by
  rw [verifyTicket, mintTicket]
  dsimp only
  rw [sign, splitOn_ticket]
  dsimp only
  rw [if_pos]
  refine .inr fun heq => h ?_
  exact (hhmac (utf8_base64url_inj heq)).1

end Claims

end SnakeArena.Matchmaker.Wire
