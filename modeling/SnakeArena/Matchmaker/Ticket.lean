import Mathlib.Data.String.Basic

/-!
# Matchmaker — join tickets

`placement/ticket.ts`, and the copy of `verifyTicket` in the realtime node's
`io/middleware/authenticate.ts`.  JSON, base64url and the HMAC are a `TicketFormat`: what a
payload is written as, what is read from it, and its signature.
-/

namespace SnakeArena.Matchmaker

structure TicketClaims where
  playerId : String
  wallet : String
  roomId : String
  nodeId : String
  nickname : String
  /-- Absent for direct entry. -/
  gameId : Option String
  issuedAt : ℕ
  expiresAt : ℕ
deriving DecidableEq

def ticketTtlMs : ℕ := 30000

structure TicketFormat where
  /-- The claims as JSON, in base64url. -/
  payload : TicketClaims → String
  /-- What `JSON.parse` reads back; none if it throws, or if `expiresAt` is not a number. -/
  parse : String → Option TicketClaims
  /-- HMAC-SHA256 under a secret, in base64url. -/
  sign : String → String → String

def mintTicket (format : TicketFormat) (claims : TicketClaims) (secret : String) : String :=
  format.payload claims ++ "." ++ format.sign secret (format.payload claims)

def buildTicketClaims (playerId wallet roomId nodeId nickname : String) (gameId : Option String)
    (now : ℕ) : TicketClaims :=
  ⟨playerId, wallet, roomId, nodeId, nickname, gameId, now, now + ticketTtlMs⟩

/-- Why the realtime node does not take a ticket. -/
inductive TicketError where
  | malformed | signature | expired
deriving DecidableEq

def TicketError.message : TicketError → String
  | .malformed => "malformed ticket"
  | .signature => "bad ticket signature"
  | .expired => "ticket expired"

/-- The realtime node's. -/
def verifyTicket (format : TicketFormat) (ticket secret : String) (now : ℕ) :
    Except TicketError TicketClaims :=
  match (ticket.toList.splitOn '.').map String.ofList with
  | [payload, signature] =>
      if format.sign secret payload ≠ signature then .error .signature
      else
        match format.parse payload with
        | none => .error .expired
        | some claims => if claims.expiresAt ≤ now then .error .expired else .ok claims
  | _ => .error .malformed

/-- A ticket that was good once is good until it expires. -/
theorem verifyTicket_later {format : TicketFormat} {ticket secret : String} {now now' : ℕ}
    {claims : TicketClaims} (h : verifyTicket format ticket secret now = .ok claims) :
    verifyTicket format ticket secret now' =
      if claims.expiresAt ≤ now' then .error .expired else .ok claims := by
  unfold verifyTicket at h ⊢
  split at h
  · split at h
    · cases h
    next hsign =>
      rw [if_neg hsign]
      split at h
      · cases h
      · split at h
        · cases h
        · obtain rfl := Except.ok.inj h
          rfl
  · cases h

/-- The format writes no point, and reads back what it wrote. -/
structure TicketFormat.Reads (format : TicketFormat) (claims : TicketClaims) (secret : String) :
    Prop where
  parse : format.parse (format.payload claims) = some claims
  payload : '.' ∉ (format.payload claims).toList
  signature : '.' ∉ (format.sign secret (format.payload claims)).toList

/-- A ticket that was minted is good until its claims expire. -/
theorem verifyTicket_minted {format : TicketFormat} {claims : TicketClaims} {secret : String}
    (h : format.Reads claims secret) (now : ℕ) :
    verifyTicket format (mintTicket format claims secret) secret now =
      if claims.expiresAt ≤ now then .error .expired else .ok claims := by
  have hsplit : (mintTicket format claims secret).toList.splitOn '.' =
      [(format.payload claims).toList, (format.sign secret (format.payload claims)).toList] := by
    rw [mintTicket, String.toList_append, String.toList_append, List.append_assoc]
    exact (List.splitOn_append_cons_self_of_not_mem h.payload _).trans
      (congrArg _ (List.splitOn_eq_singleton h.signature))
  rw [verifyTicket, hsplit]
  simp only [List.map_cons, List.map_nil, String.ofList_toList, ne_eq, not_true_eq_false, if_false,
    h.parse]

end SnakeArena.Matchmaker
