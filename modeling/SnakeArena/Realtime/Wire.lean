import SnakeArena.Matchmaker.Wire

/-!
# Realtime — a join ticket as it arrives

`verifyTicket` of `io/middleware/authenticate.ts`, which mirrors the matchmaker's.  The two throw
different errors, and so do the parser and the property of `null`; what they accept is the same.

* `one_format`: the two agree on every ticket, and a minted one comes back as it was built.
-/

namespace SnakeArena.Realtime.Wire
open SnakeArena.Library SnakeArena.Matchmaker.Wire
open Utf16 (scalars utf8)

inductive Thrown where
  | error (message : String)
  | syntaxError
  | typeError
deriving DecidableEq

def verifyTicket (hmac : Hmac) (ticket secret : Utf16.Units) (now : ℚ) : Except Thrown Json :=
  match ticket.splitOn POINT with
  | [payload, signature] =>
      let expected := utf8 (base64url (hmac secret (utf8 payload)))
      let provided := utf8 signature
      if expected.length ≠ provided.length ∨ expected ≠ provided then
        .error (.error "bad ticket signature")
      else
        match Json.parse (Utf8.decode (Base64.decode (scalars payload))) with
        | none => .error .syntaxError
        | some claims =>
            match expiresAt claims with
            | .error () => .error .typeError
            | .ok expiresAt =>
                if isExpired now expiresAt then .error (.error "ticket expired") else .ok claims
  | _ => .error (.error "malformed ticket")

theorem verifyTicket_agrees (hmac : Hmac) (ticket secret : Utf16.Units) (now : ℚ) :
    (Matchmaker.Wire.verifyTicket hmac ticket secret now).toOption =
      (verifyTicket hmac ticket secret now).toOption := by
  rw [Matchmaker.Wire.verifyTicket, verifyTicket]
  rcases ticket.splitOn POINT with _ | ⟨payload, _ | ⟨signature, _ | ⟨more, rest⟩⟩⟩
  · rfl
  · rfl
  · dsimp only
    rw [sign]
    split_ifs
    · rfl
    · cases Json.parse (Utf8.decode (Base64.decode (scalars payload))) with
      | none => rfl
      | some claims =>
          dsimp only
          cases expiresAt claims with
          | error _ => rfl
          | ok expiresAt =>
              dsimp only
              split_ifs <;> rfl
  · rfl

/-- **One format in two places.** -/
theorem one_format {hmac : Hmac} (hhmac : Function.Injective2 hmac) :
    (∀ ticket secret now,
      (Matchmaker.Wire.verifyTicket hmac ticket secret now).toOption =
        (verifyTicket hmac ticket secret now).toOption) ∧
    ∀ (params : TicketParams) (secret : Utf16.Units),
      let ticket := mintTicket hmac (buildTicketClaims params) secret
      let expiresAt := params.now.ms + Matchmaker.ticketTtlMs
      (∀ now < (expiresAt : ℚ), Matchmaker.Wire.verifyTicket hmac ticket secret now =
        .ok (Json.object (buildTicketClaims params))) ∧
      (∀ now ≥ (expiresAt : ℚ), Matchmaker.Wire.verifyTicket hmac ticket secret now =
        .error (.ticketError .expired "Ticket has expired")) ∧
      ∀ secret' ≠ secret, ∀ now, Matchmaker.Wire.verifyTicket hmac ticket secret' now =
        .error (.ticketError .badSignature "Ticket signature is invalid") := by
  refine ⟨verifyTicket_agrees hmac, fun params secret => ⟨fun now hnow => ?_, fun now hnow => ?_,
    fun secret' hne now => verifyTicket_other hhmac _ hne now⟩⟩
  · rw [verifyTicket_mintTicket, if_neg (not_le.mpr hnow)]
  · rw [verifyTicket_mintTicket, if_pos hnow]

/-! A signature that is the secret, its end marked, and the payload. -/

def marked (secret : Utf16.Units) (data : Utf8.Bytes) : Utf8.Bytes :=
  secret.flatMap (fun u => [1, .ofNat (u.toNat / 256), .ofNat (u.toNat % 256)]) ++ 0 :: data

theorem marked_injective : Function.Injective2 marked := by
  intro secret secret' data data' h
  induction secret generalizing secret' with
  | nil =>
      cases secret' with
      | nil => exact ⟨rfl, by simpa [marked] using h⟩
      | cons u' secret' => simp [marked] at h
  | cons u secret ih =>
      cases secret' with
      | nil => simp [marked] at h
      | cons u' secret' =>
          have := u.toNat_lt
          have := u'.toNat_lt
          simp only [marked, List.flatMap_cons, List.cons_append, List.nil_append,
            List.cons.injEq, true_and] at h
          obtain ⟨hhigh, hlow, hrest⟩ := h
          have hhigh := congrArg UInt8.toNat hhigh
          have hlow := congrArg UInt8.toNat hlow
          rw [Utf8.toNat_ofNat_byte (by omega), Utf8.toNat_ofNat_byte (by omega)] at hhigh hlow
          obtain ⟨rfl, hdata⟩ := ih hrest
          have hu : u = u' := UInt16.toNat_inj.mp (by omega)
          exact ⟨congrArg (· :: secret) hu, hdata⟩

/-- A player with a surrogate that stands alone for a name. -/
def lonely : TicketParams where
  playerId := key "p"
  wallet := key "w"
  roomId := key "r"
  nodeId := key "n"
  nickname := [0xd83d]
  gameId := some (key "g")
  now := ⟨1000, by decide⟩

theorem one_format_lonely :
    (verifyTicket marked (mintTicket marked (buildTicketClaims lonely) (key "s")) (key "s")
        30999).toOption = some (Json.object (buildTicketClaims lonely)) ∧
      Matchmaker.Wire.verifyTicket marked (mintTicket marked (buildTicketClaims lonely) (key "s"))
        (key "t") 1000 = .error (.ticketError .badSignature "Ticket signature is invalid") := by
  obtain ⟨hagree, hminted⟩ := one_format marked_injective
  obtain ⟨hbefore, -, hother⟩ := hminted lonely (key "s")
  refine ⟨?_, hother _ (by decide) _⟩
  rw [← hagree, hbefore 30999]
  · rfl
  · norm_num [lonely, Matchmaker.ticketTtlMs]

end SnakeArena.Realtime.Wire
