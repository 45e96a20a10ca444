import Mathlib
import SnakeArena.Library.OrderedMap
import SnakeArena.Library.TokenBucket
import SnakeArena.Realtime.Chat

/-!
# Realtime — the event guard

`EventGuard` of `anticheat/event-guard.ts`, and the handlers of `io/handlers/connection.ts` behind
it: one guard for each socket, made with its handlers.  Token counts are exact.

A chat goes to every socket in the room, so that it is the cheapest amplification that a client
has.

* `flood_bounded`: what one socket makes the node send over any span, whatever it sends itself.
-/

namespace SnakeArena.Realtime
open SnakeArena.Library

structure EventLimit where
  ratePerSecond : ℚ
  burst : ℚ

def EVENT_LIMITS : List (String × EventLimit) :=
  [("chat", ⟨1 / 2, 3⟩), ("ping", ⟨4, 8⟩), ("respawn", ⟨1 / 2, 3⟩), ("join", ⟨1, 3⟩)]

/-- The bucket of an event, with times in milliseconds. -/
def EventLimit.bucket (limit : EventLimit) : TokenBucket ℚ :=
  ⟨limit.ratePerSecond / 1000, limit.burst⟩

structure EventBudget where
  tokens : ℚ
  lastRefillMs : ℚ

/-- One socket's budgets across every limited event. -/
structure EventGuard where
  budgets : OrderedMap String EventBudget

namespace EventGuard

def new : EventGuard := ⟨.empty⟩

/-- True when the event is allowed; consumes a token if so. -/
def allow (guard : EventGuard) (event : String) (now : ℚ) : Bool × EventGuard :=
  match EVENT_LIMITS.lookup event with
  -- an unlisted event is unlimited
  | none => (true, guard)
  | some limit =>
      let budget := (guard.budgets.get event).getD ⟨limit.burst, now⟩
      let elapsed := max 0 (now - budget.lastRefillMs)
      let tokens := min limit.burst (budget.tokens + elapsed / 1000 * limit.ratePerSecond)
      if tokens < 1 then (false, ⟨guard.budgets.set event ⟨tokens, now⟩⟩)
      else (true, ⟨guard.budgets.set event ⟨tokens - 1, now⟩⟩)

end EventGuard

/-! ### The handlers -/

inductive ClientEvent where
  | ping
  | respawn
  /-- With the body, where it is a string. -/
  | chat (body : Option Units)

/-- What comes in, and what the node knows then. -/
structure Arrival where
  event : ClientEvent
  now : ℚ
  /-- The player is. -/
  shadowbanned : Bool
  /-- The sockets in the room. -/
  members : List ℕ

inductive ServerEvent where
  | pong
  | respawned
  | chat (body : Units)

structure Delivery where
  recipient : ℕ
  event : ServerEvent

/-- `chatPayloadSchema`. -/
def chatBody (body : Option Units) : Option Units :=
  body.filter fun body => 1 ≤ body.length ∧ body.length ≤ CHAT_LENGTH

/-- What is sent for an event, and the guard after it. -/
def handle (socket : ℕ) (guard : EventGuard) (a : Arrival) : List Delivery × EventGuard :=
  match a.event with
  | .ping =>
      let (allowed, guard) := guard.allow "ping" a.now
      (if allowed then [⟨socket, .pong⟩] else [], guard)
  | .respawn =>
      let (allowed, guard) := guard.allow "respawn" a.now
      (if allowed then [⟨socket, .respawned⟩] else [], guard)
  | .chat body =>
      match chatBody body with
      | none => ([], guard)
      | some body =>
          let (allowed, guard) := guard.allow "chat" a.now
          if allowed then
            match sanitiseChat body with
            | none => ([], guard)
            | some body =>
                -- a shadowbanned player sees the message, and nobody else does
                if a.shadowbanned then ([⟨socket, .chat body⟩], guard)
                else (a.members.map fun member => ⟨member, .chat body⟩, guard)
          else ([], guard)

/-- An event of a socket, and what it made the node send. -/
structure Handled where
  arrival : Arrival
  sent : List Delivery

/-- The events of one socket. -/
def handled (socket : ℕ) : EventGuard → List Arrival → List Handled
  | _, [] => []
  | guard, a :: arrivals =>
      ⟨a, (handle socket guard a).1⟩ :: handled socket (handle socket guard a).2 arrivals

/-! ### One budget -/

/-- The event that the guard is asked for, where its handler asks. -/
def Arrival.asks (a : Arrival) : Option String :=
  match a.event with
  | .ping => some "ping"
  | .respawn => some "respawn"
  | .chat body => (chatBody body).map fun _ => "chat"

/-- The chats that come in a span. -/
def chats (answered : List Handled) (start stop : ℚ) : List Handled :=
  answered.filter fun h =>
    h.arrival.asks = some "chat" ∧ start ≤ h.arrival.now ∧ h.arrival.now ≤ stop

/-- What a guard holds of an event.  One that it was not asked for yet is full. -/
def EventGuard.level (guard : EventGuard) (limit : EventLimit) (event : String) :
    TokenBucket.Level ℚ :=
  ((guard.budgets.get event).map fun budget => ⟨budget.tokens, budget.lastRefillMs⟩).getD
    ⟨limit.burst, 0⟩

section Budget
variable {guard : EventGuard} {limit : EventLimit} {event other : String} {now : ℚ} {socket : ℕ}
  {a : Arrival}

/-- Asked for an event, the guard takes a token of it, and leaves the others. -/
theorem EventGuard.allow_take (hlimit : EVENT_LIMITS.lookup event = some limit)
    (hrate : 0 ≤ limit.ratePerSecond) :
    (guard.allow event now).1 = (limit.bucket.take (guard.level limit event) now).1 ∧
      (guard.allow event now).2.level limit event =
        (limit.bucket.take (guard.level limit event) now).2 := by
  have hbucket : 0 ≤ limit.bucket.rate := div_nonneg hrate (by norm_num)
  have hrefilled : min limit.burst (((guard.budgets.get event).getD ⟨limit.burst, now⟩).tokens +
      max 0 (now - ((guard.budgets.get event).getD ⟨limit.burst, now⟩).lastRefillMs) / 1000 *
        limit.ratePerSecond) = limit.bucket.refilled (guard.level limit event) now := by
    have hfull := TokenBucket.refilled_getD hbucket
      ((guard.budgets.get event).map fun budget => ⟨budget.tokens, budget.lastRefillMs⟩) 0 now
    rw [EventGuard.level]
    refine Eq.trans ?_ hfull.symm
    rcases guard.budgets.get event with _ | found
    all_goals
      simp only [Option.map_none, Option.map_some, Option.getD_none, Option.getD_some,
        TokenBucket.refilled, EventLimit.bucket]
      ring_nf
  unfold EventGuard.allow TokenBucket.take
  rw [hlimit]
  dsimp only
  rw [hrefilled]
  split_ifs with hempty
  · exact ⟨rfl, by simp [EventGuard.level, OrderedMap.get_set]⟩
  · exact ⟨rfl, by simp [EventGuard.level, OrderedMap.get_set]⟩

theorem EventGuard.allow_other (h : other ≠ event) :
    (guard.allow other now).2.level limit event = guard.level limit event := by
  unfold EventGuard.allow
  split
  · rfl
  · dsimp only
    split_ifs <;> simp [EventGuard.level, OrderedMap.get_set, h.symm]

/-- A handler goes by the guard's answer, if it asks. -/
theorem handle_asks (socket : ℕ) (guard : EventGuard) (a : Arrival) :
    (a.asks = none → handle socket guard a = ([], guard)) ∧
      ∀ event, a.asks = some event →
        (handle socket guard a).2 = (guard.allow event a.now).2 ∧
          ((handle socket guard a).1 ≠ [] → (guard.allow event a.now).1 = true) := by
  unfold handle Arrival.asks
  cases a.event with
  | ping | respawn =>
      refine ⟨fun h => (by cases h), fun event h => ?_⟩
      obtain rfl := Option.some.inj h
      exact ⟨rfl, fun hsent => by_contra fun hrefused => hsent (if_neg hrefused)⟩
  | chat body =>
      dsimp only
      cases chatBody body with
      | none => exact ⟨fun _ => rfl, fun event h => (by cases h)⟩
      | some body =>
          refine ⟨fun h => (by cases h), fun event h => ?_⟩
          obtain rfl := Option.some.inj h
          dsimp only
          by_cases hallowed : (guard.allow "chat" a.now).1 = true
          · rw [if_pos hallowed]
            refine ⟨?_, fun _ => hallowed⟩
            split
            · rfl
            · split_ifs <;> rfl
          · rw [if_neg hallowed]
            exact ⟨rfl, fun hsent => absurd rfl hsent⟩

/-- What is sent for an event is sent when its bucket gives a token. -/
theorem handled_takes (hlimit : EVENT_LIMITS.lookup event = some limit)
    (hrate : 0 ≤ limit.ratePerSecond) {arrivals : List Arrival} : ∀ {guard : EventGuard},
    (((handled socket guard arrivals).filter fun h =>
        h.arrival.asks = some event ∧ h.sent ≠ []).map (·.arrival.now)).Sublist
      (limit.bucket.takes (guard.level limit event)
        ((arrivals.filter fun a => a.asks = some event).map (·.now))) := by
  induction arrivals with
  | nil => exact fun {guard} => .slnil
  | cons a arrivals ih =>
      intro guard
      have hrest := @ih (handle socket guard a).2
      obtain ⟨hnone, hsome⟩ := handle_asks socket guard a
      rw [handled]
      by_cases hasks : a.asks = some event
      · obtain ⟨hguard, hsent⟩ := hsome event hasks
        obtain ⟨hallow, hlevel⟩ := @EventGuard.allow_take guard limit event a.now hlimit hrate
        rw [hguard, hlevel, ← hguard] at hrest
        rw [hallow] at hsent
        rw [List.filter_cons_of_pos (p := fun a : Arrival => a.asks = some event)
          (by simpa using hasks),
          List.map_cons, TokenBucket.takes]
        by_cases hempty : (handle socket guard a).1 = []
        · rw [List.filter_cons_of_neg (by simp [hempty])]
          split_ifs
          · exact hrest.cons _
          · exact hrest
        · rw [List.filter_cons_of_pos (by simp [hasks, hempty]), List.map_cons,
            if_pos (hsent hempty)]
          exact hrest.cons_cons _
      · rw [List.filter_cons_of_neg (by simp [hasks]),
          List.filter_cons_of_neg (by simpa using hasks)]
        have hlevel : (handle socket guard a).2.level limit event = guard.level limit event := by
          cases hother : a.asks with
          | none => rw [hnone hother]
          | some other =>
              rw [(hsome other hother).1]
              exact EventGuard.allow_other fun e => hasks (by rw [hother, e])
        rw [← hlevel]
        exact hrest

end Budget

/-! ### What a socket makes the node send -/

section Flood
variable {socket : ℕ} {guard : EventGuard} {a : Arrival} {arrivals : List Arrival}

/-- What a chat sends is visible and short, to the room, or to its sender who is shadowbanned. -/
theorem handle_sent {d : Delivery} (hd : d ∈ (handle socket guard a).1) :
    (d.recipient = socket ∨ a.shadowbanned = false ∧ d.recipient ∈ a.members) ∧
      ∀ text, d.event = .chat text → text ≠ [] ∧ text.length ≤ CHAT_LENGTH ∧
        ∀ c ∈ text, isControl c = false := by
  unfold handle at hd
  split at hd
  · dsimp only at hd
    split_ifs at hd
    · obtain rfl := List.mem_singleton.mp hd
      exact ⟨.inl rfl, fun text h => by cases h⟩
    · cases hd
  · dsimp only at hd
    split_ifs at hd
    · obtain rfl := List.mem_singleton.mp hd
      exact ⟨.inl rfl, fun text h => by cases h⟩
    · cases hd
  · split at hd
    · cases hd
    next body _ =>
        dsimp only at hd
        by_cases hallowed : (guard.allow "chat" a.now).1 = true
        · rw [if_pos hallowed] at hd
          split at hd
          · cases hd
          next text htext =>
              have hclean : text ≠ [] ∧ text.length ≤ CHAT_LENGTH ∧
                  ∀ c ∈ text, isControl c = false := by
                rw [sanitiseChat_eq] at htext
                split_ifs at htext with hempty
                obtain rfl := Option.some.inj htext
                refine ⟨?_, List.length_take_le _ _, fun c hc =>
                  (Blanks.mem_clean (List.mem_of_mem_take hc)).1⟩
                rw [Ne, List.take_eq_nil_iff]
                simpa [CHAT_LENGTH] using hempty
              split_ifs at hd with hbanned
              · obtain rfl := List.mem_singleton.mp hd
                refine ⟨.inl rfl, fun text' h => ?_⟩
                obtain rfl := ServerEvent.chat.inj h
                exact hclean
              · obtain ⟨member, hmember, rfl⟩ := List.mem_map.mp hd
                refine ⟨.inr ⟨by simpa using hbanned, hmember⟩, fun text' h => ?_⟩
                obtain rfl := ServerEvent.chat.inj h
                exact hclean
        · rw [if_neg hallowed] at hd
          cases hd

/-- Whatever comes in, an event is answered to its sender, or to the room. -/
theorem length_sent {size : ℕ} (hsize : 1 ≤ size) (ha : a.members.length ≤ size) :
    (handle socket guard a).1.length ≤ size := by
  unfold handle
  split
  · dsimp only
    split_ifs
    · exact hsize
    · exact Nat.zero_le _
  · dsimp only
    split_ifs
    · exact hsize
    · exact Nat.zero_le _
  · split
    · exact Nat.zero_le _
    · dsimp only
      by_cases hallowed : (guard.allow "chat" a.now).1 = true
      · rw [if_pos hallowed]
        split
        · exact Nat.zero_le _
        · split_ifs
          · exact hsize
          · rwa [List.length_map]
      · rw [if_neg hallowed]
        exact Nat.zero_le _

theorem handled_mem {h : Handled} : ∀ {guard : EventGuard}, h ∈ handled socket guard arrivals →
    h.arrival ∈ arrivals ∧ ∃ guard', h.sent = (handle socket guard' h.arrival).1 := by
  induction arrivals with
  | nil => exact fun {guard} hh => by cases hh
  | cons a arrivals ih =>
      intro guard hh
      rcases List.mem_cons.mp hh with rfl | hh
      · exact ⟨List.mem_cons_self, guard, rfl⟩
      · exact ⟨List.mem_cons_of_mem _ (ih hh).1, (ih hh).2⟩

theorem sum_sent_le {size : ℕ} {answered : List Handled}
    (h : ∀ h ∈ answered, h.sent.length ≤ size) :
    (answered.map (·.sent.length)).sum ≤ answered.countP (fun h => h.sent ≠ []) * size := by
  induction answered with
  | nil => simp
  | cons first answered ih =>
      have hrest := ih fun h' hh' => h h' (List.mem_cons_of_mem _ hh')
      have hfirst := h first List.mem_cons_self
      rw [List.map_cons, List.sum_cons]
      by_cases hempty : first.sent = []
      · rw [List.countP_cons_of_neg (by simp [hempty]), hempty, List.length_nil, zero_add]
        exact hrest
      · rw [List.countP_cons_of_pos (by simpa using hempty), Nat.succ_mul]
        omega

/-- **One socket cannot flood a room.**  Over any span, the events of a kind that a socket is
answered are no more than the burst and what the rate gives, and the messages that its chat sends
no more than those for each socket in the room; each is a visible text, within the cap. -/
theorem flood_bounded (socket : ℕ) (arrivals : List Arrival)
    (hsorted : (arrivals.map (·.now)).Pairwise (· ≤ ·)) (start stop : ℚ) (hspan : start ≤ stop) :
    (∀ event limit, EVENT_LIMITS.lookup event = some limit →
      ((handled socket .new arrivals).countP (fun h => h.arrival.asks = some event ∧ h.sent ≠ [] ∧
        start ≤ h.arrival.now ∧ h.arrival.now ≤ stop) : ℚ) ≤
        limit.burst + limit.ratePerSecond * ((stop - start) / 1000)) ∧
    (∀ size, 1 ≤ size → (∀ a ∈ arrivals, a.members.length ≤ size) →
      (((((chats (handled socket .new arrivals) start stop).map (·.sent.length)).sum : ℕ) : ℚ) ≤
        (3 + (stop - start) / 2000) * size)) ∧
    ∀ h ∈ handled socket .new arrivals, ∀ d ∈ h.sent,
      (d.recipient = socket ∨
        h.arrival.shadowbanned = false ∧ d.recipient ∈ h.arrival.members) ∧
        ∀ text, d.event = .chat text → text ≠ [] ∧ text.length ≤ CHAT_LENGTH ∧
          ∀ c ∈ text, isControl c = false := by
  have hcount : ∀ event limit, EVENT_LIMITS.lookup event = some limit →
      ((handled socket .new arrivals).countP (fun h => h.arrival.asks = some event ∧ h.sent ≠ [] ∧
        start ≤ h.arrival.now ∧ h.arrival.now ≤ stop) : ℚ) ≤
        limit.burst + limit.ratePerSecond * ((stop - start) / 1000) := by
    intro event limit hlimit
    have hlimits : 0 ≤ limit.ratePerSecond ∧ 0 ≤ limit.burst := by
      have hmem : (event, limit) ∈ EVENT_LIMITS := by
        obtain ⟨before, after, heq, -⟩ := List.lookup_eq_some_iff.mp hlimit
        rw [heq]
        exact List.mem_append_right _ List.mem_cons_self
      simp only [EVENT_LIMITS, List.mem_cons, Prod.mk.injEq, List.not_mem_nil, or_false] at hmem
      rcases hmem with ⟨-, rfl⟩ | ⟨-, rfl⟩ | ⟨-, rfl⟩ | ⟨-, rfl⟩ <;> norm_num
    have htakes := @handled_takes limit event socket hlimit hlimits.1 arrivals .new
    have htimes : ((arrivals.filter fun a => a.asks = some event).map (·.now)).Pairwise (· ≤ ·) :=
      hsorted.sublist (List.filter_sublist.map _)
    have hbound := TokenBucket.count_takes_le (b := limit.bucket)
      (s := EventGuard.new.level limit event) (div_nonneg hlimits.1 (by norm_num)) hlimits.2 hspan
      hlimits.2 htimes
    have hle := htakes.countP_le (p := fun t => start ≤ t ∧ t ≤ stop)
    rw [List.countP_map, List.countP_filter] at hle
    calc _ = _ := ?_
      _ ≤ _ := Nat.cast_le.mpr hle
      _ ≤ _ := hbound
      _ = _ := by rw [EventLimit.bucket]; ring
    congr 2
    funext h
    rw [Function.comp, ← Bool.decide_and, decide_eq_decide]
    tauto
  refine ⟨hcount, fun size hsize hmembers => ?_, fun h hh d hd => ?_⟩
  · have hchat := hcount "chat" ⟨1 / 2, 3⟩ rfl
    have hsum : ((chats (handled socket .new arrivals) start stop).map (·.sent.length)).sum ≤
        (chats (handled socket .new arrivals) start stop).countP (fun h => h.sent ≠ []) * size := by
      refine sum_sent_le fun h hh => ?_
      obtain ⟨ha, guard, hsent⟩ := handled_mem (List.mem_filter.mp hh).1
      rw [hsent]
      exact length_sent hsize (hmembers _ ha)
    have heq : (chats (handled socket .new arrivals) start stop).countP (fun h => h.sent ≠ []) =
        (handled socket .new arrivals).countP (fun h => h.arrival.asks = some "chat" ∧
          h.sent ≠ [] ∧ start ≤ h.arrival.now ∧ h.arrival.now ≤ stop) := by
      rw [chats, List.countP_filter]
      congr 1
      funext h
      rw [← Bool.decide_and, decide_eq_decide]
      tauto
    rw [heq] at hsum
    calc _ ≤ (((handled socket .new arrivals).countP (fun h => h.arrival.asks = some "chat" ∧
            h.sent ≠ [] ∧ start ≤ h.arrival.now ∧ h.arrival.now ≤ stop) * size : ℕ) : ℚ) :=
          Nat.cast_le.mpr hsum
      _ ≤ (3 + (stop - start) / 2000) * size := by
          rw [Nat.cast_mul]
          refine mul_le_mul_of_nonneg_right (hchat.trans (le_of_eq ?_)) (Nat.cast_nonneg _)
          ring
  · obtain ⟨-, guard, hsent⟩ := handled_mem hh
    exact handle_sent (hsent ▸ hd)

end Flood

/-- Five chats at once, in a room of two. -/
def spam : List Arrival := List.replicate 5 ⟨.chat (some [0x61]), 0, false, [0, 1]⟩

theorem flood_bounded_spam :
    ((((chats (handled 0 .new spam) 0 0).map (·.sent.length)).sum : ℕ) : ℚ) ≤ (3 + 0) * 2 := by
  have h := (flood_bounded 0 spam (by decide) 0 0 le_rfl).2.1 2 (by decide) (by decide)
  simpa using h

end SnakeArena.Realtime
