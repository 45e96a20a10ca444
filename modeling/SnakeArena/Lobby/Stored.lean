import SnakeArena.Library.Dynamic
import SnakeArena.Lobby.State

/-!
# Lobby — a lobby as it is stored

`redis-store.ts` and the loop of `apply`, down to the text under the key of a tier.  What is stored
was written by nobody in particular: `load` takes any JSON for a lobby and an empty one for the
rest, `reduceLobby` asks it for properties, and the script of `save` reads the text again, in
another language.  The two readings need not agree.

`cjson`, `strtod` of the script and the texts of numbers are parameters.

* `save_eq_some`: when a save succeeds.
* `apply_saved`: what `apply` saves was allowed by the script.
* `apply_heals_iff`: the event is saved exactly when nothing is stored, or when what is stored
  names the tier and has a version that both sides read alike.
-/

namespace SnakeArena.Lobby.Stored
open SnakeArena.Library
open Utf16 (Units)
open Dynamic

structure Player where
  playerId : Units
  nickname : Units
  wallet : Units

inductive LobbyEvent where
  | join (player : Player)
  | leave (playerId : Units)
  | ready (playerId : Units) (ready : Bool)
  | tick
  | launched (gameId : Units)
  | open (gameId : Option Units) (scheduled : Bool)
  | close
  | reset

structure LobbyTransition where
  state : Json
  changed : Bool
  rejected : Option LobbyRejection
  shouldLaunch : Bool

/-- The state of a lobby with nothing stored. -/
def emptyLobby (tierId : Value) : Json :=
  .obj ((tierId.map fun tierId => (key "tierId", tierId)).toList ++
    [(key "status", .str (key "waiting")), (key "players", .arr []), (key "countdownEndsAt", .null),
      (key "gameId", .null), (key "scheduled", .bool false), (key "version", .num (.finite 0))])

/-- The event changes nothing, and may be rejected. -/
def unchanged (state : Json) (rejected : Option LobbyRejection) : LobbyTransition :=
  ⟨state, false, rejected, false⟩

/-- The event changes the state. -/
def moved (state : Json) : LobbyTransition := ⟨state, true, none, false⟩

/-- `p.playerId === playerId`; `null` has no property. -/
def isPlayer (playerId : Units) (p : Json) : Option Bool :=
  (prop "playerId" (some p)).map (isText playerId)

/-- Where a player stands in the list, if every entry can be read. -/
def findIndex (playerId : Units) : List Json → Option (Option ℕ)
  | [] => some none
  | p :: players => do
      let found ← isPlayer playerId p
      if found then some (some 0)
      else
        let index ← findIndex playerId players
        some (index.map (· + 1))

def isReady (p : Json) : Option Bool := (prop "ready" (some p)).map truthy

def everyReady : List Json → Option Bool
  | [] => some true
  | p :: players => do
      let ready ← isReady p
      if ready then everyReady players else some false

/-- A player who has just joined. -/
def player (p : Player) (now : ℕ) : Json :=
  .obj [(key "playerId", .str p.playerId), (key "nickname", .str p.nickname),
    (key "wallet", .str p.wallet), (key "joinedAt", .num (.finite now)), (key "ready", .bool false)]

section Reduce
variable (n : Numerals) (tier : RoomTier) (now : ℕ)

/-- `count >= maxPlayers`, where a tier without a bound has room. -/
def isAtCapacity (count : Value) : Option Bool :=
  match tier.maxPlayers with
  | none => some false
  | some maxPlayers => compare n (fun x => !below maxPlayers x) count

/-- What `settle` does once the countdown has expired. -/
def expire (state : Json) (players : List Json) : Option LobbyTransition :=
  if tier.entryFeeLamports > 0 then do
    let paid ← players.filterM isReady
    if paid.length < tier.minPlayers then
      some (moved (update (some state) [("players", .arr paid), ("status", .str (key "waiting")),
        ("countdownEndsAt", .null)]))
    else
      some ⟨update (some state) [("players", .arr paid), ("status", .str (key "launching")),
        ("countdownEndsAt", .null)], true, none, true⟩
  else
    some ⟨update (some state) [("status", .str (key "launching")), ("countdownEndsAt", .null)],
      true, none, true⟩

/-- What `settle` does with a lobby that has enough players. -/
def countDown (state : Json) (mutated : Bool) (status countdownEndsAt : Value)
    (players : List Json) (candidateDeadline : ℕ) : Option LobbyTransition :=
  let deadline : Json := .num (.finite candidateDeadline)
  if isText (key "waiting") status then
    some (moved (update (some state) [("status", .str (key "countdown")),
      ("countdownEndsAt", deadline)]))
  else if isText (key "countdown") status && !isNull countdownEndsAt then do
    let expired ← compare n (fun x => !above now x) countdownEndsAt
    if expired then expire tier state players
    else
      let sooner ← compare n (above candidateDeadline) countdownEndsAt
      if sooner then some (moved (update (some state) [("countdownEndsAt", deadline)]))
      else some ⟨state, mutated, none, false⟩
  else some ⟨state, mutated, none, false⟩

/-- What becomes of the countdown after an event. -/
def settle (state : Json) (mutated : Bool) : Option LobbyTransition := do
  let scheduled ← prop "scheduled" (some state)
  let status ← prop "status" (some state)
  let countdownEndsAt ← prop "countdownEndsAt" (some state)
  if truthy scheduled then some ⟨state, mutated, none, false⟩
  else
    let players ← prop "players" (some state)
    let count ← length players
    let short ← compare n (below tier.minPlayers) count
    if short then
      if isText (key "waiting") status && isNull countdownEndsAt then
        some ⟨state, mutated, none, false⟩
      else
        some (moved (update (some state)
          [("status", .str (key "waiting")), ("countdownEndsAt", .null)]))
    else
      let players ← array players
      let everyoneReady ← everyReady players
      let atCapacity ← isAtCapacity n tier count
      let seconds :=
        if everyoneReady || atCapacity then tier.readyCountdownSeconds else tier.countdownSeconds
      countDown n tier now state mutated status countdownEndsAt players (now + seconds * 1000)

/-- The reducer, over the JSON as it was stored. -/
def reduceLobby (state : Json) (event : LobbyEvent) : Option LobbyTransition := do
  let status ← prop "status" (some state)
  let players ← prop "players" (some state)
  let stored ← prop "version" (some state)
  match event with
  | .join p =>
      if isText (key "launching") status then some (unchanged state (some .lobbyLaunching))
      else if isText (key "closed") status then some (unchanged state (some .lobbyClosed))
      else
        let items ← array players
        let found ← findIndex p.playerId items
        if found.isSome then some (unchanged state (some .alreadyJoined))
        else
          let count ← length players
          let full ← isAtCapacity n tier count
          if full then some (unchanged state (some .lobbyFull))
          else
            let version ← plusOne n stored
            settle n tier now (update (some state)
              [("players", .arr (items ++ [player p now])), ("version", version)]) true
  | .leave playerId =>
      let items ← array players
      let found ← findIndex playerId items
      if found.isNone then some (unchanged state (some .notJoined))
      else if isText (key "launching") status then some (unchanged state (some .lobbyLaunching))
      else
        let left ← items.filterM fun p => (isPlayer playerId p).map (!·)
        let version ← plusOne n stored
        settle n tier now (update (some state) [("players", .arr left), ("version", version)]) true
  | .ready playerId ready =>
      let items ← array players
      let found ← findIndex playerId items
      match found with
      | none => some (unchanged state (some .notJoined))
      | some index =>
          if isText (key "launching") status then some (unchanged state (some .lobbyLaunching))
          else
            match items[index]? with
            | none => some (unchanged state none)
            | some existing =>
                let before ← prop "ready" (some existing)
                if isBool ready before then some (unchanged state none)
                else
                  let version ← plusOne n stored
                  let marked := update (some existing) [("ready", .bool ready)]
                  settle n tier now (update (some state)
                    [("players", .arr (items.set index marked)), ("version", version)]) true
  | .tick => settle n tier now state false
  | .open gameId scheduled =>
      let count ← length players
      let queued ← compare n (above 0) count
      let tierId ← prop "tierId" (some state)
      let version ← plusOne n stored
      let base := if queued then state else emptyLobby tierId
      some (moved (update (some base) [("status", .str (key "waiting")), ("countdownEndsAt", .null),
        ("gameId", gameId.elim .null .str), ("scheduled", .bool scheduled), ("version", version)]))
  | .close =>
      if isText (key "launching") status then some (unchanged state none)
      else
        let version ← plusOne n stored
        some (moved (update (some state) [("status", .str (key "launching")),
          ("countdownEndsAt", .null), ("version", version)]))
  | .launched gameId =>
      let version ← plusOne n stored
      some (moved (update (some state) [("status", .str (key "launching")), ("gameId", .str gameId),
        ("countdownEndsAt", .null), ("version", version)]))
  | .reset =>
      let tierId ← prop "tierId" (some state)
      let version ← plusOne n stored
      some (moved (update (some (emptyLobby tierId)) [("version", version)]))

end Reduce

/-! ### The script -/

/-- What the script is run with. -/
structure Redis where
  /-- `cjson.decode`; none is an error. -/
  decode : List Char → Option Json
  /-- `strtod` of a whole text; none where it is no numeral, and the inner none is `nan`. -/
  strtod : Units → Option (Option Double)

/-- `tonumber`; none is `nil`. -/
def Redis.tonumber (redis : Redis) : Value → Option (Option Double)
  | some (.num x) => some (some x)
  | some (.str text) => redis.strtod text
  | _ => none

/-- `decoded.version`.  A string has the methods of strings; the other scalars have no index. -/
def version : Json → Option Value
  | .obj members => some ((Json.obj members).get (key "version"))
  | .arr _ => some none
  | .str _ => some none
  | _ => none

/-- `==`. -/
def same : Option (Option Double) → Option (Option Double) → Bool
  | none, none => true
  | some (some x), some (some y) => x = y
  | _, _ => false

/-- `CAS_SCRIPT`: whether it writes; none is an error. -/
def casScript (redis : Redis) (current : Option (List Char)) (expectedVersion : Units) :
    Option Bool :=
  let expected := redis.strtod expectedVersion
  match current with
  | none => some (same expected (some (some (.finite 0))))
  | some text => do
      let decoded ← redis.decode text
      let version ← version decoded
      some (same (redis.tonumber version) expected)

/-! ### The store -/

abbrev Store := Table Units (List Char)

/-- The tag in braces keeps a lobby's keys on one node of the cluster. -/
def LOBBY_KEY (tierId : Units) : Units := key "lobby:\x7b" ++ tierId ++ key "\x7d:state"

/-- What is stored, if it parses. -/
def load (s : Store) (tierId : Units) : Json :=
  match s.get (LOBBY_KEY tierId) with
  | none => emptyLobby (some (.str tierId))
  | some raw =>
      if raw = [] then emptyLobby (some (.str tierId))
      else (Json.parse raw).getD (emptyLobby (some (.str tierId)))

section Apply
variable (n : Numerals) (redis : Redis)

/-- The key that is written, if one is; none is a throw. -/
def save (s : Store) (state : Json) (expectedVersion : Value) : Option (Option Units) := do
  let tierId ← prop "tierId" (some state)
  let tierId ← template n tierId
  let expectedVersion ← template n expectedVersion
  let saved ← casScript redis (s.get (LOBBY_KEY tierId)) expectedVersion
  some (if saved then some (LOBBY_KEY tierId) else none)

inductive Applied where
  | rejected (rejection : LobbyRejection)
  | unchanged
  | saved (key : Units) (state : Json) (shouldLaunch : Bool)
  | throws
  | tooContended

def MAX_CAS_ATTEMPTS : ℕ := 5

/-- The loop of `apply`, up to the launch, with the attempts that are left. -/
def applyLoop (s : Store) (tierId : Units) (tier : RoomTier) (event : LobbyEvent) (clock : ℕ → ℕ) :
    ℕ → ℕ → Store × Applied
  | 0, _ => (s, .tooContended)
  | left + 1, attempt =>
      let current := load s tierId
      match reduceLobby n tier (clock attempt) current event with
      | none => (s, .throws)
      | some result =>
          match result.rejected with
          | some rejection => (s, .rejected rejection)
          | none =>
              if result.changed = false then (s, .unchanged)
              else
                match save n redis s result.state (current.get (key "version")) with
                | none => (s, .throws)
                | some none => applyLoop s tierId tier event clock left (attempt + 1)
                | some (some key) =>
                    (s.upd key (stringify n result.state),
                      .saved key result.state result.shouldLaunch)

/-- The loop of the compare-and-set. -/
def apply (s : Store) (tierId : Units) (tier : RoomTier) (event : LobbyEvent) (clock : ℕ → ℕ) :
    Store × Applied :=
  applyLoop n redis s tierId tier event clock MAX_CAS_ATTEMPTS 0

end Apply

/-! ### What a lobby is for -/

/-- What the lobby names as its tier. -/
def tierOf (state : Json) : Value := state.get (key "tierId")

/-- An empty lobby is of its tier. -/
theorem tierOf_emptyLobby (tierId : Value) : tierOf (emptyLobby tierId) = tierId := by
  cases tierId with
  | none => decide
  | some tierId => rfl

/-- An update of other fields leaves the tier. -/
theorem prop_update (state : Json) {changes : List (String × Json)}
    (h : ∀ change ∈ changes, change.1 ≠ "tierId") :
    prop "tierId" (some (update (some state) changes)) = some (tierOf state) :=
  congrArg some (get_update (by simp [Named]) _ h)

/-- What has properties is not `null`. -/
theorem prop_tierId {state : Json} {name : String} {v : Value}
    (h : prop name (some state) = some v) :
    prop "tierId" (some state) = some (tierOf state) := by
  cases state with
  | null => cases h
  | _ => rfl

/-- What does not throw goes on. -/
theorem of_bind {α β : Type} {x : Option α} {f : α → Option β} {b : β} (h : x >>= f = some b) :
    ∃ a, f a = some b := by
  obtain ⟨a, -, h⟩ := Option.bind_eq_some_iff.mp h
  exact ⟨a, h⟩

theorem of_ite {α : Type} {c : Prop} [Decidable c] {x y : Option α} {b : α}
    (h : (if c then x else y) = some b) : x = some b ∨ y = some b := by
  split_ifs at h
  · exact .inl h
  · exact .inr h

section Tier
variable {n : Numerals} {tier : RoomTier} {now : ℕ} {state : Json} {r : LobbyTransition}

/-- Expired entries are not the tier. -/
theorem expire_tier {players : List Json} (h : expire tier state players = some r) :
    prop "tierId" (some r.state) = some (tierOf state) := by
  unfold expire at h
  split_ifs at h
  · obtain ⟨paid, h⟩ := of_bind h
    split_ifs at h
    all_goals
      obtain rfl := Option.some.inj h
      exact prop_update state (by simp)
  · obtain rfl := Option.some.inj h
    exact prop_update state (by simp)

/-- The countdown is not the tier. -/
theorem countDown_tier {mutated : Bool} {status countdownEndsAt : Value} {players : List Json}
    {candidateDeadline : ℕ} (h : countDown n tier now state mutated status countdownEndsAt players
      candidateDeadline = some r) (hstate : prop "tierId" (some state) = some (tierOf state)) :
    prop "tierId" (some r.state) = some (tierOf state) := by
  unfold countDown at h
  split_ifs at h
  · obtain rfl := Option.some.inj h
    exact prop_update state (by simp)
  · obtain ⟨expired, h⟩ := of_bind h
    split_ifs at h
    · exact expire_tier h
    · obtain ⟨sooner, h⟩ := of_bind h
      split_ifs at h
      · obtain rfl := Option.some.inj h
        exact prop_update state (by simp)
      · obtain rfl := Option.some.inj h
        exact hstate
  · obtain rfl := Option.some.inj h
    exact hstate

/-- Nor is anything that settling writes. -/
theorem settle_tier {mutated : Bool} (h : settle n tier now state mutated = some r) :
    prop "tierId" (some r.state) = some (tierOf state) := by
  obtain ⟨scheduled, hscheduled, h⟩ := Option.bind_eq_some_iff.mp h
  have hstate := prop_tierId hscheduled
  obtain ⟨status, h⟩ := of_bind h
  obtain ⟨countdownEndsAt, h⟩ := of_bind h
  rcases of_ite h with h | h
  · obtain rfl := Option.some.inj h
    exact hstate
  obtain ⟨players, h⟩ := of_bind h
  obtain ⟨count, h⟩ := of_bind h
  obtain ⟨short, h⟩ := of_bind h
  rcases of_ite h with h | h
  · rcases of_ite h with h | h
    · obtain rfl := Option.some.inj h
      exact hstate
    · obtain rfl := Option.some.inj h
      exact prop_update state (by simp)
  obtain ⟨items, h⟩ := of_bind h
  obtain ⟨everyoneReady, h⟩ := of_bind h
  obtain ⟨atCapacity, h⟩ := of_bind h
  exact countDown_tier h hstate

/-- After a change to the players. -/
theorem settle_update {players version : Json} (h : settle n tier now (update (some state)
    [("players", players), ("version", version)]) true = some r) :
    prop "tierId" (some r.state) = some (tierOf state) :=
  (settle_tier h).trans (prop_update state (by simp))

/-- **An event keeps the tier** that the lobby names. -/
theorem reduceLobby_tier {event : LobbyEvent} (h : reduceLobby n tier now state event = some r) :
    prop "tierId" (some r.state) = some (tierOf state) := by
  obtain ⟨status, hstatus, h⟩ := Option.bind_eq_some_iff.mp h
  have hstate := prop_tierId hstatus
  have hsame : ∀ rejected, some (unchanged state rejected) = some r →
      prop "tierId" (some r.state) = some (tierOf state) := by
    rintro rejected h
    obtain rfl := Option.some.inj h
    exact hstate
  obtain ⟨players, h⟩ := of_bind h
  obtain ⟨stored, h⟩ := of_bind h
  cases event with
  | join p =>
      rcases of_ite h with h | h
      · exact hsame _ h
      rcases of_ite h with h | h
      · exact hsame _ h
      obtain ⟨items, h⟩ := of_bind h
      obtain ⟨found, h⟩ := of_bind h
      rcases of_ite h with h | h
      · exact hsame _ h
      obtain ⟨count, h⟩ := of_bind h
      obtain ⟨full, h⟩ := of_bind h
      rcases of_ite h with h | h
      · exact hsame _ h
      obtain ⟨version, h⟩ := of_bind h
      exact settle_update h
  | leave playerId =>
      obtain ⟨items, h⟩ := of_bind h
      obtain ⟨found, h⟩ := of_bind h
      rcases of_ite h with h | h
      · exact hsame _ h
      rcases of_ite h with h | h
      · exact hsame _ h
      obtain ⟨left, h⟩ := of_bind h
      obtain ⟨version, h⟩ := of_bind h
      exact settle_update h
  | ready playerId ready =>
      obtain ⟨items, h⟩ := of_bind h
      obtain ⟨found, h⟩ := of_bind h
      cases found with
      | none => exact hsame _ h
      | some index =>
          rcases of_ite h with h | h
          · exact hsame _ h
          cases hexisting : items[index]? with
          | none =>
              rw [hexisting] at h
              exact hsame _ h
          | some existing =>
              rw [hexisting] at h
              obtain ⟨before, h⟩ := of_bind h
              rcases of_ite h with h | h
              · exact hsame _ h
              obtain ⟨version, h⟩ := of_bind h
              exact settle_update h
  | tick => exact settle_tier h
  | launched gameId =>
      obtain ⟨version, h⟩ := of_bind h
      obtain rfl := Option.some.inj h
      exact prop_update state (by simp)
  | «open» gameId scheduled =>
      obtain ⟨count, h⟩ := of_bind h
      obtain ⟨queued, h⟩ := of_bind h
      obtain ⟨tierId, hprop, h⟩ := Option.bind_eq_some_iff.mp h
      obtain ⟨version, h⟩ := of_bind h
      obtain rfl := Option.some.inj h
      obtain rfl := Option.some.inj (hstate.symm.trans hprop)
      refine (prop_update _ (by simp)).trans (congrArg some ?_)
      split_ifs
      · rfl
      · exact tierOf_emptyLobby _
  | close =>
      rcases of_ite h with h | h
      · exact hsame _ h
      obtain ⟨version, h⟩ := of_bind h
      obtain rfl := Option.some.inj h
      exact prop_update state (by simp)
  | reset =>
      obtain ⟨tierId, hprop, h⟩ := Option.bind_eq_some_iff.mp h
      obtain ⟨version, h⟩ := of_bind h
      obtain rfl := Option.some.inj h
      obtain rfl := Option.some.inj (hstate.symm.trans hprop)
      exact (prop_update _ (by simp)).trans (congrArg some (tierOf_emptyLobby _))

end Tier

/-! ### Two readings -/

/-- What is documented of `cjson`, of `strtod` and of the texts of numbers. -/
structure Redis.Agrees (redis : Redis) (n : Numerals) : Prop where
  /-- What is decoded is JSON, and decoded to what it is. -/
  decode : ∀ raw v, redis.decode raw = some v → Json.parse raw = some v
  reads : ∀ x, redis.strtod (n.toString x) = some (some x)
  words : ∀ word ∈ ["undefined", "null", "true", "false", "[object Object]"],
    redis.strtod (key word) = none

/-- A version whose text has a number in the script only if the version has. -/
def ReadsAlike (n : Numerals) (redis : Redis) : Value → Prop
  | some (.str text) => redis.strtod text ≠ some none
  | some (.arr items) => ∃ text, joined n items = some text ∧ redis.strtod text = none
  | some (.obj members) => (Json.obj members).get (key "toString") = none
  | _ => True

section Readings
variable {n : Numerals} {redis : Redis} {s : Store} {tierId : Units} {tier : RoomTier}
  {event : LobbyEvent} {clock : ℕ → ℕ}

/-- A value is itself, unless it is not a number. -/
theorem same_self {x : Option (Option Double)} : same x x = true ↔ x ≠ some none := by
  rcases x with _ | _ | x
  · simp [same]
  · simp [same]
  · simp [same]

theorem same_none {x : Option (Option Double)} : same none x = true ↔ x = none := by
  rcases x with _ | _ | x
  · simp [same]
  · simp [same]
  · simp [same]

/-- The script finds the version that was loaded. -/
theorem readsAlike_iff (h : redis.Agrees n) (x : Value) :
    (∃ text, template n x = some text ∧ same (redis.tonumber x) (redis.strtod text) = true) ↔
      ReadsAlike n redis x := by
  have hword : ∀ word ∈ ["undefined", "null", "true", "false", "[object Object]"],
      ∃ text, some (key word) = some text ∧ same none (redis.strtod text) = true :=
    fun word hword => ⟨_, rfl, same_none.mpr (h.words word hword)⟩
  cases x with
  | none => exact iff_of_true (hword _ (by simp)) trivial
  | some x =>
      cases x with
      | null => exact iff_of_true (hword "null" (by simp)) trivial
      | bool b =>
          cases b with
          | true => exact iff_of_true (hword "true" (by simp)) trivial
          | false => exact iff_of_true (hword "false" (by simp)) trivial
      | num x =>
          refine iff_of_true ⟨_, rfl, ?_⟩ trivial
          have hnumber : redis.tonumber (some (.num x)) = some (some x) := rfl
          rw [h.reads, hnumber]
          exact same_self.mpr (by simp)
      | str text =>
          constructor
          · rintro ⟨_, htext, hsame⟩
            obtain rfl := Option.some.inj htext
            exact same_self.mp hsame
          · intro hne
            exact ⟨text, rfl, same_self.mpr hne⟩
      | arr items =>
          constructor
          · rintro ⟨text, htext, hsame⟩
            exact ⟨text, htext, same_none.mp hsame⟩
          · rintro ⟨text, htext, hnil⟩
            exact ⟨text, htext, same_none.mpr hnil⟩
      | obj members =>
          constructor
          · rintro ⟨text, htext, -⟩
            by_contra hhidden
            rw [ReadsAlike] at hhidden
            rw [template, Dynamic.text, if_neg hhidden] at htext
            cases htext
          · intro hplain
            rw [ReadsAlike] at hplain
            obtain ⟨text, htext, hsame⟩ := hword "[object Object]" (by simp)
            refine ⟨text, ?_, hsame⟩
            rw [template, Dynamic.text, if_pos hplain]
            exact htext

/-- Two tiers have two keys. -/
theorem LOBBY_KEY_injective : Function.Injective LOBBY_KEY := fun _ _ h =>
  List.append_cancel_left (List.append_cancel_right h)

/-- The version that is asked for is the one of the script, where that has one. -/
theorem get_version {v : Json} {x : Value} (h : version v = some x) :
    v.get (key "version") = x := by
  cases v with
  | null | bool | num => cases h
  | arr | str | obj => exact Option.some.inj h

/-- What a save wrote, and under which key. -/
theorem save_eq_some {state : Json} {expected : Value} {k : Units} :
    save n redis s state expected = some (some k) ↔ ∃ t named text,
      prop "tierId" (some state) = some t ∧ template n t = some named ∧
        template n expected = some text ∧
          casScript redis (s.get (LOBBY_KEY named)) text = some true ∧ k = LOBBY_KEY named := by
  unfold save
  simp only [Option.bind_eq_bind, Option.bind_eq_some_iff, Option.some.injEq]
  constructor
  · rintro ⟨t, ht, named, hnamed, text, htext, saved, hsaved, hk⟩
    cases saved with
    | false => cases hk
    | true => exact ⟨t, named, text, ht, hnamed, htext, hsaved, (Option.some.inj hk).symm⟩
  · rintro ⟨t, named, text, ht, hnamed, htext, hsaved, rfl⟩
    exact ⟨t, ht, named, hnamed, text, htext, true, hsaved, rfl⟩

/-- **What is saved** was allowed by the script, under the key of the tier that the lobby names. -/
theorem applyLoop_saved {k : Units} {state : Json} {shouldLaunch : Bool} (left attempt : ℕ)
    (h : (applyLoop n redis s tierId tier event clock left attempt).2 =
      .saved k state shouldLaunch) :
    ∃ named text, template n (tierOf (load s tierId)) = some named ∧
      template n ((load s tierId).get (key "version")) = some text ∧
        casScript redis (s.get (LOBBY_KEY named)) text = some true ∧ k = LOBBY_KEY named := by
  induction left generalizing attempt with
  | zero => cases h
  | succ left ih =>
      rw [applyLoop] at h
      split at h
      · cases h
      next result hreduce =>
          split at h
          · cases h
          split_ifs at h
          split at h
          · cases h
          · exact ih (attempt + 1) h
          next k' hsave =>
              obtain ⟨t, named, text, ht, hnamed, htext, hscript, rfl⟩ := save_eq_some.mp hsave
              rw [reduceLobby_tier hreduce] at ht
              obtain rfl := Option.some.inj ht
              cases h
              exact ⟨named, text, hnamed, htext, hscript, rfl⟩

/-- Nothing is stored, or what is stored is decoded, names the tier, and has a version that both
sides read alike. -/
def Legible (n : Numerals) (redis : Redis) (s : Store) (tierId : Units) : Prop :=
  ∀ raw, s.get (LOBBY_KEY tierId) = some raw → ∃ v x, redis.decode raw = some v ∧
    template n (tierOf v) = some tierId ∧ version v = some x ∧ ReadsAlike n redis x

/-- What is decoded is what was loaded. -/
theorem load_eq (h : redis.Agrees n) {raw : List Char} {v : Json}
    (hraw : s.get (LOBBY_KEY tierId) = some raw) (hdecode : redis.decode raw = some v) :
    load s tierId = v := by
  have hparse := h.decode raw v hdecode
  have hne : raw ≠ [] := by
    rintro rfl
    cases hparse
  rw [load, hraw]
  dsimp only
  rw [if_neg hne, hparse, Option.getD_some]

/-- **The script allows** what was loaded exactly when it reads it alike. -/
theorem casScript_iff (h : redis.Agrees n) :
    (template n (tierOf (load s tierId)) = some tierId ∧ ∃ text,
      template n ((load s tierId).get (key "version")) = some text ∧
        casScript redis (s.get (LOBBY_KEY tierId)) text = some true) ↔
      Legible n redis s tierId := by
  cases hraw : s.get (LOBBY_KEY tierId) with
  | none =>
      refine iff_of_true ?_ fun raw hsome => ?_
      · rw [load, hraw]
        refine ⟨rfl, n.toString (.finite 0), rfl, ?_⟩
        rw [casScript, h.reads]
        rfl
      · rw [hraw] at hsome
        cases hsome
  | some raw =>
      have hscript : ∀ text, casScript redis (some raw) text = some true ↔ ∃ v x,
          redis.decode raw = some v ∧ version v = some x ∧
            same (redis.tonumber x) (redis.strtod text) = true := by
        intro text
        rw [casScript]
        simp only [Option.bind_eq_bind, Option.bind_eq_some_iff, Option.some.injEq]
        constructor
        · rintro ⟨v, hv, x, hx, hsame⟩
          exact ⟨v, x, hv, hx, hsame⟩
        · rintro ⟨v, x, hv, hx, hsame⟩
          exact ⟨v, hv, x, hx, hsame⟩
      constructor
      · rintro ⟨hnamed, text, htext, hallowed⟩ raw' hraw'
        obtain rfl := Option.some.inj (hraw.symm.trans hraw')
        obtain ⟨v, x, hdecode, hversion, hsame⟩ := (hscript text).mp hallowed
        have hload := load_eq h hraw hdecode
        rw [hload] at hnamed htext
        rw [get_version hversion] at htext
        exact ⟨v, x, hdecode, hnamed, hversion, (readsAlike_iff h x).mp ⟨text, htext, hsame⟩⟩
      · intro hlegible
        obtain ⟨v, x, hdecode, hnamed, hversion, hreads⟩ := hlegible raw hraw
        obtain ⟨text, htext, hsame⟩ := (readsAlike_iff h x).mpr hreads
        rw [load_eq h hraw hdecode, get_version hversion]
        exact ⟨hnamed, text, htext, (hscript text).mpr ⟨v, x, hdecode, hversion, hsame⟩⟩

/-- **A stored value heals** exactly when it is legible: the event that changes what was loaded is
saved under the key of the tier, or it never is. -/
theorem apply_heals_iff (h : redis.Agrees n) {result : LobbyTransition}
    (hreduce : reduceLobby n tier (clock 0) (load s tierId) event = some result)
    (hchanged : result.changed = true) (hrejected : result.rejected = none) :
    apply n redis s tierId tier event clock =
        (s.upd (LOBBY_KEY tierId) (stringify n result.state),
          .saved (LOBBY_KEY tierId) result.state result.shouldLaunch) ↔
      Legible n redis s tierId := by
  rw [← casScript_iff h]
  constructor
  · intro happly
    obtain ⟨named, text, hnamed, htext, hallowed, hkey⟩ :=
      applyLoop_saved _ _ (congrArg Prod.snd happly)
    obtain rfl := LOBBY_KEY_injective hkey
    exact ⟨hnamed, text, htext, hallowed⟩
  · rintro ⟨hnamed, text, htext, hallowed⟩
    have hsave : save n redis s result.state ((load s tierId).get (key "version")) =
        some (some (LOBBY_KEY tierId)) :=
      save_eq_some.mpr ⟨_, tierId, text, reduceLobby_tier hreduce, hnamed, htext, hallowed, rfl⟩
    rw [apply, MAX_CAS_ATTEMPTS, applyLoop]
    simp only [hreduce, hrejected, hchanged, hsave, Bool.true_eq_false, if_false]

end Readings

/-- Zero and the infinities as they are written, and any other number as a ratio of two counts. -/
def ratios : Numerals where
  toString
    | .finite q =>
        if q = 0 then key "0"
        else (if q < 0 then key "-" else key "+") ++
          (List.replicate q.num.natAbs 110 ++ List.replicate q.den 100)
    | .infinity negative => if negative then key "-Infinity" else key "Infinity"
  toNumber _ := none

def readRatio : Units → Option (Option Double)
  | [] => none
  | sign :: counts =>
      let q : ℚ := counts.count 110 / counts.count 100
      if sign = 45 then some (some (.finite (-q)))
      else if sign = 43 then some (some (.finite q))
      else none

def reader : Redis where
  decode := Json.parse
  strtod text :=
    if text = key "0" then some (some (.finite 0))
    else if text = key "-Infinity" then some (some (.infinity true))
    else if text = key "Infinity" then some (some (.infinity false))
    else readRatio text

theorem reader_decode (raw : List Char) : reader.decode raw = Json.parse raw := rfl

theorem readRatio_sign {sign : UInt16} {a b : ℕ} :
    readRatio (sign :: (List.replicate a 110 ++ List.replicate b 100)) =
      if sign = 45 then some (some (.finite (-(a / b))))
      else if sign = 43 then some (some (.finite (a / b)))
      else none := by
  have hcount : ∀ u v : UInt16, u ≠ v → ∀ k, (List.replicate k u).count v = 0 := fun u v h k =>
    List.count_eq_zero.mpr fun hmem => h (List.eq_of_mem_replicate hmem).symm
  rw [readRatio]
  simp only [List.count_append, List.count_replicate_self, hcount 100 110 (by decide),
    hcount 110 100 (by decide), add_zero, zero_add]

theorem reader_agrees : reader.Agrees ratios where
  decode _ _ h := h
  reads x := by
    cases x with
    | infinity negative => cases negative <;> decide
    | finite q =>
        by_cases hzero : q = 0
        · rw [hzero]
          decide
        obtain ⟨a, ha⟩ := Nat.exists_eq_succ_of_ne_zero
          (Int.natAbs_ne_zero.mpr (Rat.num_ne_zero.mpr hzero))
        have hratio : (q.num.natAbs : ℚ) / q.den = |q| := by
          rw [Nat.cast_natAbs, Int.cast_abs]
          conv_rhs => rw [← Rat.num_div_den q, abs_div, Nat.abs_cast]
        have hstrtod : ∀ sign, sign = 45 ∨ sign = 43 → reader.strtod
            (sign :: (List.replicate (a + 1) 110 ++ List.replicate q.den 100)) =
              readRatio (sign :: (List.replicate (a + 1) 110 ++ List.replicate q.den 100)) := by
          have hzero : key "0" = [48] := by decide
          have hinfinity : key "Infinity" = 73 :: key "nfinity" := by decide
          have hnegative : key "-Infinity" = 45 :: 73 :: key "nfinity" := by decide
          rintro sign (rfl | rfl)
          all_goals simp [reader, hzero, hinfinity, hnegative, List.replicate_succ]
        simp only [ratios, if_neg hzero, ha]
        split_ifs with hneg
        · refine (hstrtod 45 (.inl rfl)).trans ?_
          rw [readRatio_sign, if_pos rfl, ← Nat.succ_eq_add_one, ← ha, hratio, abs_of_neg hneg,
            neg_neg]
        · refine (hstrtod 43 (.inr rfl)).trans ?_
          rw [readRatio_sign, if_neg (by decide), if_pos rfl, ← Nat.succ_eq_add_one, ← ha, hratio,
            abs_of_nonneg (not_lt.mp hneg)]
  words := by decide

def practice : RoomTier := ⟨0, 2, none, 30, 5⟩

/-- A store with a text under the key of a tier. -/
def holding (text : List Char) : Store := Table.empty.upd (LOBBY_KEY (key "practice")) text

/-- A lobby that lost everything but its tier and its version. -/
def bare : List (Units × Json.Scalar) :=
  [(key "tierId", .text (key "practice")), (key "version", .integer 3)]

theorem apply_heals_bare :
    (apply ratios reader (holding (Json.stringify bare)) (key "practice") practice .reset
      fun _ => 0).2 =
      .saved (LOBBY_KEY (key "practice")) (update (some (emptyLobby (some (.str (key "practice")))))
        [("version", .num (.ofRat ((3 : ℕ) + 1)))]) false := by
  have hdecode : reader.decode (Json.stringify bare) = some (Json.object bare) := by
    rw [reader_decode]
    exact Json.parse_stringify (by simp [bare, Json.Scalar.Safe]) (by decide)
  have hraw : (holding (Json.stringify bare)).get (LOBBY_KEY (key "practice")) =
      some (Json.stringify bare) := Table.get_upd_same _ _ _
  have hlegible : Legible ratios reader (holding (Json.stringify bare)) (key "practice") := by
    intro raw hsome
    obtain rfl := Option.some.inj (hraw.symm.trans hsome)
    exact ⟨Json.object bare, some (.num (.finite (3 : ℕ))), hdecode, rfl, rfl, trivial⟩
  have hreduce : reduceLobby ratios practice 0
      (load (holding (Json.stringify bare)) (key "practice")) .reset =
        some (moved (update (some (emptyLobby (some (.str (key "practice")))))
          [("version", .num (.ofRat ((3 : ℕ) + 1)))])) := by
    rw [load_eq reader_agrees hraw hdecode]
    rfl
  have hheals := @apply_heals_iff ratios reader (holding (Json.stringify bare)) (key "practice")
    practice .reset (fun _ => 0) reader_agrees _ hreduce rfl rfl
  exact congrArg Prod.snd (hheals.mpr hlegible)

/-- Half a text is loaded as an empty lobby, and no event on it is ever saved. -/
theorem half_throws :
    load (holding ['\x7b']) (key "practice") = emptyLobby (some (.str (key "practice"))) ∧
      (∃ result, reduceLobby ratios practice 0 (load (holding ['\x7b']) (key "practice")) .reset =
        some result ∧ result.changed = true ∧ result.rejected = none) ∧
      (apply ratios reader (holding ['\x7b']) (key "practice") practice .reset fun _ => 0).2 =
        .throws :=
  ⟨rfl, ⟨_, rfl, rfl, rfl⟩, rfl⟩

end SnakeArena.Lobby.Stored
