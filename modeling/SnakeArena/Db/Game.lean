import SnakeArena.Program.State

/-!
# Db — games and wallets

`games` with the room columns settlement reads beside it, and `wallets`, as far as the services
read and write them.  Ids are numbers; the id of a game is a UUID, and the room of a game on
chain is the one its bytes name (`roomIdFromUuid`).
-/

namespace SnakeArena.Db
open SnakeArena.Library SnakeArena.Program

inductive GameStatus where
  | pending | running | completed | cancelled
deriving DecidableEq

inductive SettlementStatus where
  | notRequired | pending | submitted | confirmed | failed
deriving DecidableEq

structure Game where
  status : GameStatus
  /-- The cycle marker, until a node is assigned. -/
  nodeId : String
  playerCount : ℕ
  potLamports : ℤ
  rakeLamports : ℤ
  payoutLamports : ℤ
  settlementStatus : SettlementStatus
  settlementAttempts : ℕ
  settlementSignature : Option String
  settlementError : Option String
  /-- Of its room. -/
  rakeBps : ℕ
  /-- The users of its `game_players`. -/
  gamePlayers : List ℕ
deriving DecidableEq

/-- A row as the schema's defaults make it. -/
def Game.created (nodeId : String) (rakeBps : ℕ) : Game :=
  ⟨.pending, nodeId, 0, 0, 0, 0, .notRequired, 0, none, none, rakeBps, []⟩

/-- The bytes of a UUID are the room id, so that neither has to be looked up from the other. -/
def roomIdFromUuid (gameId : ℕ) : RoomId where
  bytes := (List.range roomIdLen).map fun i => UInt8.ofNat (gameId / 256 ^ (roomIdLen - 1 - i))
  length_eq := by simp

structure Wallet where
  userId : ℕ
  /-- Globally unique: one address, one owner. -/
  address : Pubkey
  isPrimary : Bool
  /-- None means unproven. -/
  verifiedAt : Option ℕ
  createdAt : ℕ
deriving DecidableEq

end SnakeArena.Db
