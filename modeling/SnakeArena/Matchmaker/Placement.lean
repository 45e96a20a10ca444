import Mathlib.Data.List.Sort
import Mathlib.Data.Rat.Lemmas
import Mathlib.Tactic.Common

/-!
# Matchmaker — placement

`placement/strategy.ts`: which node a room is created on.
-/

namespace SnakeArena.Matchmaker

structure NodeCandidate where
  nodeId : String
  advertiseUrl : String
  region : String
  rooms : ℕ
  players : ℕ
  maxRooms : ℕ
  /-- From tick headroom. -/
  saturation : ℚ
  /-- The last heartbeat. -/
  updatedAt : ℕ
  draining : Bool
deriving DecidableEq

structure PlacementDecision where
  nodeId : String
  advertiseUrl : String
deriving DecidableEq

inductive PlacementStrategy where
  | leastLoaded | bestFit | regionAffinity
deriving DecidableEq

/-- Drops nodes that are draining, at capacity, or whose heartbeat has gone stale. -/
def filterHealthy (candidates : List NodeCandidate) (maxAgeMs now : ℕ) : List NodeCandidate :=
  candidates.filter fun node =>
    !node.draining && decide (node.rooms < node.maxRooms) &&
      decide (now - node.updatedAt ≤ maxAgeMs)

/-- The order of preference: packed onto the most loaded node, unless the least loaded is asked
for. -/
def PlacementStrategy.before (strategy : PlacementStrategy) (a b : NodeCandidate) : Bool :=
  match strategy with
  | .leastLoaded => decide (a.saturation ≤ b.saturation)
  | .bestFit | .regionAffinity => decide (b.saturation ≤ a.saturation)

def selectPlacement (candidates : List NodeCandidate) (region : String)
    (strategy : PlacementStrategy) : Option PlacementDecision :=
  let inRegion := candidates.filter (·.region = region)
  -- affinity is a requirement of its own strategy, and a preference of the others
  let pool :=
    if strategy = .regionAffinity then inRegion
    else if inRegion = [] then candidates else inRegion
  let usable := pool.filter fun node => decide (node.saturation < 85 / 100)
  let final := if usable = [] then pool else usable
  (final.insertionSort (strategy.before · ·)).head?.map fun chosen =>
    ⟨chosen.nodeId, chosen.advertiseUrl⟩

end SnakeArena.Matchmaker
