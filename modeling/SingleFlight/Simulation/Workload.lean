import SingleFlight.Capacity
import SingleFlight.Random.ChaCha

namespace SingleFlight.Simulation

/-- The share of all draws that falls on each rank and those before it. -/
structure Popularity where
  cumulative : Array Float

namespace Popularity

/-- The weight of a rank. -/
def weight (skew : Float) (rank : Nat) : Float :=
  1.0 / Float.pow (rank + 1).toUInt64.toFloat skew

/-- The sums of the weights up to each rank, in the order of addition. -/
def partialSums (skew : Float) (ranks : Nat) : Array Float :=
  ((List.range ranks).foldl
    (fun (sums, total) rank =>
      let total := total + weight skew rank
      (sums.push total, total))
    ((#[] : Array Float), (0.0 : Float))).1

/-- The fault of a number of ranks that ask for too much room. -/
def capacityFault? (ranks : Nat) : Option CapacityFault := CapacityFault.ofList? 8 ranks

/-- The popularity of at least one rank; skews below zero count as zero. -/
def ofSkew (ranks : Nat) (skew : Float) : Popularity :=
  let effective := if 0.0 < skew then skew else 0.0
  let sums := partialSums effective (max ranks 1)
  let total := sums.back?.getD 1.0
  ⟨sums.map (· / total)⟩

def size (popularity : Popularity) : Nat := popularity.cumulative.size

/-- The first place from `low` to `high` whose share reaches a point. -/
def firstFrom (shares : Array Float) (point : Float) : Nat → Nat → Nat → Nat
  | 0, low, _ => low
  | rounds + 1, low, high =>
    if high ≤ low then low
    else
      let middle := (low + high) / 2
      if shares[middle]?.getD 1.0 < point then firstFrom shares point rounds (middle + 1) high
      else firstFrom shares point rounds low middle

/-- The rank on which a point from zero to one falls. -/
def rankOf (popularity : Popularity) (point : Float) : Nat :=
  let shares := popularity.cumulative
  min (firstFrom shares point shares.size 0 shares.size) (shares.size - 1)

/-- Draws a rank. -/
def sample {Source : Type} [Generator Source] (popularity : Popularity) (source : Source) :
    Nat × Source :=
  let (point, rest) := Generator.unit source
  (popularity.rankOf point, rest)

end Popularity

/-- What becomes of a production. -/
inductive Outcome where
  | succeed
  | fail
  /-- The producer dies with the lock in its hands. -/
  | crash
  deriving DecidableEq, Repr

/-- A request for a key, and what becomes of its production. -/
structure Request where
  key : String
  outcome : Outcome
  deriving DecidableEq, Repr

/-- The key of a rank. -/
def keyOf (rank : Nat) : String := "fragment-" ++ toString rank

/-- The requests of one worker: their laws and their source. -/
structure Workload (Source : Type) where
  popularity : Popularity
  failureRate : Float
  abandonRate : Float
  source : Source

namespace Workload

/-- A rate within zero and one. -/
def clamped (rate : Float) : Float :=
  if rate < 0.0 then 0.0 else if 1.0 < rate then 1.0 else rate

/-- The outcome that a point from zero to one falls on. -/
def outcomeOf {Source : Type} (workload : Workload Source) (point : Float) : Outcome :=
  if point < workload.abandonRate then .crash
  else if point < workload.abandonRate + workload.failureRate then .fail
  else .succeed

/-- Draws the next request: first its key, then its outcome. -/
def next {Source : Type} [Generator Source] (workload : Workload Source) :
    Request × Workload Source :=
  let (rank, middle) := workload.popularity.sample workload.source
  let (point, rest) := Generator.unit middle
  (⟨keyOf rank, workload.outcomeOf point⟩, { workload with source := rest })

/-- The workload of a worker, which has a seed of its own. -/
def ofSeed (popularity : Popularity) (failureRate abandonRate : Float) (seed : UInt64)
    (worker : Nat) : Workload ChaCha.Source where
  popularity := popularity
  failureRate := clamped failureRate
  abandonRate := clamped abandonRate
  source := .ofSeed (seed + worker.toUInt64)

end Workload

end SingleFlight.Simulation
