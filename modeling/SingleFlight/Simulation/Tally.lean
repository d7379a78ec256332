import SingleFlight.Simulation.Latency
import SingleFlight.Time.Duration

namespace SingleFlight.Simulation

/-- The counters of a strategy. -/
structure Tally where
  requests : Nat
  productions : Nat
  /-- Requests that were answered without a production. -/
  cached : Nat
  /-- Readers that gave up waiting. -/
  timeouts : Nat
  failures : Nat
  /-- Producers that died. -/
  abandoned : Nat
  deriving DecidableEq, Repr

/-- How a store stood at the end. -/
structure StoreSummary where
  finalSize : Nat
  entriesCreated : Nat
  abandonedReplaced : Nat
  evictions : Nat
  sweepsRun : Nat
  deriving DecidableEq, Repr

/-- The result of a strategy. -/
structure StrategyResult where
  tally : Tally
  wallTime : Duration
  latency : LatencySummary
  store : Option StoreSummary
  deriving DecidableEq, Repr

namespace Tally

def zero : Tally := ⟨0, 0, 0, 0, 0, 0⟩

/-- The counters of two workers together. -/
def absorb (a b : Tally) : Tally where
  requests := a.requests + b.requests
  productions := a.productions + b.productions
  cached := a.cached + b.cached
  timeouts := a.timeouts + b.timeouts
  failures := a.failures + b.failures
  abandoned := a.abandoned + b.abandoned

def addRequest (tally : Tally) : Tally := { tally with requests := tally.requests + 1 }

def addProduction (tally : Tally) : Tally := { tally with productions := tally.productions + 1 }

def addCached (tally : Tally) : Tally := { tally with cached := tally.cached + 1 }

def addTimeout (tally : Tally) : Tally := { tally with timeouts := tally.timeouts + 1 }

def addFailure (tally : Tally) : Tally := { tally with failures := tally.failures + 1 }

def addAbandoned (tally : Tally) : Tally := { tally with abandoned := tally.abandoned + 1 }

/-- The percentage of the requests that were answered without a production. -/
def cachedRate (tally : Tally) : Float :=
  if tally.requests = 0 then 0.0
  else tally.cached.toUInt64.toFloat / tally.requests.toUInt64.toFloat * 100.0

/-- The productions per thousand requests. -/
def productionsPerMille (tally : Tally) : Float :=
  if tally.requests = 0 then 0.0
  else tally.productions.toUInt64.toFloat * 1000.0 / tally.requests.toUInt64.toFloat

end Tally

namespace StrategyResult

/-- The result of no request. -/
def empty : StrategyResult := ⟨.zero, .zero, .empty, none⟩

/-- Adds the counters of another result; all else stays. -/
def absorb (result other : StrategyResult) : StrategyResult :=
  { result with tally := result.tally.absorb other.tally }

/-- The requests per second of wall time. -/
def throughput (result : StrategyResult) : Float :=
  let seconds := result.wallTime.secondsFloat
  if 0.0 < seconds then result.tally.requests.toUInt64.toFloat / seconds else 0.0

end StrategyResult

end SingleFlight.Simulation
