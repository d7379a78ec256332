import SingleFlight.Random.Generator

namespace SingleFlight.Simulation

/-- The largest number of nanoseconds that is counted. -/
def latencyLimit : Nat := UInt64.size - 1

/-- The latencies that a tracker keeps for the percentiles. -/
def sampleLimit : Nat := 5000

/-- The latencies of one worker. -/
structure LatencyTracker where
  total : Nat
  count : Nat
  least : Nat
  largest : Nat
  samples : Array Nat
  deriving DecidableEq, Repr

/-- The latencies that half, nine tenths and 99 of 100 samples stay below. -/
structure Percentiles where
  p50 : Nat
  p90 : Nat
  p99 : Nat
  deriving DecidableEq, Repr

/-- The latencies of all workers. -/
structure LatencySummary where
  total : Nat
  count : Nat
  least : Nat
  largest : Nat
  percentiles : Percentiles
  deriving DecidableEq, Repr

/-- The percentiles of samples: the places are rounded down and stay inside. -/
def Percentiles.ofSamples (samples : List Nat) : Percentiles :=
  let sorted := (samples.mergeSort fun a b => a ≤ b).toArray
  let place (percent : Nat) : Nat :=
    sorted[min (sorted.size * percent / 100) (sorted.size - 1)]?.getD 0
  ⟨place 50, place 90, place 99⟩

namespace LatencyTracker

/-- A tracker of no latency. -/
def empty : LatencyTracker := ⟨0, 0, latencyLimit, 0, #[]⟩

section
variable {Source : Type} (draw : Nat → Source → Nat × Source)

/-- Puts a latency into the sample, at a drawn place if it is full. -/
def keep (tracker : LatencyTracker) (latency : Nat) (source : Source) : Array Nat × Source :=
  if tracker.samples.size < sampleLimit then (tracker.samples.push latency, source)
  else
    let (place, rest) := draw (tracker.count + 1) source
    if place < sampleLimit then (tracker.samples.setIfInBounds place latency, rest)
    else (tracker.samples, rest)

/-- Records a latency with numbers that are drawn in some way. -/
def recordBy (tracker : LatencyTracker) (latency : Nat) (source : Source) :
    LatencyTracker × Source :=
  let (samples, rest) := tracker.keep draw latency source
  ({ total := min (tracker.total + latency) latencyLimit
     count := tracker.count + 1
     least := min tracker.least latency
     largest := max tracker.largest latency
     samples := samples }, rest)

/-- Records latencies one after the other with numbers that are drawn in some way. -/
def recordAllBy (tracker : LatencyTracker) (source : Source) : List Nat → LatencyTracker × Source
  | [] => (tracker, source)
  | latency :: rest =>
    let (next, drawn) := tracker.recordBy draw latency source
    next.recordAllBy drawn rest

end

/-- Records a latency. -/
def record {Source : Type} [Generator Source] (tracker : LatencyTracker) (latency : Nat)
    (source : Source) : LatencyTracker × Source :=
  tracker.recordBy Generator.below latency source

/-- Records latencies one after the other. -/
def recordAll {Source : Type} [Generator Source] (tracker : LatencyTracker) (source : Source)
    (latencies : List Nat) : LatencyTracker × Source :=
  tracker.recordAllBy Generator.below source latencies

/-- The summary of the trackers of all workers. -/
def merge (trackers : List LatencyTracker) : LatencySummary :=
  let count := trackers.foldl (fun total tracker => total + tracker.count) 0
  { total := trackers.foldl (fun total tracker => min (total + tracker.total) latencyLimit) 0
    count := count
    least :=
      if count = 0 then 0
      else trackers.foldl (fun least tracker => min least tracker.least) latencyLimit
    largest := trackers.foldl (fun largest tracker => max largest tracker.largest) 0
    percentiles := .ofSamples (trackers.flatMap fun tracker => tracker.samples.toList) }

end LatencyTracker

namespace LatencySummary

/-- The summary of no latency. -/
def empty : LatencySummary := ⟨0, 0, 0, 0, ⟨0, 0, 0⟩⟩

/-- The mean latency in nanoseconds; zero without one. -/
def average (summary : LatencySummary) : Float :=
  if summary.count = 0 then 0.0
  else summary.total.toUInt64.toFloat / summary.count.toUInt64.toFloat

end LatencySummary

end SingleFlight.Simulation
