import SingleFlight.Store.Basic

namespace SingleFlight

/-- A snapshot of a store. -/
structure Statistics where
  cacheSize : Nat
  observedAt : WallTime
  lastSweep : Option SweepReport
  sweepsRun : Nat
  entriesCreated : Nat
  abandonedReplaced : Nat
  evictions : Nat
  deriving DecidableEq, Repr

/-- The snapshot of a store at a wall time. -/
def Store.statistics (store : Store) (observedAt : WallTime) : Statistics where
  cacheSize := store.size
  observedAt := observedAt
  lastSweep := store.lastSweep
  sweepsRun := store.sweeps
  entriesCreated := store.created
  abandonedReplaced := store.replaced
  evictions := store.evictions

namespace Statistics

/-- A count as a floating-point number. -/
def countFloat (count : Nat) : Float := count.toUInt64.toFloat

/-- The numbers of the last sweep. -/
def sweepMetrics (report : SweepReport) : List (String × Float) :=
  [("last_sweep_at_ms", report.finishedAt.epochMillis),
    ("last_sweep_duration_ms", report.duration.millisFloat),
    ("last_sweep_evicted", countFloat report.evicted),
    ("last_sweep_scanned", countFloat report.scanned)]

/-- The numbers of a snapshot in the order of their names. -/
def metrics (statistics : Statistics) : List (String × Float) :=
  [("abandoned_replaced", countFloat statistics.abandonedReplaced),
    ("cache_size", countFloat statistics.cacheSize),
    ("entries_created", countFloat statistics.entriesCreated),
    ("evictions", countFloat statistics.evictions)]
  ++ (statistics.lastSweep.map sweepMetrics).getD []
  ++ [("observed_at_ms", statistics.observedAt.epochMillis),
    ("sweeps_run", countFloat statistics.sweepsRun)]

end Statistics

end SingleFlight
