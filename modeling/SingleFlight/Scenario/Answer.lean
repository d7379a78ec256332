import SingleFlight.Fetch
import SingleFlight.Store.Statistics

namespace SingleFlight.Scenario

/-- Why a step is not carried out. -/
inductive Refusal where
  /-- The thread is in the middle of another step. -/
  | busy
  | noHandle
  | noStore
  | noGuard
  /-- Nothing was started on the thread. -/
  | notStarted
  /-- The handle shows no more than that there is an entry. -/
  | notAnEntry
  /-- The clock of the scenario cannot do it. -/
  | wrongClock
  deriving DecidableEq, Repr

/-- A monotonic and a wall time since the start; `none` on the system clock. -/
structure Times where
  monotonic : Option Duration
  wall : Option Int
  deriving DecidableEq, Repr

/-- A sweep report with its times. -/
structure ShownReport where
  scanned : Nat
  evicted : Nat
  finishedAt : Option Int
  duration : Option Duration
  deriving DecidableEq, Repr

/-- A snapshot of a store with its times. -/
structure ShownStatistics where
  statistics : Statistics
  observedAt : Option Int
  lastSweep : Option ShownReport
  deriving DecidableEq, Repr

/-- What can be asked of an entry without waiting, as one thread sees it. -/
structure EntryInfo where
  ttl : Duration
  maxLockHold : Duration
  tag : Option Tag
  content : Option String
  locked : Bool
  held : Bool
  initialized : Bool
  updated : Option Duration
  deriving DecidableEq, Repr

/-- What a step answers. -/
inductive Answer where
  | nothing
  | flag (value : Bool)
  | count (value : Nat)
  | text (value : String)
  | optionalText (value : Option String)
  | texts (values : List String)
  | duration (value : Option Duration)
  | timing (requestTimeout warningDuration : Duration)
  | times (value : Times)
  /-- An entry by its number, in the order in which entries were first answered. -/
  | entry (number : Nat)
  /-- A store by one of its names, if it still has one. -/
  | store (name : Option String)
  | content (result : Except TimedOut String)
  | info (value : EntryInfo)
  | report (value : ShownReport)
  | statistics (value : ShownStatistics)
  | metrics (values : List (String × Option Float))
  /-- The end of a fetch; `inner` are the answers of the producer's own steps. -/
  | fetch (ending : Ending) (called : Bool) (inner : List Answer)
  | panic (message : String)
  | refused (reason : Refusal)
  | configRefused (error : ConfigError)
  | registryRefused (error : RegistryError)
  | started
  | pending
  | several (answers : List Answer)
  /-- An answer with those inside a clock reading, if that came. -/
  | raced (answer : Answer) (race : Option (List Answer))

/-- The answer to a call that may fail with the clock. -/
def Answer.ofResult {α : Type} (shown : α → Answer) : Except ClockFault α → Answer
  | .ok value => shown value
  | .error fault => .panic fault.message

end SingleFlight.Scenario
