import SingleFlight.Entry

namespace SingleFlight

/-- How much attention an event asks for. -/
inductive Level where
  | trace
  | debug
  | info
  | warn
  deriving DecidableEq, Repr

def Level.name : Level → String
  | .trace => "TRACE"
  | .debug => "DEBUG"
  | .info => "INFO"
  | .warn => "WARN"

/-- The value of a field of an event. -/
inductive FieldValue where
  | text (value : String)
  | count (value : Nat)
  | flag (value : Bool)
  deriving DecidableEq, Repr

/-- What can happen. -/
inductive Event where
  | acquisition (request : Request) (outcome : Acquisition)
  | created (key : String)
  | replaced (key : String) (maxLockHold : Duration)
  | destroyed (removed : Nat)
  | swept (scanned evicted : Nat) (elapsed : Duration)
  | reclaimerScheduled (interval : Duration)
  | reclaimerStopped
  | commitLost
  | slowProduction (key : String)
  | strategyRegistered (name : String)
  | cachingEnabled
  | cachingDisabled (cleared : Nat)
  | registryDestroyed
  deriving DecidableEq, Repr

namespace Event

def level : Event → Level
  | acquisition _ _ | created _ => .trace
  | destroyed _ | reclaimerScheduled _ | reclaimerStopped | registryDestroyed => .debug
  | swept _ _ _ | strategyRegistered _ | cachingEnabled | cachingDisabled _ => .info
  | replaced _ _ | commitLost | slowProduction _ => .warn

def message : Event → String
  | acquisition _ .granted => "lock for update granted"
  | acquisition _ .reentrant => "re-entrant acquisition"
  | acquisition _ .heldElsewhere => "lock held by another thread"
  | acquisition _ .fresh => "fragment is fresh"
  | created _ => "created fragment"
  | replaced _ _ => "replaced fragment with abandoned update lock"
  | destroyed _ => "fragment store destroyed"
  | swept _ _ _ => "fragment sweep finished"
  | reclaimerScheduled _ => "reclaimer scheduled"
  | reclaimerStopped => "reclaimer stopped"
  | commitLost => "lost the update lock before committing; content discarded"
  | slowProduction _ => "slow fragment production"
  | strategyRegistered _ => "registered fragment cache strategy"
  | cachingEnabled => "fragment caching enabled"
  | cachingDisabled _ => "fragment caching disabled"
  | registryDestroyed => "fragment cache registry destroyed"

/-- Whole milliseconds in a field of 64 bits. -/
def millisField (d : Duration) : FieldValue := .count (d.millis % UInt64.size)

/-- The fields of an event; a tag that is missing has no field. -/
def fields : Event → List (String × FieldValue)
  | acquisition request .granted => [("forced", .flag (request = .forced))]
  | acquisition (.ifStale (some tag)) .fresh => [("condition", .text tag.text)]
  | acquisition _ _ => []
  | created key => [("key", .text key)]
  | replaced key maxLockHold =>
    [("key", .text key), ("max_lock_hold_ms", millisField maxLockHold)]
  | destroyed removed => [("removed", .count removed)]
  | swept scanned evicted elapsed =>
    [("scanned", .count scanned), ("evicted", .count evicted), ("elapsed_ms", millisField elapsed)]
  | reclaimerScheduled interval => [("interval_ms", millisField interval)]
  | reclaimerStopped => []
  | commitLost => []
  | slowProduction key => [("key", .text key)]
  | strategyRegistered name => [("strategy", .text name)]
  | cachingEnabled => []
  | cachingDisabled cleared => [("cleared", .count cleared)]
  | registryDestroyed => []

end Event

end SingleFlight
