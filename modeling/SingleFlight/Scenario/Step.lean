import SingleFlight.Config
import SingleFlight.Fetch

namespace SingleFlight.Scenario

/-- Calls on a store. -/
inductive StoreCall where
  | getOrCreate (key : String) (condition : Option String) (ttl : Duration) (name : Option String)
  | get (key : String) (name : Option String)
  | contains (key : String)
  | remove (key : String)
  | size
  | isEmpty
  | clear
  | destroy
  | keys
  | evict (key handle : String)
  | segmentCount
  | maxLockHold
  | strategyName
  | describe
  | reclaimerInterval
  | now
  | sweep
  | statistics
  | metrics
  | schedule (interval : Duration) (runNow : Bool)
  /-- Waits until the background sweeps have dropped the key. -/
  | awaitGone (key : String)
  /-- Waits until that many sweeps have run. -/
  | awaitSweeps (count : Nat)

/-- Calls on an entry. -/
inductive EntryCall where
  | acquire (request : Request)
  | commit (content : String) (tag : Option Tag)
  | release
  | isAbandoned
  | isDisposable
  | content (timeout : Duration)
  | copy (tag : Option Tag) (ttl : Duration) (name : Option String)
  | describe
  | same (other : String)
  | info

/-- Calls on a guard of the thread. -/
inductive GuardCall where
  | take (handle : String) (request : Request)
  | commit (content : String) (tag : Option Tag)
  | abort
  | drop
  /-- The guard is dropped because the thread unwinds. -/
  | crash (message : String)
  | previous
  | describe

/-- Calls on the registry. -/
inductive RegistryCall where
  | register (name store : String)
  | strategy (name : String)
  | defaultStrategy
  | resolve (name : Option String)
  | defaultName
  | setDefault (name : String)
  | names
  | enable
  | disable
  | isEnabled
  | timing
  | setRequestTimeout (timeout : Duration)
  | setWarningDuration (duration : Duration)
  | destroy
  | describe
  /-- Puts a new registry in place of this one. -/
  | renew

/-- Calls on the clock, and real time. -/
inductive ClockCall where
  | advance (amount : Duration)
  | set (elapsed : Duration)
  | elapsed
  | describe
  | times
  | sleep (amount : Duration)

/-- What concerns threads and the table of stores. -/
inductive TableCall where
  | newStore (name : String) (settings : List Config.Setting)
  | dropStore (name : String)
  | join (thread : String) (poll : Bool)
  | endThread (thread : String)

/-- A call without steps inside. `erased` handles show no entry. -/
inductive Call where
  | store (name : String) (erased : Bool) (call : StoreCall)
  | entry (handle : String) (call : EntryCall)
  | guard (name : String) (call : GuardCall)
  | registry (call : RegistryCall)
  | clock (call : ClockCall)
  | table (call : TableCall)

/-- What a fetch is made through. -/
inductive FetchTarget where
  | store (name : String) (options : FetchOptions)
  | registry (name : Option String) (condition : Option String) (ttl : Duration)
    (forceRefresh : Bool)

/-- A step of a scenario. -/
inductive Step where
  | call (call : Call)
  /-- A fetch whose producer first runs `inner` and then does as `production` says. -/
  | fetch (target : FetchTarget) (key : String) (inner : List Step) (production : Production)
  | block (steps : List Step)
  /-- A step on a named thread, for which a `detached` one is not waited. -/
  | on (thread : String) (detached : Bool) (step : Step)
  /-- A step into whose clock reading of number `place` other steps are put. -/
  | racing (place : Nat) (race : List Step) (step : Step)

end SingleFlight.Scenario
