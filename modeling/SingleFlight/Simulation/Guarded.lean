import SingleFlight.Fetch
import SingleFlight.Simulation.Crew
import SingleFlight.Simulation.Render

namespace SingleFlight.Simulation.Guarded

/-- How requests are made and how long rendering takes. -/
structure Terms where
  ttl : Duration
  wait : Duration
  produceTime : Duration
  deriving DecidableEq, Repr

/-- The cache, and the number of threads there have been. -/
structure Shared where
  cache : Cache
  threads : Nat

/-- Where a visit stands. -/
inductive Phase where
  | arriving
  /-- The thread that is to die looks up the key. -/
  | dooming (thread : ThreadId) (lookup : Lookup.Phase)
  /-- The thread that is to die asks for the lock. -/
  | seizing (thread : ThreadId) (entry : EntryId)
  /-- The fetch, and how often it has rendered. -/
  | fetching (outcome : Outcome) (productions : Nat) (fetch : Fetch.Phase)
  /-- A thread has died with the lock. -/
  | abandoned
  deriving Repr

/-- One request of a worker on its way. -/
structure Visit where
  worker : ThreadId
  request : Request
  phase : Phase
  deriving Repr

/-- The lookup of a thread that is to die. -/
def Visit.doomedLookup (visit : Visit) (terms : Terms) : Lookup :=
  ⟨visit.request.key, none, terms.ttl⟩

/-- The fetch of a worker. -/
def Visit.fetch (visit : Visit) (terms : Terms) : Fetch where
  caller := visit.worker
  key := visit.request.key
  options := { FetchOptions.standard terms.ttl with wait := terms.wait }

/-- The fetch of a request that renders with an outcome. -/
def fetchWith (outcome : Outcome) : Phase := .fetching outcome 0 Fetch.start

/-- A new thread takes over a request that is to crash. -/
def arrive (request : Request) (shared : Shared) : Phase × Shared :=
  match request.outcome with
  | .crash => (.dooming ⟨shared.threads⟩ .finding, { shared with threads := shared.threads + 1 })
  | .succeed => (fetchWith .succeed, shared)
  | .fail => (fetchWith .fail, shared)

/-- Goes on when the lookup of a thread that is to die is over. -/
def afterLookup (thread : ThreadId) : Lookup.Phase → Phase
  | .finished (.ok entry) => .seizing thread entry
  | .finished (.error _) => fetchWith .succeed
  | inner => .dooming thread inner

/-- A thread that is to die asks for the lock. -/
def seize (thread : ThreadId) (entry : EntryId) (reading : Reading) (cache : Cache) :
    Phase × Cache :=
  let (outcome, next) := (cache.heap.get entry).acquire thread (.ifStale none) reading
  let phase := match outcome with
    | .ok outcome => if outcome.held then .abandoned else fetchWith .succeed
    | .error _ => fetchWith .succeed
  (phase, cache.setEntry entry next)

/-- What the producer of a request does. -/
def production (key : String) (outcome : Outcome) : Production :=
  match render key outcome with
  | .ok content => .content content
  | .error error => .failure error.message

/-- A step of the fetch; rendering and waking are steps too. -/
def fetchStep (fetch : Fetch) (produceTime : Duration) (outcome : Outcome) (productions : Nat)
    (moment : Moment) (cache : Cache) : Fetch.Phase → Phase × Cache
  | .producing entry =>
    let (next, _) :=
      fetch.afterProduction (production fetch.key outcome) produceTime (.producing entry)
    (.fetching outcome (productions + 1) next, cache)
  | .waiting entry .parked =>
    let waiting : Fetch.Phase := .waiting entry .parked
    (.fetching outcome productions
      (if (cache.heap.get entry).gateOpen then Fetch.notify waiting else waiting), cache)
  | inner =>
    let (next, cache, _) := fetch.step inner moment cache
    (.fetching outcome productions next, cache)

def step (terms : Terms) (visit : Visit) (now : Instant) (shared : Shared) : Visit × Shared :=
  let moment : Moment := ⟨.ok now, .error .wallBeyondPlatform⟩
  match visit.phase with
  | .arriving =>
    let (phase, shared) := arrive visit.request shared
    ({ visit with phase }, shared)
  | .dooming thread lookup =>
    let (next, cache, _) := (visit.doomedLookup terms).step lookup moment shared.cache
    ({ visit with phase := afterLookup thread next }, { shared with cache })
  | .seizing thread entry =>
    let (phase, cache) := seize thread entry moment.monotonic shared.cache
    ({ visit with phase }, { shared with cache })
  | .fetching outcome productions inner =>
    let (phase, cache) :=
      fetchStep (visit.fetch terms) terms.produceTime outcome productions moment shared.cache inner
    ({ visit with phase }, { shared with cache })
  | .abandoned => (visit, shared)

/-- Whether a visit waits at a closed gate. -/
def isParked (visit : Visit) (shared : Shared) : Bool :=
  match visit.phase with
  | .fetching _ _ (.waiting entry .parked) => !(shared.cache.heap.get entry).gateOpen
  | _ => false

def expire (visit : Visit) : Visit :=
  match visit.phase with
  | .fetching outcome productions inner =>
    { visit with phase := .fetching outcome productions (Fetch.expire inner) }
  | _ => visit

/-- Rendering takes time. -/
def cost (terms : Terms) (visit : Visit) : Duration :=
  match visit.phase with
  | .fetching _ _ (.producing _) => terms.produceTime
  | _ => .zero

/-- What a fetch that is over adds to the counters. -/
def counted (productions : Nat) (ending : Ending) : VisitEnd :=
  let tally := { Tally.zero with productions }
  match ending with
  | .fetched (.cached _) => .counted tally.addCached
  | .fetched (.produced _) | .fetched (.uncached _) => .counted tally
  | .failed (.timedOut _) => .counted tally.addTimeout
  | .failed (.producer _) => .counted tally.addFailure
  | .failed (.strategy _) => .counted tally
  | .crashed _ => .crashed

def ending? (visit : Visit) : Option VisitEnd :=
  match visit.phase with
  | .fetching _ productions (.finished ending) => some (counted productions ending)
  | .abandoned => some (.counted Tally.zero.addAbandoned)
  | .arriving | .dooming _ _ | .seizing _ _ | .fetching _ _ _ => none

/-- Requests as a service, each worker on the thread of its number. -/
def service (terms : Terms) : Service Shared Visit where
  enter number request := ⟨⟨number⟩, request, .arriving⟩
  step := step terms
  isParked := isParked
  expire := expire
  cost := cost terms
  patience := some terms.wait
  ending? := ending?
  turns := 24

/-- An empty cache for a number of workers. -/
def Shared.start (store : Store) (workers : Nat) : Shared := ⟨⟨.empty, store⟩, workers⟩

/-- How the store stands. -/
def Shared.summary (shared : Shared) : StoreSummary :=
  let store := shared.cache.store
  ⟨store.size, store.created, store.replaced, store.evictions, store.sweeps⟩

end SingleFlight.Simulation.Guarded
