import SingleFlight.Gate
import SingleFlight.Guard
import SingleFlight.Store.Lookup

namespace SingleFlight

/-- How a caller wants a content. -/
structure FetchOptions where
  condition : Option String
  ttl : Duration
  wait : Duration
  forceRefresh : Bool
  slowThreshold : Duration
  deriving DecidableEq, Repr

namespace FetchOptions

/-- Options with a time to live, 20 s of waiting and a late warning. -/
def standard (ttl : Duration) : FetchOptions where
  condition := none
  ttl := ttl
  wait := .ofSeconds 20
  forceRefresh := false
  slowThreshold := .ofSeconds 10

/-- The tag that the content is made for. -/
def tag (options : FetchOptions) : Option Tag := Tag.normalized options.condition

/-- What the caller asks of the lock. -/
def request (options : FetchOptions) : Request :=
  if options.forceRefresh then .forced else .ifStale options.tag

def describe (options : FetchOptions) : String :=
  Text.record "FetchOptions"
    [("condition", Text.optional Text.quoted options.condition), ("ttl", options.ttl.text),
      ("wait", options.wait.text), ("force_refresh", Text.flag options.forceRefresh),
      ("slow_threshold", options.slowThreshold.text)]

end FetchOptions

/-- A content, and where it came from. -/
inductive Fetched where
  | produced (content : String)
  | cached (content : String)
  | uncached (content : String)
  deriving DecidableEq, Repr

namespace Fetched

def content : Fetched → String
  | produced content | cached content | uncached content => content

/-- Whether the caller's own producer made the content. -/
def wasProduced : Fetched → Bool
  | cached _ => false
  | produced _ | uncached _ => true

end Fetched

/-- What a producer does in the end. -/
inductive Production where
  | content (text : String)
  | failure (error : String)
  | crash (message : String)
  deriving DecidableEq, Repr

/-- How a fetch ends. A crash passes on its message. -/
inductive Ending where
  | fetched (result : Fetched)
  | failed (error : FetchError String)
  | crashed (message : String)
  deriving DecidableEq, Repr

/-- A thread that fetches a key. -/
structure Fetch where
  caller : ThreadId
  key : String
  options : FetchOptions
  deriving DecidableEq, Repr

namespace Fetch

/-- Where a fetch stands. -/
inductive Phase where
  | looking (lookup : Lookup.Phase)
  | acquiring (entry : EntryId)
  | waiting (entry : EntryId) (reader : Reader)
  /-- The lock is held and the producer runs. -/
  | producing (entry : EntryId)
  | committing (entry : EntryId) (content : String)
  /-- Before the guard is dropped. -/
  | releasing (entry : EntryId) (ending : Ending)
  | finished (ending : Ending)
  deriving Repr

/-- The lookup that a fetch begins with. -/
def lookup (fetch : Fetch) : Lookup := ⟨fetch.key, fetch.options.tag, fetch.options.ttl⟩

/-- A fetch begins with the lookup of its key. -/
def start : Phase := .looking .finding

def clockUse (fetch : Fetch) (phase : Phase) (cache : Cache) : ClockUse :=
  match phase with
  | .looking inner => fetch.lookup.clockUse inner cache
  | .acquiring entry => if (cache.heap.get entry).acquireReads then .monotonic else .unused
  | .committing entry _ =>
    if (cache.heap.get entry).commitReads fetch.caller then .monotonic else .unused
  | .waiting _ _ | .producing _ | .releasing _ _ | .finished _ => .unused

/-- Goes on when the lookup is over. -/
def afterLookup : Lookup.Phase → Phase
  | .finished (.ok entry) => .acquiring entry
  | .finished (.error fault) => .finished (.crashed fault.message)
  | inner => .looking inner

/-- Goes on when the reader returns. -/
def afterLook (entry : EntryId) : Reader → Phase
  | .returned (.ok content) => .finished (.fetched (.cached content))
  | .returned (.error error) => .finished (.failed (.timedOut error))
  | reader => .waiting entry reader

/-- Asks for the lock: who has it produces, all others wait. -/
def acquire (fetch : Fetch) (entry : EntryId) (reading : Reading) (cache : Cache) :
    Phase × Cache × List Event :=
  let (outcome, next) := (cache.heap.get entry).acquire fetch.caller fetch.options.request reading
  match outcome with
  | .error fault => (.finished (.crashed fault.message), cache.setEntry entry next, [])
  | .ok outcome =>
    (if outcome.held then .producing entry else .waiting entry .arriving,
      cache.setEntry entry next, [.acquisition fetch.options.request outcome])

/-- Commits what was produced. A fault of the clock leaves the lock. -/
def commit (fetch : Fetch) (entry : EntryId) (content : String) (reading : Reading)
    (cache : Cache) : Phase × Cache × List Event :=
  let guard : Guard := ⟨fetch.caller, entry⟩
  let (outcome, heap, events) := guard.commit content fetch.options.tag reading cache.heap
  let ending := match outcome with
    | .ok _ => .fetched (.produced content)
    | .error fault => .crashed fault.message
  (.finished ending, { cache with heap }, events)

def step (fetch : Fetch) (phase : Phase) (moment : Moment) (cache : Cache) :
    Phase × Cache × List Event :=
  match phase with
  | .looking inner =>
    let (next, cache, events) := fetch.lookup.step inner moment cache
    (afterLookup next, cache, events)
  | .acquiring entry => fetch.acquire entry moment.monotonic cache
  | .waiting entry reader =>
    (afterLook entry (reader.look fetch.options.wait (cache.heap.get entry)), cache, [])
  | .producing entry => (.producing entry, cache, [])
  | .committing entry content => fetch.commit entry content moment.monotonic cache
  | .releasing entry ending =>
    let guard : Guard := ⟨fetch.caller, entry⟩
    (.finished ending, { cache with heap := guard.drop cache.heap }, [])
  | .finished ending => (.finished ending, cache, [])

/-- The entry at whose gate a step signals to the readers. -/
def signal? (fetch : Fetch) (phase : Phase) (moment : Moment) (cache : Cache) : Option EntryId :=
  match phase with
  | .committing entry content =>
    let committed := (cache.heap.get entry).commitAndSignal fetch.caller content
      fetch.options.tag moment.monotonic
    if committed.signals then some entry else none
  | .looking _ | .acquiring _ | .waiting _ _ | .producing _ | .releasing _ _ | .finished _ => none

def remaining : Phase → Nat
  | .looking inner => Lookup.remaining inner + 3
  | .acquiring _ => 2
  | .waiting _ .arriving | .waiting _ .notified | .waiting _ .late => 1
  | .waiting _ .parked | .waiting _ (.returned _) => 0
  | .producing _ => 0
  | .committing _ _ => 1
  | .releasing _ _ => 1
  | .finished _ => 0

/-- The fetch as a procedure; it starts at `start`. -/
def procedure (fetch : Fetch) : Procedure Phase := ⟨fetch.clockUse, fetch.step, remaining⟩

/-- Goes on after the producer, which took `elapsed` of real time. -/
def afterProduction (fetch : Fetch) (production : Production) (elapsed : Duration) :
    Phase → Phase × List Event
  | .producing entry =>
    match production with
    | .content text =>
      (.committing entry text,
        if fetch.options.slowThreshold ≤ elapsed then [.slowProduction fetch.key] else [])
    | .failure error => (.releasing entry (.failed (.producer error)), [])
    | .crash message => (.releasing entry (.crashed message), [])
  | phase => (phase, [])

/-- The gate has opened. -/
def notify : Phase → Phase
  | .waiting entry reader => .waiting entry reader.notify
  | phase => phase

/-- The time to wait is up. -/
def expire : Phase → Phase
  | .waiting entry reader => .waiting entry reader.expire
  | phase => phase

/-- A whole fetch with nothing in between, on a clock that stands still. -/
def undisturbed (fetch : Fetch) (production : Production) (moment : Moment) (cache : Cache) :
    Phase × Cache × List Event :=
  let (asked, cache, before) := fetch.procedure.undisturbed moment start cache
  let (produced, between) := fetch.afterProduction production .zero asked
  let (ended, cache, after) := fetch.procedure.undisturbed moment (expire produced) cache
  (ended, cache, before ++ between ++ after)

/-- The ending of a fetch that is over. -/
def Phase.ending? : Phase → Option Ending
  | .finished ending => some ending
  | _ => none

end Fetch

end SingleFlight
