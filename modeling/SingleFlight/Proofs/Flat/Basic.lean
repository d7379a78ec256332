import SingleFlight.Store.Lookup
import SingleFlight.Store.Removal
import SingleFlight.Store.Statistics
import SingleFlight.Store.Sweep

namespace SingleFlight

/-- An operation on an entry of which the caller has a handle. -/
inductive EntryCommand where
  | acquire (caller : ThreadId) (entry : EntryId) (request : Request)
  | commit (caller : ThreadId) (entry : EntryId) (content : String) (tag : Option Tag)
  | release (caller : ThreadId) (entry : EntryId)
  | copy (entry : EntryId) (tag : Option Tag) (ttl : Duration)
  /-- Any look at the state of the entry. -/
  | look (entry : EntryId)
  deriving DecidableEq, Repr

/-- A complete operation on a store or on an entry. -/
inductive Command where
  | get (key : String)
  | getOrCreate (asked : Lookup)
  | contains (key : String)
  | remove (key : String)
  | evict (key : String) (entry : EntryId)
  | keys
  | size
  | isEmpty
  | clear
  | destroy
  | sweep
  | statistics
  | entry (command : EntryCommand)
  deriving DecidableEq, Repr

/-- The key that an operation is about, if it is about one. -/
def Command.key? : Command → Option String
  | .get key | .contains key | .remove key | .evict key _ => some key
  | .getOrCreate asked => some asked.key
  | .keys | .size | .isEmpty | .clear | .destroy | .sweep | .statistics | .entry _ => none

/-- What an operation returns. A fault of the clock is passed on. -/
inductive Reply where
  | found (entry : Option EntryId)
  | made (outcome : Except ClockFault EntryId)
  | flag (answer : Bool)
  | count (number : Nat)
  | keys (names : List String)
  | report (outcome : Except ClockFault SweepReport)
  | statistics (outcome : Except ClockFault Statistics)
  | acquisition (outcome : Except ClockFault Acquisition)
  | committed (outcome : Except ClockFault Bool)
  | state (entry : Entry)
  | nothing

/-- Replies are alike if equal, or lists of the same keys. -/
inductive Reply.Agrees : Reply → Reply → Prop where
  | same (reply : Reply) : Agrees reply reply
  | keys {first second : List String} (perm : first.Perm second) : Agrees (.keys first) (.keys second)

/-- Carries out an operation on an entry. -/
def Heap.perform (heap : Heap) (command : EntryCommand) (reading : Reading) : Reply × Heap :=
  match command with
  | .acquire caller entry request =>
    let (outcome, state) := (heap.get entry).acquire caller request reading
    (.acquisition outcome, heap.set entry state)
  | .commit caller entry content tag =>
    let (outcome, state) := (heap.get entry).commit caller content tag reading
    (.committed outcome, heap.set entry state)
  | .release caller entry => (.nothing, heap.set entry ((heap.get entry).release caller))
  | .copy entry tag ttl =>
    match reading with
    | .error fault => (.made (.error fault), heap)
    | .ok now =>
      let source := heap.get entry
      (.made (.ok heap.next), heap.add (Entry.seeded source.content tag ttl source.maxLockHold now))
  | .look entry => (.state (heap.get entry), heap)

/-- The replies to operations, each at a moment of its own. -/
def answers {State : Type} (perform : State → Command → Moment → Reply × State) (state : State) :
    List (Command × Moment) → List Reply
  | [] => []
  | (command, moment) :: rest =>
    let (reply, next) := perform state command moment
    reply :: answers perform next rest

namespace Cache

/-- Removes a key or everything; gives the number of entries removed. -/
def remove (cache : Cache) (removal : Removal) (moment : Moment) : Nat × Cache :=
  let (phase, cache, _) :=
    Removal.procedure.undisturbed moment (removal.start cache.store.segments.count) cache
  (phase.removed, cache)

/-- Carries out an operation on a cache. -/
def perform (cache : Cache) (command : Command) (moment : Moment) : Reply × Cache :=
  match command with
  | .get key => (.found (cache.store.lookup key), cache)
  | .getOrCreate asked =>
    match asked.procedure.undisturbed moment .finding cache with
    | (.finished outcome, cache, _) => (.made outcome, cache)
    | (_, cache, _) => (.nothing, cache)
  | .contains key => (.flag (cache.store.contains key), cache)
  | .remove key =>
    let (removed, cache) := cache.remove (.key key) moment
    (.flag (removed != 0), cache)
  | .evict key entry =>
    let (evicted, store) := cache.store.evict key entry
    (.flag evicted, { cache with store })
  | .keys => (.keys cache.store.keys, cache)
  | .size => (.count cache.store.size, cache)
  | .isEmpty => (.flag cache.store.isEmpty, cache)
  | .clear =>
    let (removed, cache) := cache.remove .all moment
    (.count removed, cache)
  | .destroy => (.nothing, (cache.remove .all moment).2)
  | .sweep =>
    match Sweep.procedure.undisturbed moment .starting cache with
    | (.finished outcome, cache, _) => (.report outcome, cache)
    | (_, cache, _) => (.nothing, cache)
  | .statistics => (.statistics (moment.wall.map cache.store.statistics), cache)
  | .entry command =>
    let (reply, heap) := cache.heap.perform command moment.monotonic
    (reply, { cache with heap })

/-- A cache after operations one after the other. -/
def performAll (cache : Cache) (uses : List (Command × Moment)) : Cache :=
  uses.foldl (fun cache use => (cache.perform use.1 use.2).2) cache

end Cache

/-- A cache whose keys stand in one table. -/
structure Flat where
  heap : Heap
  table : Table
  maxLockHold : Duration
  created : Nat
  replaced : Nat
  evictions : Nat
  lastSweep : Option SweepReport
  sweeps : Nat

namespace Flat

def empty (maxLockHold : Duration) : Flat := ⟨.empty, [], maxLockHold, 0, 0, 0, none, 0⟩

/-- The entry of a key: its own, a copy if its lock is abandoned, or new. -/
def getOrCreate (flat : Flat) (asked : Lookup) (reading : Reading) :
    Except ClockFault EntryId × Flat :=
  match reading with
  | .error fault => (.error fault, flat)
  | .ok now =>
    let put (entry : Entry) : Flat :=
      { flat with
        heap := flat.heap.add entry
        table := flat.table.put asked.key flat.heap.next }
    match flat.table.lookup asked.key with
    | none =>
      let made := Entry.fresh asked.tag asked.ttl flat.maxLockHold now
      (.ok flat.heap.next, { put made with created := flat.created + 1 })
    | some found =>
      let state := flat.heap.get found
      if state.isAbandoned now then
        let copy := Entry.seeded state.content asked.tag asked.ttl state.maxLockHold now
        (.ok flat.heap.next, { put copy with replaced := flat.replaced + 1 })
      else (.ok found, flat)

/-- Takes a key out and counts it. -/
def drop (flat : Flat) (key : String) : Flat :=
  { flat with table := flat.table.without key, evictions := flat.evictions + 1 }

def remove (flat : Flat) (key : String) : Bool × Flat :=
  if (flat.table.lookup key).isSome then (true, flat.drop key) else (false, flat)

def evict (flat : Flat) (key : String) (expected : EntryId) : Bool × Flat :=
  if flat.table.lookup key = some expected then (true, flat.drop key) else (false, flat)

def clear (flat : Flat) : Nat × Flat :=
  (flat.table.length, { flat with table := [], evictions := flat.evictions + flat.table.length })

/-- Drops what is expired or abandoned, and publishes a report. -/
def sweep (flat : Flat) (moment : Moment) : Except ClockFault SweepReport × Flat :=
  match moment.monotonic with
  | .error fault => (.error fault, flat)
  | .ok now =>
    let condemned (slot : String × EntryId) : Bool := (flat.heap.get slot.2).isDisposable now
    let evicted := (flat.table.filter condemned).length
    let swept := { flat with
      table := flat.table.filter fun slot => !condemned slot
      evictions := flat.evictions + evicted }
    match moment.wall with
    | .error fault => (.error fault, swept)
    | .ok finishedAt =>
      let report : SweepReport := ⟨flat.table.length, evicted, finishedAt, .zero⟩
      (.ok report, { swept with lastSweep := some report, sweeps := flat.sweeps + 1 })

def statistics (flat : Flat) (observedAt : WallTime) : Statistics where
  cacheSize := flat.table.length
  observedAt := observedAt
  lastSweep := flat.lastSweep
  sweepsRun := flat.sweeps
  entriesCreated := flat.created
  abandonedReplaced := flat.replaced
  evictions := flat.evictions

/-- Carries out an operation on a flat cache. -/
def perform (flat : Flat) (command : Command) (moment : Moment) : Reply × Flat :=
  match command with
  | .get key => (.found (flat.table.lookup key), flat)
  | .getOrCreate asked =>
    let (outcome, flat) := flat.getOrCreate asked moment.monotonic
    (.made outcome, flat)
  | .contains key => (.flag (flat.table.lookup key).isSome, flat)
  | .remove key =>
    let (removed, flat) := flat.remove key
    (.flag removed, flat)
  | .evict key entry =>
    let (evicted, flat) := flat.evict key entry
    (.flag evicted, flat)
  | .keys => (.keys (flat.table.map Prod.fst), flat)
  | .size => (.count flat.table.length, flat)
  | .isEmpty => (.flag flat.table.isEmpty, flat)
  | .clear =>
    let (removed, flat) := flat.clear
    (.count removed, flat)
  | .destroy => (.nothing, flat.clear.2)
  | .sweep =>
    let (outcome, flat) := flat.sweep moment
    (.report outcome, flat)
  | .statistics => (.statistics (moment.wall.map flat.statistics), flat)
  | .entry command =>
    let (reply, heap) := flat.heap.perform command moment.monotonic
    (reply, { flat with heap })

end Flat

end SingleFlight
