import SingleFlight.Config
import SingleFlight.Store.Segments

namespace SingleFlight

/-- What a sweep has done. `finishedAt` is the wall time of its end. -/
structure SweepReport where
  scanned : Nat
  evicted : Nat
  finishedAt : WallTime
  duration : Duration
  deriving DecidableEq, Repr

/-- A store of entries. -/
structure Store where
  segments : Segments
  maxLockHold : Duration
  created : Nat
  replaced : Nat
  evictions : Nat
  lastSweep : Option SweepReport
  sweeps : Nat

/-- Why a store is not made: a refused setting or too much room. -/
inductive StoreFault where
  | config (error : ConfigError)
  | capacity (fault : CapacityFault)

theorem Config.segments_pos {config : Config} (sound : config.fault? = none) :
    0 < config.segments := by
  unfold Config.fault? at sound
  split at sound
  · simp at sound
  · omega

namespace Store

/-- An empty store, unless the configuration has a fault. -/
def init (config : Config) (hash : String → Nat) : Except StoreFault Store :=
  match sound : config.fault? with
  | some error => .error (.config error)
  | none =>
    match config.capacityFault? with
    | some fault => .error (.capacity fault)
    | none => .ok {
        segments := .empty hash config.segments (Config.segments_pos sound)
        maxLockHold := config.maxLockHold
        created := 0
        replaced := 0
        evictions := 0
        lastSweep := none
        sweeps := 0 }

/-- The entry that a key maps to. -/
def lookup (store : Store) (key : String) : Option EntryId := store.segments.lookup key

def contains (store : Store) (key : String) : Bool := (store.lookup key).isSome

def keys (store : Store) : List String := store.segments.keys

def size (store : Store) : Nat := store.segments.size

def isEmpty (store : Store) : Bool := store.segments.isEmpty

-- Each change below happens in one critical section of one segment.

/-- Maps a key that was absent to a new entry, and counts it. -/
def create (store : Store) (key : String) (entry : EntryId) : Store :=
  { store with segments := store.segments.insert key entry, created := store.created + 1 }

/-- Maps a key to the replacement of an abandoned entry, and counts it. -/
def replace (store : Store) (key : String) (entry : EntryId) : Store :=
  { store with segments := store.segments.insert key entry, replaced := store.replaced + 1 }

/-- Takes a key out without counting it. -/
def take (store : Store) (key : String) : Bool × Store :=
  (store.contains key, { store with segments := store.segments.erase key })

/-- Counts removals. -/
def countEvictions (store : Store) (removed : Nat) : Store :=
  { store with evictions := store.evictions + removed }

/-- Takes a key out if it still maps to an entry, and counts it. -/
def evict (store : Store) (key : String) (expected : EntryId) : Bool × Store :=
  if store.lookup key = some expected then
    (true, { store with
      segments := store.segments.erase key, evictions := store.evictions + 1 })
  else (false, store)

/-- Puts a report in place of the last one. -/
def publish (store : Store) (report : SweepReport) : Store :=
  { store with lastSweep := some report }

def countSweep (store : Store) : Store := { store with sweeps := store.sweeps + 1 }

end Store

/-- The entries of a program and one store of them. -/
structure Cache where
  heap : Heap
  store : Store

namespace Cache

/-- Changes the state of an entry. -/
def setEntry (cache : Cache) (id : EntryId) (entry : Entry) : Cache :=
  { cache with heap := cache.heap.set id entry }

/-- The entry that a key maps to, with its state. -/
def stored? (cache : Cache) (key : String) : Option Entry :=
  (cache.store.lookup key).map cache.heap.get

end Cache

end SingleFlight
