import SingleFlight.Event
import SingleFlight.Store.Heap

namespace SingleFlight

/-- A live guard: its thread and the entry that it has locked. -/
structure Guard where
  owner : ThreadId
  entry : EntryId
  deriving DecidableEq, Repr

namespace Guard

/-- The guard that an acquisition gives: one for a lock that is held. -/
def ofAcquisition? (owner : ThreadId) (entry : EntryId) (outcome : Acquisition) : Option Guard :=
  if outcome.held then some ⟨owner, entry⟩ else none

/-- Drops a guard that was not committed: its lock is given back. -/
def drop (guard : Guard) (heap : Heap) : Heap :=
  heap.set guard.entry ((heap.get guard.entry).release guard.owner)

/-- Gives the lock back without a commit. -/
def abort (guard : Guard) (heap : Heap) : Heap := guard.drop heap

/-- The events of a commit that returned. -/
def commitEvents (committed : Bool) : List Event := if committed then [] else [.commitLost]

/-- Commits through a guard, which is used up even if the reading fails. -/
def commit (guard : Guard) (content : String) (tag : Option Tag) (reading : Reading) (heap : Heap) :
    Except ClockFault Bool × Heap × List Event :=
  let (outcome, entry) := (heap.get guard.entry).commit guard.owner content tag reading
  let events := match outcome with
    | .ok committed => commitEvents committed
    | .error _ => []
  (outcome, heap.set guard.entry entry, events)

/-- The content that a reader with no time to wait gets. -/
def previous (guard : Guard) (heap : Heap) : Option String := (heap.get guard.entry).served

/-- What is shown of a live guard. -/
def describe (guard : Guard) (heap : Heap) : String :=
  Text.record "UpdateGuard"
    [("fragment", (heap.get guard.entry).describe), ("finished", Text.flag false)]

end Guard

end SingleFlight
