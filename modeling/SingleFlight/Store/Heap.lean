import SingleFlight.Entry

namespace SingleFlight

/-- The identity of an entry. -/
structure EntryId where
  index : Nat
  deriving DecidableEq, Repr, Inhabited

/-- The state of every entry that was ever made. -/
structure Heap where
  entries : Array Entry

namespace Heap

def empty : Heap := ⟨#[]⟩

/-- What stands behind an identity that was never given out. -/
def blank : Entry := Entry.fresh none .zero .zero ⟨0⟩

/-- The state of an entry. -/
def get (heap : Heap) (id : EntryId) : Entry := heap.entries[id.index]?.getD blank

/-- Whether an identity was given out. -/
def holds (heap : Heap) (id : EntryId) : Bool := id.index < heap.entries.size

/-- The identity that the next entry gets. -/
def next (heap : Heap) : EntryId := ⟨heap.entries.size⟩

/-- Adds an entry under the next identity. -/
def add (heap : Heap) (entry : Entry) : Heap := ⟨heap.entries.push entry⟩

/-- Changes the state of an entry. -/
def set (heap : Heap) (id : EntryId) (entry : Entry) : Heap :=
  ⟨heap.entries.setIfInBounds id.index entry⟩

@[simp] theorem get_add_next (heap : Heap) (entry : Entry) :
    (heap.add entry).get heap.next = entry := by
  simp [get, add, next]

theorem get_add_of_ne {heap : Heap} {id : EntryId} (other : id ≠ heap.next) (entry : Entry) :
    (heap.add entry).get id = heap.get id := by
  have apart : id.index ≠ heap.entries.size := fun same => other (by cases id; simp_all [next])
  simp [get, add, Array.getElem?_push, apart]

theorem get_set_self {heap : Heap} {id : EntryId} (known : heap.holds id = true) (entry : Entry) :
    (heap.set id entry).get id = entry := by
  have bound : id.index < heap.entries.size := by simpa [holds] using known
  simp [get, set, bound]

theorem get_set_of_ne {heap : Heap} {id other : EntryId} (apart : other ≠ id) (entry : Entry) :
    (heap.set id entry).get other = heap.get other := by
  have differs : id.index ≠ other.index := fun same =>
    apart (by cases id; cases other; simp_all)
  simp [get, set, differs]

end Heap

end SingleFlight
