import SingleFlight.Store.Heap

namespace SingleFlight

/-- The keys of one segment, each once, with their entries. -/
abbrev Table := List (String × EntryId)

namespace Table

/-- The table without a key. -/
def without (table : Table) (key : String) : Table := table.filter fun slot => slot.1 != key

/-- The table in which a key maps to an entry, and nowhere else. -/
def put (table : Table) (key : String) (entry : EntryId) : Table :=
  table.without key ++ [(key, entry)]

theorem lookup_without_self (table : Table) (key : String) :
    (table.without key).lookup key = none := by
  induction table with
  | nil => rfl
  | cons slot rest ih =>
    obtain ⟨name, entry⟩ := slot
    by_cases same : name = key
    · simpa [without, same] using ih
    · have apart : (key == name) = false := by simpa using fun equal => same equal.symm
      simp only [without] at ih
      simp [without, same, List.lookup_cons, apart, ih]

theorem lookup_without_of_ne (table : Table) {key other : String} (apart : other ≠ key) :
    (table.without key).lookup other = table.lookup other := by
  induction table with
  | nil => rfl
  | cons slot rest ih =>
    obtain ⟨name, entry⟩ := slot
    simp only [without] at ih
    by_cases same : name = key
    · have differs : (other == key) = false := by simpa using apart
      simp [without, same, List.lookup_cons, differs, ih]
    · simp [without, same, List.lookup_cons, ih]

end Table

/-- The segments of a store. -/
structure Segments where
  hash : String → Nat
  tables : Array Table
  positive : 0 < tables.size

namespace Segments

/-- Empty segments. -/
def empty (hash : String → Nat) (count : Nat) (positive : 0 < count) : Segments where
  hash := hash
  tables := Array.replicate count []
  positive := by simpa using positive

/-- The number of segments. -/
def count (segments : Segments) : Nat := segments.tables.size

/-- The segment that a key belongs to. -/
def index (segments : Segments) (key : String) : Fin segments.tables.size :=
  ⟨segments.hash key % segments.tables.size, Nat.mod_lt _ segments.positive⟩

/-- The table of the segment that a key belongs to. -/
def table (segments : Segments) (key : String) : Table := segments.tables[segments.index key]

/-- The table of a segment by number. -/
def tableAt (segments : Segments) (number : Nat) : Table := segments.tables[number]?.getD []

/-- Puts a table in place of a segment's own. -/
def setTableAt (segments : Segments) (number : Nat) (table : Table) : Segments where
  hash := segments.hash
  tables := segments.tables.setIfInBounds number table
  positive := by simpa using segments.positive

/-- The entry that a key maps to. -/
def lookup (segments : Segments) (key : String) : Option EntryId :=
  (segments.table key).lookup key

/-- Maps a key to an entry. -/
def insert (segments : Segments) (key : String) (entry : EntryId) : Segments :=
  segments.setTableAt (segments.index key) (Table.put (segments.table key) key entry)

/-- Takes a key out. -/
def erase (segments : Segments) (key : String) : Segments :=
  segments.setTableAt (segments.index key) (Table.without (segments.table key) key)

/-- The keys of all segments, one segment after the other. -/
def keys (segments : Segments) : List String :=
  segments.tables.toList.flatMap fun table => table.map Prod.fst

/-- The number of keys. -/
def size (segments : Segments) : Nat := segments.keys.length

/-- Whether there is no key. -/
def isEmpty (segments : Segments) : Bool := segments.tables.toList.all List.isEmpty

/-- Empties the segment of a number. -/
def clearAt (segments : Segments) (number : Nat) : Segments := segments.setTableAt number []

end Segments

end SingleFlight
