import Mathlib.Algebra.BigOperators.Group.List.Basic
import Mathlib.Algebra.GroupWithZero.Nat
import SingleFlight.Store.Basic

namespace SingleFlight

namespace Table

@[simp] theorem lookup_put_self (table : Table) (key : String) (entry : EntryId) :
    (table.put key entry).lookup key = some entry := by
  simp [put, List.lookup_append, lookup_without_self]

theorem lookup_put_of_ne (table : Table) {key other : String} (apart : other ≠ key)
    (entry : EntryId) : (table.put key entry).lookup other = table.lookup other := by
  have differs : (other == key) = false := by simpa using apart
  simp [put, List.lookup_append, lookup_without_of_ne table apart, List.lookup_cons, differs]

theorem lookup_put (table : Table) (key : String) (entry : EntryId) (other : String) :
    (table.put key entry).lookup other = if other = key then some entry else table.lookup other := by
  split
  · next same => subst same; exact table.lookup_put_self other entry
  · next apart => exact table.lookup_put_of_ne apart entry

theorem lookup_without (table : Table) (key other : String) :
    (table.without key).lookup other = if other = key then none else table.lookup other := by
  split
  · next same => subst same; exact table.lookup_without_self other
  · next apart => exact table.lookup_without_of_ne apart

/-- Taking out a key that is absent changes nothing. -/
theorem without_of_absent {table : Table} {key : String} (absent : table.lookup key = none) :
    table.without key = table := by
  rw [without, List.filter_eq_self]
  intro slot inside
  have other := List.lookup_eq_none_iff.mp absent slot inside
  rwa [bne_comm]

/-- Two keys are taken out in either order. -/
theorem without_comm (table : Table) (first second : String) :
    (table.without first).without second = (table.without second).without first := by
  simp only [without, List.filter_filter, Bool.and_comm]

end Table

namespace Segments
variable (segments : Segments)

/-- A table put in place is looked into for its segment's keys. -/
theorem lookup_setTableAt (number : Nat) (table : Table) (key : String) :
    (segments.setTableAt number table).lookup key =
      if (segments.index key).val = number then table.lookup key else segments.lookup key := by
  have inside := (segments.index key).isLt
  have size : (segments.setTableAt number table).tables.size = segments.tables.size := by
    simp [setTableAt]
  have position : ((segments.setTableAt number table).index key).val = (segments.index key).val := by
    simp [index, setTableAt]
  simp only [lookup, Segments.table, Fin.getElem_fin, position]
  split
  · next same =>
      subst same
      simp [setTableAt]
  · next other =>
      have apart : number ≠ (segments.index key).val := fun equal => other equal.symm
      simp [setTableAt, apart]

@[simp] theorem lookup_insert_self (key : String) (entry : EntryId) :
    (segments.insert key entry).lookup key = some entry := by
  simp [insert, lookup_setTableAt]

theorem lookup_insert_of_ne {key other : String} (apart : other ≠ key) (entry : EntryId) :
    (segments.insert key entry).lookup other = segments.lookup other := by
  rw [insert, lookup_setTableAt]
  split
  · next same =>
      rw [Table.lookup_put_of_ne _ apart, lookup, Segments.table, Segments.table]
      simp only [Fin.getElem_fin, same]
  · rfl

@[simp] theorem lookup_erase_self (key : String) : (segments.erase key).lookup key = none := by
  simp [erase, lookup_setTableAt, Table.lookup_without_self]

theorem lookup_erase_of_ne {key other : String} (apart : other ≠ key) :
    (segments.erase key).lookup other = segments.lookup other := by
  rw [erase, lookup_setTableAt]
  split
  · next same =>
      rw [Table.lookup_without_of_ne _ apart, lookup, Segments.table, Segments.table]
      simp only [Fin.getElem_fin, same]
  · rfl

/-- Emptying a segment takes its keys out and leaves the others. -/
theorem lookup_clearAt (number : Nat) (key : String) :
    (segments.clearAt number).lookup key =
      if (segments.index key).val = number then none else segments.lookup key := by
  simp [clearAt, lookup_setTableAt]

/-- The size is the sum of the sizes of the tables. -/
theorem size_eq_sum : segments.size = (segments.tables.toList.map List.length).sum := by
  simp [size, keys, List.length_flatMap]

@[simp] theorem tableAt_index (key : String) :
    segments.tableAt (segments.index key) = segments.table key := by
  simp [tableAt, table]

/-- A table put in place changes the size by the difference. -/
theorem size_setTableAt {number : Nat} (there : number < segments.count) (table : Table) :
    (segments.setTableAt number table).size + (segments.tableAt number).length =
      segments.size + table.length := by
  have bound : number < segments.tables.size := there
  have inside : number < segments.tables.toList.length := by simpa using bound
  have own : segments.tables.toList[number] = segments.tableAt number := by simp [tableAt, bound]
  have split := List.take_append_drop number segments.tables.toList
  rw [List.drop_eq_getElem_cons inside] at split
  rw [size_eq_sum, size_eq_sum, setTableAt]
  simp only [Array.toList_setIfInBounds]
  rw [List.set_eq_take_append_cons_drop, if_pos inside]
  conv_rhs => rw [← split]
  simp only [List.map_append, List.map_cons, List.sum_append, List.sum_cons, own]
  omega

/-- A key that was absent makes the store larger by one. -/
theorem size_insert_of_absent {key : String} (absent : segments.lookup key = none)
    (entry : EntryId) : (segments.insert key entry).size = segments.size + 1 := by
  have changed := segments.size_setTableAt (segments.index key).isLt
    ((segments.table key).put key entry)
  rw [tableAt_index, Table.put, Table.without_of_absent absent, List.length_append,
    List.length_singleton] at changed
  rw [insert, Table.put, Table.without_of_absent absent]
  omega

end Segments

namespace Store
variable (store : Store)

theorem lookup_create (key : String) (entry : EntryId) (other : String) :
    (store.create key entry).lookup other = if other = key then some entry else store.lookup other := by
  split
  · next same => subst same; exact store.segments.lookup_insert_self _ entry
  · next apart => exact store.segments.lookup_insert_of_ne apart entry

theorem lookup_replace (key : String) (entry : EntryId) (other : String) :
    (store.replace key entry).lookup other = if other = key then some entry else store.lookup other :=
  store.lookup_create key entry other

theorem lookup_take (key other : String) :
    (store.take key).2.lookup other = if other = key then none else store.lookup other := by
  split
  · next same => subst same; exact store.segments.lookup_erase_self _
  · next apart => exact store.segments.lookup_erase_of_ne apart

/-- A key is evicted only if it still maps to the expected entry. -/
theorem lookup_evict (key : String) (expected : EntryId) (other : String) :
    (store.evict key expected).2.lookup other =
      if other = key ∧ store.lookup key = some expected then none else store.lookup other := by
  by_cases current : store.lookup key = some expected
  · simp only [evict, current, if_true, and_true]
    exact store.lookup_take key other
  · simp [evict, current]

@[simp] theorem maxLockHold_evict (key : String) (expected : EntryId) :
    (store.evict key expected).2.maxLockHold = store.maxLockHold := by
  unfold evict
  split <;> rfl

end Store

end SingleFlight
