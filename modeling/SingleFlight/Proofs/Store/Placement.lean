import Mathlib.Data.Finset.Card
import Mathlib.Data.List.Nodup
import SingleFlight.Proofs.Store.Mapping

namespace SingleFlight

namespace Table
variable (table : Table)

theorem mem_map_fst_iff (key : String) :
    key ∈ table.map Prod.fst ↔ table.lookup key ≠ none := by
  rw [← Option.isSome_iff_ne_none, List.lookup_isSome_iff, List.mem_map]
  simp only [beq_iff_eq]
  exact ⟨fun ⟨slot, inside, same⟩ => ⟨slot, inside, same.symm⟩,
    fun ⟨slot, inside, same⟩ => ⟨slot, inside, same.symm⟩⟩

theorem map_fst_without (key : String) :
    (table.without key).map Prod.fst = (table.map Prod.fst).filter (· != key) := by
  rw [without, List.filter_map]
  rfl

theorem map_fst_put (key : String) (entry : EntryId) :
    (table.put key entry).map Prod.fst = (table.map Prod.fst).filter (· != key) ++ [key] := by
  rw [put, List.map_append, map_fst_without]
  rfl

/-- Taking out a key that stands once shortens a table by one. -/
theorem length_without {key : String} (once : (table.map Prod.fst).Nodup)
    (present : table.lookup key ≠ none) : (table.without key).length + 1 = table.length := by
  have inside := (table.mem_map_fst_iff key).mpr present
  have shorter := List.length_erase_add_one inside
  rw [once.erase_eq_filter, ← map_fst_without, List.length_map, List.length_map] at shorter
  exact shorter

theorem nodup_without {table : Table} (once : (table.map Prod.fst).Nodup) (key : String) :
    ((table.without key).map Prod.fst).Nodup := by
  rw [map_fst_without]
  exact once.filter _

theorem nodup_put {table : Table} (once : (table.map Prod.fst).Nodup) (key : String)
    (entry : EntryId) : ((table.put key entry).map Prod.fst).Nodup := by
  rw [map_fst_put, List.nodup_append]
  refine ⟨once.filter _, List.nodup_singleton key, ?_⟩
  intro other old same new rfl
  rw [List.mem_singleton] at new
  simp [new] at old

/-- What a filtered table maps a key to. -/
theorem lookup_filter {table : Table} (once : (table.map Prod.fst).Nodup)
    (keep : String × EntryId → Bool) (key : String) :
    (table.filter keep).lookup key = (table.lookup key).filter fun entry => keep (key, entry) := by
  induction table with
  | nil => rfl
  | cons slot rest ih =>
      obtain ⟨name, entry⟩ := slot
      obtain ⟨fresh, once⟩ := List.nodup_cons.mp once
      have later := ih once
      rw [List.filter_cons, List.lookup_cons]
      by_cases same : key = name
      · subst same
        have absent : List.lookup key rest = none := by
          by_contra present
          exact fresh ((mem_map_fst_iff rest key).mpr present)
        cases kept : keep (key, entry) <;> simp [kept, later, absent, Option.filter]
      · have apart : (key == name) = false := by simpa using same
        cases kept : keep (name, entry) <;> simp [apart, List.lookup_cons, later]

end Table

namespace Segments

/-- Each key stands once, in the segment its hash selects. -/
structure InPlace (segments : Segments) : Prop where
  placed : ∀ number key, key ∈ (segments.tableAt number).map Prod.fst →
    number = segments.hash key % segments.count
  once : ∀ number, ((segments.tableAt number).map Prod.fst).Nodup

variable {segments : Segments}

/-- A table put in place stands there, and no other has changed. -/
theorem tableAt_setTableAt (segments : Segments) {number : Nat} (there : number < segments.count)
    (table : Table) (other : Nat) :
    (segments.setTableAt number table).tableAt other =
      if other = number then table else segments.tableAt other := by
  have inside : number < segments.tables.size := there
  split
  · next same => subst same; simp [tableAt, setTableAt, inside]
  · next apart =>
      have differs : number ≠ other := fun same => apart same.symm
      simp [tableAt, setTableAt, Array.getElem?_setIfInBounds_ne differs]

@[simp] theorem count_setTableAt (segments : Segments) (number : Nat) (table : Table) :
    (segments.setTableAt number table).count = segments.count := by
  simp [count, setTableAt]

/-- Of two tables put in one place the last counts. -/
theorem setTableAt_setTableAt (segments : Segments) (number : Nat) (first second : Table) :
    (segments.setTableAt number first).setTableAt number second = segments.setTableAt number second := by
  simp [setTableAt]

/-- Tables are put in place of those of two segments in either order. -/
theorem setTableAt_comm (segments : Segments) {number other : Nat} (apart : number ≠ other)
    (first second : Table) :
    (segments.setTableAt number first).setTableAt other second =
      (segments.setTableAt other second).setTableAt number first := by
  simp [setTableAt, Array.setIfInBounds_comm _ _ apart]

/-- The number of the segment that a key is taken out of. -/
theorem erase_eq (segments : Segments) (key : String) :
    segments.erase key = segments.setTableAt (segments.hash key % segments.count)
      ((segments.tableAt (segments.hash key % segments.count)).without key) := by
  rw [erase, ← tableAt_index]
  rfl

/-- Two keys are taken out in either order. -/
theorem erase_comm (segments : Segments) (first second : String) :
    (segments.erase first).erase second = (segments.erase second).erase first := by
  have inside (key : String) : segments.hash key % segments.count < segments.count :=
    Nat.mod_lt _ segments.positive
  have hashed (number : Nat) (table : Table) : (segments.setTableAt number table).hash = segments.hash :=
    rfl
  simp only [erase_eq, hashed, count_setTableAt, tableAt_setTableAt segments (inside _)]
  by_cases same : segments.hash first % segments.count = segments.hash second % segments.count
  · simp only [same, if_true, setTableAt_setTableAt]
    rw [Table.without_comm]
  · rw [if_neg (Ne.symm same), if_neg same, setTableAt_comm segments same]

theorem inPlace_empty (hash : String → Nat) (count : Nat) (positive : 0 < count) :
    (empty hash count positive).InPlace := by
  have bare (number : Nat) : (empty hash count positive).tableAt number = [] := by
    by_cases inside : number < count <;> simp [tableAt, empty, inside]
  exact ⟨fun number key inside => by simp [bare] at inside, fun number => by simp [bare]⟩

/-- A table of a segment's keys can take its place. -/
theorem InPlace.setTableAt (inPlace : segments.InPlace) {number : Nat}
    (there : number < segments.count) {table : Table}
    (placed : ∀ key ∈ table.map Prod.fst, number = segments.hash key % segments.count)
    (once : (table.map Prod.fst).Nodup) : (segments.setTableAt number table).InPlace where
  placed other key inside := by
    rw [tableAt_setTableAt segments there] at inside
    rw [count_setTableAt]
    split at inside
    · next same => exact same.trans (placed key inside)
    · exact inPlace.placed other key inside
  once other := by
    rw [tableAt_setTableAt segments there]
    split
    · exact once
    · exact inPlace.once other

/-- The keys of the table of a key belong to the same segment. -/
theorem InPlace.placed_table (inPlace : segments.InPlace) {key other : String}
    (inside : other ∈ (segments.table key).map Prod.fst) :
    (segments.index key).val = segments.hash other % segments.count := by
  rw [← tableAt_index] at inside
  exact inPlace.placed _ other inside

theorem InPlace.once_table (inPlace : segments.InPlace) (key : String) :
    ((segments.table key).map Prod.fst).Nodup := by
  rw [← tableAt_index]
  exact inPlace.once _

theorem InPlace.insert (inPlace : segments.InPlace) (key : String) (entry : EntryId) :
    (segments.insert key entry).InPlace := by
  refine inPlace.setTableAt (segments.index key).isLt ?_ ?_
  · intro other inside
    rw [Table.map_fst_put, List.mem_append, List.mem_filter, List.mem_singleton] at inside
    rcases inside with ⟨old, -⟩ | rfl
    · exact inPlace.placed_table old
    · rfl
  · exact Table.nodup_put (inPlace.once_table key) key entry

theorem InPlace.erase (inPlace : segments.InPlace) (key : String) :
    (segments.erase key).InPlace := by
  refine inPlace.setTableAt (segments.index key).isLt ?_ ?_
  · intro other inside
    rw [Table.map_fst_without, List.mem_filter] at inside
    exact inPlace.placed_table inside.1
  · exact Table.nodup_without (inPlace.once_table key) key

theorem InPlace.clearAt (inPlace : segments.InPlace) (number : Nat) :
    (segments.clearAt number).InPlace := by
  by_cases there : number < segments.count
  · exact inPlace.setTableAt there (by simp) (by simp)
  · have same : segments.clearAt number = segments := by
      have beyond : ¬ number < segments.tables.size := there
      simp [Segments.clearAt, Segments.setTableAt, Array.setIfInBounds, beyond]
    rwa [same]

/-- A key is listed exactly if it stands in some segment. -/
theorem mem_keys_iff (segments : Segments) (key : String) :
    key ∈ segments.keys ↔ ∃ number, key ∈ (segments.tableAt number).map Prod.fst := by
  rw [keys, List.mem_flatMap]
  constructor
  · rintro ⟨table, inside, there⟩
    obtain ⟨number, known⟩ := List.mem_iff_getElem?.mp inside
    refine ⟨number, ?_⟩
    rw [Array.getElem?_toList] at known
    simpa [tableAt, known] using there
  · rintro ⟨number, there⟩
    cases known : segments.tables[number]? with
    | none => simp [tableAt, known] at there
    | some table =>
        have inside : table ∈ segments.tables.toList := by
          rw [Array.mem_toList_iff]
          exact Array.mem_of_getElem? known
        refine ⟨table, inside, ?_⟩
        simpa [tableAt, known] using there

/-- A key is listed exactly if it maps to an entry. -/
theorem InPlace.mem_keys_iff_lookup (inPlace : segments.InPlace) (key : String) :
    key ∈ segments.keys ↔ segments.lookup key ≠ none := by
  rw [mem_keys_iff, lookup, ← Table.mem_map_fst_iff, ← tableAt_index]
  constructor
  · rintro ⟨number, there⟩
    obtain rfl := inPlace.placed number key there
    exact there
  · exact fun there => ⟨_, there⟩

/-- Each key is listed once. -/
theorem InPlace.nodup_keys (inPlace : segments.InPlace) : segments.keys.Nodup := by
  have tableAt_eq (number : Nat) (inside : number < segments.tables.toList.length) :
      segments.tables.toList[number] = segments.tableAt number := by
    have bound : number < segments.tables.size := by simpa using inside
    simp [tableAt, bound]
  rw [keys, List.nodup_flatMap]
  constructor
  · intro table inside
    obtain ⟨number, bound, rfl⟩ := List.mem_iff_getElem.mp inside
    rw [tableAt_eq number bound]
    exact inPlace.once number
  · rw [List.pairwise_iff_getElem]
    intro first second firstBound secondBound before key one two
    rw [tableAt_eq first firstBound] at one
    rw [tableAt_eq second secondBound] at two
    have same := (inPlace.placed first key one).trans (inPlace.placed second key two).symm
    omega

/-- The keys of all segments, each with its entry. -/
def slots (segments : Segments) : List (String × EntryId) := segments.tables.toList.flatten

theorem map_fst_slots (segments : Segments) : segments.slots.map Prod.fst = segments.keys := by
  rw [slots, keys, List.map_flatten, List.flatMap_def]

/-- A key that maps to an entry stands with it in a segment. -/
theorem mem_slots_of_lookup {key : String} {entry : EntryId}
    (maps : segments.lookup key = some entry) : (key, entry) ∈ segments.slots := by
  have inside : segments.table key ∈ segments.tables.toList := by simp [table]
  obtain ⟨first, rest, same, -⟩ := List.lookup_eq_some_iff.mp maps
  exact List.mem_flatten.mpr ⟨_, inside, by simp [same]⟩

theorem InPlace.mem_slots_iff (inPlace : segments.InPlace) (key : String) (entry : EntryId) :
    (key, entry) ∈ segments.slots ↔ segments.lookup key = some entry := by
  constructor
  · intro inside
    have listed : key ∈ segments.keys := by
      rw [← map_fst_slots]
      exact List.mem_map_of_mem inside
    obtain ⟨other, maps⟩ := Option.ne_none_iff_exists'.mp ((inPlace.mem_keys_iff_lookup key).mp listed)
    have once := inPlace.nodup_keys
    rw [← map_fst_slots] at once
    have same := List.inj_on_of_nodup_map once inside (mem_slots_of_lookup maps) rfl
    rw [maps, (Prod.mk.inj same).2]
  · exact mem_slots_of_lookup

theorem InPlace.nodup_slots (inPlace : segments.InPlace) : segments.slots.Nodup := by
  have once := inPlace.nodup_keys
  rw [← map_fst_slots] at once
  exact once.of_map

/-- The size is the number of the keys that map to an entry. -/
theorem InPlace.size_eq_card (inPlace : segments.InPlace) (stored : Finset String)
    (complete : ∀ key, key ∈ stored ↔ segments.lookup key ≠ none) :
    segments.size = stored.card := by
  rw [size, ← List.toFinset_card_of_nodup inPlace.nodup_keys]
  congr 1
  ext key
  rw [List.mem_toFinset, inPlace.mem_keys_iff_lookup, complete]

theorem isEmpty_iff_size (segments : Segments) : segments.isEmpty = true ↔ segments.size = 0 := by
  rw [size, List.length_eq_zero_iff, keys, List.flatMap_eq_nil_iff, isEmpty, List.all_eq_true]
  simp only [List.map_eq_nil_iff, List.isEmpty_iff]

/-- Mapping a present key anew leaves the size. -/
theorem InPlace.size_insert_of_present (inPlace : segments.InPlace) {key : String}
    (present : segments.lookup key ≠ none) (entry : EntryId) :
    (segments.insert key entry).size = segments.size := by
  have changed := segments.size_setTableAt (segments.index key).isLt
    ((segments.table key).put key entry)
  have shorter := (segments.table key).length_without (inPlace.once_table key) present
  rw [tableAt_index, Table.put, List.length_append, List.length_singleton, shorter] at changed
  exact Nat.add_right_cancel changed

/-- A key that is taken out leaves the size smaller by one. -/
theorem InPlace.size_erase_of_present (inPlace : segments.InPlace) {key : String}
    (present : segments.lookup key ≠ none) : (segments.erase key).size + 1 = segments.size := by
  have changed := segments.size_setTableAt (segments.index key).isLt
    ((segments.table key).without key)
  have shorter := (segments.table key).length_without (inPlace.once_table key) present
  rw [tableAt_index] at changed
  rw [Segments.erase]
  omega

theorem size_erase_of_absent (segments : Segments) {key : String}
    (absent : segments.lookup key = none) : (segments.erase key).size = segments.size := by
  have changed := segments.size_setTableAt (segments.index key).isLt
    ((segments.table key).without key)
  rw [tableAt_index, Table.without_of_absent absent] at changed
  rw [Segments.erase, Table.without_of_absent absent]
  exact Nat.add_right_cancel changed

/-- The entries of a segment are gone when it is emptied. -/
theorem size_clearAt (segments : Segments) (number : Nat) :
    (segments.clearAt number).size + (segments.tableAt number).length = segments.size := by
  by_cases there : number < segments.count
  · exact segments.size_setTableAt there []
  · have beyond : ¬ number < segments.tables.size := there
    simp [clearAt, setTableAt, Array.setIfInBounds, tableAt, beyond]

/-- What a map becomes by changes of keys and segments. -/
inductive Edited (start : Segments) : Segments → Prop where
  | unchanged : Edited start start
  | insert {segments : Segments} (edited : Edited start segments) (key : String) (entry : EntryId) :
    Edited start (segments.insert key entry)
  | erase {segments : Segments} (edited : Edited start segments) (key : String) :
    Edited start (segments.erase key)
  | clearAt {segments : Segments} (edited : Edited start segments) (number : Nat) :
    Edited start (segments.clearAt number)

namespace Edited
variable {start : Segments}

theorem inPlace (edited : start.Edited segments) (inPlace : start.InPlace) : segments.InPlace := by
  induction edited with
  | unchanged => exact inPlace
  | insert _ key entry ih => exact ih.insert key entry
  | erase _ key ih => exact ih.erase key
  | clearAt _ number ih => exact ih.clearAt number

theorem hash_eq (edited : start.Edited segments) : segments.hash = start.hash := by
  induction edited with
  | unchanged => rfl
  | insert _ _ _ ih => exact ih
  | erase _ _ ih => exact ih
  | clearAt _ _ ih => exact ih

theorem count_eq (edited : start.Edited segments) : segments.count = start.count := by
  induction edited with
  | unchanged => rfl
  | insert _ _ _ ih => exact (count_setTableAt _ _ _).trans ih
  | erase _ _ ih => exact (count_setTableAt _ _ _).trans ih
  | clearAt _ _ ih => exact (count_setTableAt _ _ _).trans ih

end Edited

end Segments

end SingleFlight
