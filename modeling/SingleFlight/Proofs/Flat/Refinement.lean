import SingleFlight.Proofs.Flat.Basic
import SingleFlight.Proofs.Store.Undisturbed
import SingleFlight.Proofs.Traffic.Layout

namespace SingleFlight

namespace Reply.Agrees
variable {first second third : Reply}

theorem symm (alike : first.Agrees second) : second.Agrees first := by
  cases alike with
  | same => exact .same _
  | keys perm => exact .keys perm.symm

theorem trans (left : first.Agrees second) (right : second.Agrees third) : first.Agrees third := by
  cases left with
  | same => exact right
  | keys perm =>
      cases right with
      | same => exact .keys perm
      | keys other => exact .keys (perm.trans other)

end Reply.Agrees

namespace Flat

/-- A flat cache has the same entries under the same keys. -/
structure Shows (flat : Flat) (cache : Cache) : Prop where
  heap : cache.heap = flat.heap
  lookup : ∀ key, cache.store.lookup key = flat.table.lookup key
  inPlace : cache.store.segments.InPlace
  once : (flat.table.map Prod.fst).Nodup
  maxLockHold : cache.store.maxLockHold = flat.maxLockHold
  created : cache.store.created = flat.created
  replaced : cache.store.replaced = flat.replaced
  evictions : cache.store.evictions = flat.evictions
  lastSweep : cache.store.lastSweep = flat.lastSweep
  sweeps : cache.store.sweeps = flat.sweeps

variable {flat : Flat} {cache : Cache}

namespace Shows

theorem mem_keys_iff (shows : flat.Shows cache) (key : String) :
    key ∈ cache.store.keys ↔ key ∈ flat.table.map Prod.fst := by
  rw [Table.mem_map_fst_iff, ← shows.lookup key]
  exact shows.inPlace.mem_keys_iff_lookup key

/-- Both list the same keys. -/
theorem keys_perm (shows : flat.Shows cache) : cache.store.keys.Perm (flat.table.map Prod.fst) :=
  (List.perm_ext_iff_of_nodup shows.inPlace.nodup_keys shows.once).mpr shows.mem_keys_iff

theorem size_eq (shows : flat.Shows cache) : cache.store.size = flat.table.length :=
  shows.keys_perm.length_eq.trans (List.length_map _)

theorem isEmpty_eq (shows : flat.Shows cache) : cache.store.isEmpty = flat.table.isEmpty := by
  rw [Bool.eq_iff_iff, List.isEmpty_iff_length_eq_zero, ← shows.size_eq]
  exact cache.store.segments.isEmpty_iff_size

/-- A key that is mapped to an entry that is new in both. -/
theorem put (shows : flat.Shows cache) (key : String) (entry : Entry) :
    Shows
      { flat with heap := flat.heap.add entry, table := flat.table.put key flat.heap.next }
      { heap := cache.heap.add entry
        store := { cache.store with
          segments := cache.store.segments.insert key cache.heap.next } } :=
  { shows with
    heap := by rw [shows.heap]
    lookup := fun other => by
      show (cache.store.create key cache.heap.next).lookup other = _
      rw [Store.lookup_create, Table.lookup_put, shows.lookup, shows.heap]
    inPlace := shows.inPlace.insert key _
    once := Table.nodup_put shows.once key _ }

/-- An absent key is mapped to an entry, which is counted. -/
theorem create (shows : flat.Shows cache) (key : String) (entry : Entry) :
    Shows
      { flat with
        heap := flat.heap.add entry
        table := flat.table.put key flat.heap.next
        created := flat.created + 1 }
      ⟨cache.heap.add entry, cache.store.create key cache.heap.next⟩ :=
  { shows.put key entry with created := congrArg (· + 1) shows.created }

/-- A key is mapped to a copy of its entry, which is counted. -/
theorem replace (shows : flat.Shows cache) (key : String) (entry : Entry) :
    Shows
      { flat with
        heap := flat.heap.add entry
        table := flat.table.put key flat.heap.next
        replaced := flat.replaced + 1 }
      ⟨cache.heap.add entry, cache.store.replace key cache.heap.next⟩ :=
  { shows.put key entry with replaced := congrArg (· + 1) shows.replaced }

/-- A key that is taken out of both and counted. -/
theorem drop (shows : flat.Shows cache) (key : String) :
    (flat.drop key).Shows { cache with store := cache.store.drop key } :=
  { shows with
    lookup := fun other => by
      rw [Store.lookup_drop, Flat.drop, Table.lookup_without, shows.lookup]
    inPlace := shows.inPlace.erase key
    once := Table.nodup_without shows.once key
    evictions := congrArg (· + 1) shows.evictions }

/-- A key that is not there is taken out of the segments alone. -/
theorem erase (shows : flat.Shows cache) {key : String} (absent : flat.table.lookup key = none) :
    flat.Shows { cache with store := (cache.store.take key).2 } :=
  { shows with
    lookup := fun other => by
      rw [Store.lookup_take, shows.lookup]
      split
      · next same => rw [same, absent]
      · rfl
    inPlace := shows.inPlace.erase key }

theorem clear (shows : flat.Shows cache) :
    flat.clear.2.Shows
      { cache with store := cache.store.emptied.countEvictions cache.store.size } :=
  { shows with
    lookup := fun key => by
      simp [Store.emptied, Store.countEvictions, Store.lookup, Segments.lookup, Segments.table,
        Segments.empty, Flat.clear]
    inPlace := Segments.inPlace_empty _ _ cache.store.segments.positive
    once := List.nodup_nil
    evictions := by
      simp only [Store.countEvictions, Store.emptied, Flat.clear, shows.evictions, shows.size_eq] }

/-- A key is condemned exactly if its slot is. -/
theorem condemns_eq (shows : flat.Shows cache) (now : Instant) (key : String) :
    cache.condemns now key =
      (flat.table.lookup key).any fun entry => (flat.heap.get entry).isDisposable now := by
  rw [Cache.condemns, Cache.stored?, shows.lookup, shows.heap, Option.any_map]

/-- The condemned keys are those of the condemned slots. -/
theorem condemned_perm (shows : flat.Shows cache) (now : Instant) :
    (cache.store.keys.filter (cache.condemns now)).Perm
      ((flat.table.filter fun slot => (flat.heap.get slot.2).isDisposable now).map Prod.fst) := by
  have once : cache.store.keys.Nodup := shows.inPlace.nodup_keys
  refine (List.perm_ext_iff_of_nodup (once.filter _)
    (shows.once.sublist (List.filter_sublist.map _))).mpr fun key => ?_
  rw [List.mem_filter, shows.condemns_eq, Table.mem_map_fst_iff, Table.lookup_filter shows.once,
    shows.mem_keys_iff, Table.mem_map_fst_iff]
  cases flat.table.lookup key <;> simp [Option.filter]

/-- Both drop what is condemned. -/
theorem sweep (shows : flat.Shows cache) (now : Instant) :
    let condemned (slot : String × EntryId) := (flat.heap.get slot.2).isDisposable now
    Shows
      { flat with
        table := flat.table.filter fun slot => !condemned slot
        evictions := flat.evictions + (flat.table.filter condemned).length }
      { cache with
        store := cache.store.dropAll (cache.store.keys.filter (cache.condemns now)) } := by
  intro condemned
  have gone := shows.condemned_perm now
  have lookup := Store.lookup_dropAll (cache.store.keys.filter (cache.condemns now)) cache.store
  have inPlace := Store.inPlace_dropAll shows.inPlace (cache.store.keys.filter (cache.condemns now))
  rw [Store.dropAll_eq] at lookup inPlace ⊢
  exact { shows with
    lookup := fun key => by
      rw [lookup, Table.lookup_filter shows.once, shows.lookup]
      simp only [List.mem_filter, shows.condemns_eq, shows.mem_keys_iff, Table.mem_map_fst_iff]
      cases flat.table.lookup key with
      | none => simp
      | some entry =>
          cases judged : (flat.heap.get entry).isDisposable now <;>
            simp [Option.filter, condemned, judged]
    inPlace := inPlace
    once := shows.once.sublist (List.filter_sublist.map _)
    evictions := by
      rw [gone.length_eq, List.length_map]
      exact congrArg (· + _) shows.evictions }

/-- A lookup gives the same entry in both. -/
theorem getOrCreate (shows : flat.Shows cache) (asked : Lookup) (moment : Moment) :
    let (phase, after, _) := asked.procedure.undisturbed moment .finding cache
    phase = .finished (flat.getOrCreate asked moment.monotonic).1 ∧
      (flat.getOrCreate asked moment.monotonic).2.Shows after := by
  have known := shows.lookup asked.key
  cases read : moment.monotonic with
  | error fault =>
      rw [asked.undisturbed_unread read]
      exact ⟨rfl, shows⟩
  | ok now =>
      cases there : flat.table.lookup asked.key with
      | none =>
          rw [asked.undisturbed_absent (known.trans there) read]
          simp only [Flat.getOrCreate, there]
          rw [shows.heap, shows.maxLockHold]
          exact ⟨rfl, by simpa only [shows.heap] using shows.create asked.key _⟩
      | some found =>
          cases judged : (flat.heap.get found).isAbandoned now with
          | false =>
              rw [asked.undisturbed_kept (known.trans there) read (by rw [shows.heap, judged])]
              simp only [Flat.getOrCreate, there, judged, Bool.false_eq_true, if_false]
              exact ⟨trivial, shows⟩
          | true =>
              rw [asked.undisturbed_replaced (known.trans there) read (by rw [shows.heap, judged])]
              simp only [Flat.getOrCreate, there, judged, if_true]
              rw [shows.heap]
              exact ⟨rfl, by simpa only [shows.heap] using shows.replace asked.key _⟩

/-- A removal of a key removes it from both. -/
theorem remove (shows : flat.Shows cache) (key : String) (moment : Moment) :
    (cache.remove (.key key) moment).1 = (flat.remove key).1.toNat ∧
      (flat.remove key).2.Shows (cache.remove (.key key) moment).2 := by
  have known := shows.lookup key
  have start : Removal.start (.key key) cache.store.segments.count = .taking key := rfl
  cases there : flat.table.lookup key with
  | none =>
      have absent : cache.store.contains key = false := by simp [Store.contains, known, there]
      simp only [Cache.remove, start, Removal.undisturbed_absent absent, Flat.remove, there]
      exact ⟨rfl, shows.erase there⟩
  | some found =>
      have present : cache.store.contains key = true := by simp [Store.contains, known, there]
      simp only [Cache.remove, start, Removal.undisturbed_present present, Flat.remove, there,
        Option.isSome_some, if_true]
      exact ⟨rfl, shows.drop key⟩

/-- A removal of everything empties both. -/
theorem removeAll (shows : flat.Shows cache) (moment : Moment) :
    (cache.remove .all moment).1 = flat.clear.1 ∧ flat.clear.2.Shows (cache.remove .all moment).2 := by
  simp only [Cache.remove, Removal.undisturbed_all]
  exact ⟨shows.size_eq, shows.clear⟩

theorem evict (shows : flat.Shows cache) (key : String) (entry : EntryId) :
    (cache.store.evict key entry).1 = (flat.evict key entry).1 ∧
      (flat.evict key entry).2.Shows { cache with store := (cache.store.evict key entry).2 } := by
  unfold Store.evict Flat.evict
  rw [shows.lookup]
  split
  · exact ⟨rfl, shows.drop key⟩
  · exact ⟨rfl, shows⟩

/-- A sweep reports the same of both. -/
theorem sweepAll (shows : flat.Shows cache) (moment : Moment) :
    let (phase, after, _) := Sweep.procedure.undisturbed moment .starting cache
    phase = .finished (flat.sweep moment).1 ∧ (flat.sweep moment).2.Shows after := by
  cases read : moment.monotonic with
  | error fault =>
      rw [Sweep.undisturbed_unread read]
      simp only [Flat.sweep, read]
      exact ⟨trivial, shows⟩
  | ok now =>
      have swept := shows.sweep now
      cases wall : moment.wall with
      | error fault =>
          rw [Sweep.undisturbed_unstamped shows.inPlace read wall]
          simp only [Flat.sweep, read, wall]
          exact ⟨trivial, swept⟩
      | ok finishedAt =>
          have report : Sweep.reportOf cache now finishedAt = ⟨flat.table.length,
              (flat.table.filter fun slot => (flat.heap.get slot.2).isDisposable now).length,
              finishedAt, .zero⟩ := by
            rw [Sweep.reportOf, shows.size_eq, (shows.condemned_perm now).length_eq, List.length_map]
          rw [Sweep.undisturbed_read shows.inPlace read wall]
          simp only [Flat.sweep, read, wall, report]
          exact ⟨trivial, { swept with
            lastSweep := rfl
            sweeps := by
              simp only [Store.countSweep, Store.publish, Store.dropAll_eq, shows.sweeps] }⟩

theorem statistics_eq (shows : flat.Shows cache) (observedAt : WallTime) :
    cache.store.statistics observedAt = flat.statistics observedAt := by
  simp only [Store.statistics, Flat.statistics, shows.size_eq, shows.lastSweep, shows.sweeps,
    shows.created, shows.replaced, shows.evictions]

/-- A complete operation on both gives replies that are alike. -/
theorem perform (shows : flat.Shows cache) (command : Command) (moment : Moment) :
    (cache.perform command moment).1.Agrees (flat.perform command moment).1 ∧
      (flat.perform command moment).2.Shows (cache.perform command moment).2 := by
  cases command with
  | get key => exact ⟨by rw [Cache.perform, Flat.perform, shows.lookup]; exact .same _, shows⟩
  | getOrCreate asked =>
      have made := shows.getOrCreate asked moment
      simp only [Cache.perform, Flat.perform]
      generalize asked.procedure.undisturbed moment .finding cache = ended at made ⊢
      obtain ⟨phase, after, events⟩ := ended
      obtain ⟨rfl, shown⟩ := made
      exact ⟨.same _, shown⟩
  | contains key =>
      exact ⟨by rw [Cache.perform, Flat.perform, Store.contains, shows.lookup]; exact .same _, shows⟩
  | remove key =>
      obtain ⟨removed, after⟩ := shows.remove key moment
      refine ⟨?_, after⟩
      simp only [Cache.perform, Flat.perform, removed]
      cases (flat.remove key).1 <;> exact .same _
  | evict key entry =>
      obtain ⟨evicted, after⟩ := shows.evict key entry
      refine ⟨?_, after⟩
      simp only [Cache.perform, Flat.perform, evicted]
      exact .same _
  | keys => exact ⟨.keys shows.keys_perm, shows⟩
  | size => exact ⟨by rw [Cache.perform, Flat.perform, shows.size_eq]; exact .same _, shows⟩
  | isEmpty => exact ⟨by rw [Cache.perform, Flat.perform, shows.isEmpty_eq]; exact .same _, shows⟩
  | clear =>
      obtain ⟨removed, after⟩ := shows.removeAll moment
      refine ⟨?_, after⟩
      simp only [Cache.perform, Flat.perform, removed]
      exact .same _
  | destroy => exact ⟨.same _, (shows.removeAll moment).2⟩
  | sweep =>
      have reported := shows.sweepAll moment
      simp only [Cache.perform, Flat.perform]
      generalize Sweep.procedure.undisturbed moment .starting cache = ended at reported ⊢
      obtain ⟨phase, after, events⟩ := ended
      obtain ⟨rfl, shown⟩ := reported
      exact ⟨.same _, shown⟩
  | statistics =>
      refine ⟨?_, shows⟩
      have same : cache.store.statistics = flat.statistics := funext shows.statistics_eq
      rw [Cache.perform, Flat.perform, same]
      exact .same _
  | entry command =>
      simp only [Cache.perform, Flat.perform, shows.heap]
      exact ⟨.same _, { shows with heap := rfl }⟩

/-- Operations one after the other give replies that are alike. -/
theorem answers (shows : flat.Shows cache) (uses : List (Command × Moment)) :
    List.Forall₂ Reply.Agrees (answers Cache.perform cache uses) (answers Flat.perform flat uses) := by
  induction uses generalizing flat cache with
  | nil => exact .nil
  | cons use rest ih =>
      obtain ⟨alike, after⟩ := shows.perform use.1 use.2
      exact .cons alike (ih after)

/-- Two caches that one flat cache shows give replies that are alike. -/
theorem answers_alike {other : Cache} (first : flat.Shows cache) (second : flat.Shows other)
    (uses : List (Command × Moment)) :
    List.Forall₂ Reply.Agrees (SingleFlight.answers Cache.perform cache uses)
      (SingleFlight.answers Cache.perform other uses) := by
  induction uses generalizing flat cache other with
  | nil => exact .nil
  | cons use rest ih =>
      obtain ⟨left, afterFirst⟩ := first.perform use.1 use.2
      obtain ⟨right, afterSecond⟩ := second.perform use.1 use.2
      exact .cons (left.trans right.symm) (ih afterFirst afterSecond)

end Shows

/-- An empty flat cache shows an empty cache, whatever its segments are. -/
theorem shows_empty (hash : String → Nat) (count : Nat) (positive : 0 < count) (ceiling : Duration) :
    (empty ceiling).Shows (Traffic.opened hash count positive ceiling).cache where
  heap := rfl
  lookup key := by
    simp [Traffic.opened, Store.lookup, Segments.lookup, Segments.table, Segments.empty, empty]
  inPlace := Segments.inPlace_empty hash count positive
  once := List.nodup_nil
  maxLockHold := rfl
  created := rfl
  replaced := rfl
  evictions := rfl
  lastSweep := rfl
  sweeps := rfl

end Flat

/-- A step of a lookup leaves alone what another key maps to. -/
theorem Lookup.lookup_step_of_ne (asked : Lookup) {other : String} (apart : other ≠ asked.key)
    (phase : Phase) (moment : Moment) {cache : Cache} :
    (asked.step phase moment cache).2.1.store.lookup other = cache.store.lookup other := by
  cases phase with
  | finding =>
      simp only [step, find]
      split
      · rfl
      · split
        · rfl
        · exact (cache.store.lookup_create asked.key _ other).trans (if_neg apart)
  | swapping found candidate =>
      have placed := (cache.store.lookup_replace asked.key candidate other).trans (if_neg apart)
      simp only [step, swap]
      split
      · split
        · exact placed
        · rfl
      · exact placed
  | timing _ | stamping _ _ | judging _ _ => simp only [step]; split <;> rfl
  | copying _ | finished _ => rfl

namespace Cache
variable {cache : Cache}

theorem perform_getOrCreate (cache : Cache) (asked : Lookup) (moment : Moment) :
    (cache.perform (.getOrCreate asked) moment).2 =
      (asked.procedure.undisturbed moment .finding cache).2.1 := by
  simp only [perform]
  split <;> simp_all

theorem perform_sweep (cache : Cache) (moment : Moment) :
    (cache.perform .sweep moment).2 = (Sweep.procedure.undisturbed moment .starting cache).2.1 := by
  simp only [perform]
  split <;> simp_all

/-- A complete operation changes the map by single keys and single segments only. -/
theorem edited_perform {start : Segments} (edited : start.Edited cache.store.segments)
    (command : Command) (moment : Moment) :
    start.Edited (cache.perform command moment).2.store.segments := by
  have removal (removal : Removal) : start.Edited (cache.remove removal moment).2.store.segments := by
    rw [remove]
    exact Procedure.undisturbed_keeps (fun after => start.Edited after.store.segments)
      (fun phase _ _ kept => Removal.edited_step kept phase) _ edited
  cases command with
  | getOrCreate asked =>
      rw [perform_getOrCreate]
      exact Procedure.undisturbed_keeps (fun after => start.Edited after.store.segments)
        (fun phase moment _ kept => asked.edited_step kept phase moment) _ edited
  | sweep =>
      rw [perform_sweep]
      exact Procedure.undisturbed_keeps (fun after => start.Edited after.store.segments)
        (fun phase moment _ kept => Sweep.edited_step kept phase moment) _ edited
  | remove key => exact removal (.key key)
  | clear | destroy => exact removal .all
  | evict key entry => exact Store.edited_evict edited key entry
  | get _ | contains _ | keys | size | isEmpty | statistics | entry _ => exact edited

theorem edited_performAll {start : Segments} (edited : start.Edited cache.store.segments)
    (uses : List (Command × Moment)) :
    start.Edited (cache.performAll uses).store.segments := by
  induction uses generalizing cache with
  | nil => exact edited
  | cons use rest ih => exact ih (edited_perform edited use.1 use.2)

/-- An operation on one key leaves alone what another key maps to. -/
theorem lookup_perform_of_ne {command : Command} {key other : String} (about : command.key? = some key)
    (apart : other ≠ key) (moment : Moment) :
    (cache.perform command moment).2.store.lookup other = cache.store.lookup other := by
  cases command with
  | get _ | contains _ => rfl
  | getOrCreate asked =>
      obtain rfl : asked.key = key := by simpa [Command.key?] using about
      rw [perform_getOrCreate]
      exact Procedure.undisturbed_keeps
        (fun after => after.store.lookup other = cache.store.lookup other)
        (fun phase moment _ kept => (asked.lookup_step_of_ne apart phase moment).trans kept) _ rfl
  | remove name =>
      obtain rfl : name = key := by simpa [Command.key?] using about
      have taken := (cache.store.lookup_take name other).trans (if_neg apart)
      have start : Removal.start (.key name) cache.store.segments.count = .taking name := rfl
      cases there : cache.store.contains name with
      | true =>
          simp only [perform, remove, start, Removal.undisturbed_present there]
          exact taken
      | false =>
          simp only [perform, remove, start, Removal.undisturbed_absent there]
          exact taken
  | evict name entry =>
      obtain rfl : name = key := by simpa [Command.key?] using about
      exact (cache.store.lookup_evict name entry other).trans (if_neg fun both => apart both.1)
  | keys | size | isEmpty | clear | destroy | sweep | statistics | entry _ =>
      simp [Command.key?] at about

end Cache

/-- How keys stand in a store, and what is told of them. -/
structure Store.Orderly (store : Store) (hash : String → Nat) (count : Nat) : Prop where
  placed : ∀ number key, key ∈ (store.segments.tableAt number).map Prod.fst → number = hash key % count
  listed : ∀ key, key ∈ store.keys ↔ store.lookup key ≠ none
  once : store.keys.Nodup
  size : ∀ stored : Finset String, (∀ key, key ∈ stored ↔ store.lookup key ≠ none) →
    store.size = stored.card
  empty : store.isEmpty = true ↔ store.size = 0

/-- A map that has come from an empty one is orderly. -/
theorem Store.orderly_of_edited {store : Store} {hash : String → Nat} {count : Nat}
    (positive : 0 < count) (edited : (Segments.empty hash count positive).Edited store.segments) :
    store.Orderly hash count := by
  have inPlace := edited.inPlace (Segments.inPlace_empty hash count positive)
  have segments : store.segments.count = count :=
    edited.count_eq.trans (by simp [Segments.count, Segments.empty])
  have hashed : store.segments.hash = hash := edited.hash_eq
  refine ⟨fun number key there => ?_, inPlace.mem_keys_iff_lookup, inPlace.nodup_keys,
    inPlace.size_eq_card, store.segments.isEmpty_iff_size⟩
  rw [← segments, ← hashed]
  exact inPlace.placed number key there

namespace Cache

/-- The segments of a store do not show: it answers as one flat map, however it is configured. -/
theorem answers_as_flat (hash : String → Nat) (count : Nat) (positive : 0 < count)
    (ceiling : Duration) :
    let start := Traffic.opened hash count positive ceiling
    (∀ uses, List.Forall₂ Reply.Agrees (answers perform start.cache uses)
      (answers Flat.perform (.empty ceiling) uses)) ∧
    (∀ config config' hash' store store', Store.init config hash = .ok store →
      Store.init config' hash' = .ok store' → config.maxLockHold = config'.maxLockHold →
      ∀ uses, List.Forall₂ Reply.Agrees (answers perform ⟨.empty, store⟩ uses)
        (answers perform ⟨.empty, store'⟩ uses)) ∧
    ∀ moves uses,
      let cache := (start.run moves).cache.performAll uses
      cache.store.Orderly hash count ∧
        ∀ command key other moment, command.key? = some key → other ≠ key →
          (cache.perform command moment).2.store.lookup other = cache.store.lookup other := by
  intro start
  refine ⟨(Flat.shows_empty hash count positive ceiling).answers, ?_, fun moves uses => ⟨?_, ?_⟩⟩
  · intro config config' hash' store store' made made' same uses
    obtain ⟨-, positive, rfl⟩ := Store.init_eq_opened made
    obtain ⟨-, positive', rfl⟩ := Store.init_eq_opened made'
    have first := Flat.shows_empty hash _ positive config.maxLockHold
    have second := Flat.shows_empty hash' _ positive' config'.maxLockHold
    rw [← congrArg Flat.empty same] at second
    exact first.answers_alike second uses
  · have edited : start.cache.store.segments.Edited
        ((start.run moves).cache.performAll uses).store.segments :=
      edited_performAll (Traffic.edited_run .unchanged moves) uses
    exact Store.orderly_of_edited positive edited
  · exact fun command key other moment about apart => lookup_perform_of_ne about apart moment

end Cache

-- The share of a segment is computed with roundings that the logic does not show. So many segments have
-- room whatever the share is.
theorem Config.capacityFault?_eq_none {config : Config} (many : 2 ^ 55 ≤ config.segments)
    (few : segmentBytes * config.segments < CapacityFault.byteLimit) : config.capacityFault? = none := by
  have small : config.segmentCapacity < 514 := by
    unfold segmentCapacity
    extract_lets entries
    have word := entries.ceil.toUInt64.toNat_lt
    rw [Nat.div_lt_iff_lt_mul (by omega)]
    omega
  have room : ∀ share : Fin 514, CapacityFault.ofTable? slotBytes share = none := by decide +kernel
  rw [capacityFault?, CapacityFault.ofList?, if_pos few, room ⟨_, small⟩]
  rfl

/-- A configuration without a fault makes a store. -/
theorem Store.exists_init {config : Config} (sound : config.fault? = none)
    (room : config.capacityFault? = none) (hash : String → Nat) :
    ∃ store, Store.init config hash = .ok store := by
  unfold Store.init
  split
  · next faulty => rw [sound] at faulty; cases faulty
  · rw [room]
    exact ⟨_, rfl⟩

namespace Cache

/-- Two configurations that differ in all but the ceiling. -/
def broad : Config := { Config.standard (2 ^ 55) with maxLockHold := ⟨9⟩ }

def broader : Config := ⟨64, 0.5, 2 ^ 56, none, ⟨9⟩⟩

/-- Keys of one segment, and two stores configured in different ways. -/
theorem answers_as_flat_colliding :
    let start := Traffic.opened (fun _ => 7) 3 (Nat.succ_pos 2) ⟨9⟩
    let moment : Moment := ⟨.ok ⟨0⟩, .ok ⟨0⟩⟩
    let uses := [(Command.getOrCreate ⟨"a", none, ⟨5⟩⟩, moment),
      (.getOrCreate ⟨"b", none, ⟨5⟩⟩, moment), (.remove "a", moment), (.keys, moment)]
    List.Forall₂ Reply.Agrees (answers perform start.cache uses)
        (answers Flat.perform (.empty ⟨9⟩) uses) ∧
      (start.cache.performAll uses).store.segments.tableAt 1 = [("b", ⟨1⟩)] ∧
      ∃ store store', Store.init broad (fun _ => 7) = .ok store ∧
        Store.init broader String.length = .ok store' ∧
        List.Forall₂ Reply.Agrees (answers perform ⟨.empty, store⟩ uses)
          (answers perform ⟨.empty, store'⟩ uses) := by
  intro start moment uses
  obtain ⟨flat, alike, -⟩ := answers_as_flat (fun _ => 7) 3 (Nat.succ_pos 2) ⟨9⟩
  obtain ⟨store, made⟩ : ∃ store, Store.init broad (fun _ => 7) = .ok store :=
    Store.exists_init (by decide +kernel) (Config.capacityFault?_eq_none (by decide) (by decide)) _
  obtain ⟨store', made'⟩ : ∃ store, Store.init broader String.length = .ok store :=
    Store.exists_init (by decide +kernel) (Config.capacityFault?_eq_none (by decide) (by decide)) _
  refine ⟨flat uses, by decide +kernel, store, store', made, made', ?_⟩
  exact alike broad broader String.length store store' made made' rfl uses

end Cache

end SingleFlight
