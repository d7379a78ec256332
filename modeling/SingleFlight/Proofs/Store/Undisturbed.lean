import SingleFlight.Proofs.Store.Placement
import SingleFlight.Store.Lookup
import SingleFlight.Store.Removal
import SingleFlight.Store.Sweep

namespace SingleFlight

/-- What a step sees of a moment. -/
def Moment.seen (moment : Moment) : ClockUse → Moment
  | .monotonic => ⟨moment.monotonic, .error .wallBeyondPlatform⟩
  | .wall => ⟨.error .instantBeyondPlatform, moment.wall⟩
  | .unused => ⟨.error .instantBeyondPlatform, .error .wallBeyondPlatform⟩

namespace Procedure
variable {Phase : Type} (procedure : Procedure Phase) (moment : Moment)

/-- The next step of a procedure that runs alone. -/
def next (phase : Phase) (cache : Cache) : Phase × Cache × List Event :=
  procedure.step phase (moment.seen (procedure.clockUse phase cache)) cache

/-- At most `count` steps of a procedure that runs alone. -/
def alone (count : Nat) (phase : Phase) (cache : Cache) (logged : List Event) :
    Phase × Cache × List Event :=
  (procedure.stepsIn (Host.still moment) count phase).run (cache, logged)

variable {procedure} {moment}

/-- A procedure that rests makes no step. -/
theorem alone_rest {phase : Phase} (rest : procedure.remaining phase = 0) (count : Nat)
    (cache : Cache) (logged : List Event) :
    procedure.alone moment count phase cache logged = (phase, cache, logged) := by
  cases count with
  | zero => rfl
  | succ count => rw [alone, stepsIn, if_pos rest]; rfl

/-- A clock that stands still shows the same moment at each step. -/
theorem moment_still (moment : Moment) :
    (Host.still moment).moment = fun use => pure (moment.seen use) := by
  funext use
  cases use <;> rfl

/-- A procedure that does not rest goes on with its next step. -/
theorem alone_step {phase after : Phase} {cache later : Cache} {events : List Event}
    (running : procedure.remaining phase ≠ 0)
    (leads : procedure.next moment phase cache = (after, later, events)) (count : Nat)
    (logged : List Event) :
    procedure.alone moment (count + 1) phase cache logged =
      procedure.alone moment count after later (logged ++ events) := by
  have stepped : (procedure.stepIn (Host.still moment) phase).run (cache, logged) =
      ((procedure.next moment phase cache).1, (procedure.next moment phase cache).2.1,
        logged ++ (procedure.next moment phase cache).2.2) := by
    rw [stepIn, moment_still]
    rfl
  rw [leads] at stepped
  rw [alone, stepsIn, if_neg running]
  show (let (next, state) := (procedure.stepIn (Host.still moment) phase).run (cache, logged)
    (procedure.stepsIn (Host.still moment) count next).run state) = _
  rw [stepped]
  rfl

/-- A procedure that runs alone goes two legs. -/
theorem undisturbed_eq (phase : Phase) (cache : Cache) :
    procedure.undisturbed moment phase cache =
      let (middle, between, events) := procedure.alone moment (procedure.remaining phase) phase cache []
      procedure.alone moment (procedure.remaining middle) middle between events := rfl

theorem undisturbed_of_legs {phase middle last : Phase} {cache between final : Cache}
    {before events : List Event}
    (first : procedure.alone moment (procedure.remaining phase) phase cache [] =
      (middle, between, before))
    (second : procedure.alone moment (procedure.remaining middle) middle between before =
      (last, final, events)) :
    procedure.undisturbed moment phase cache = (last, final, events) := by
  rw [undisturbed_eq, first]
  exact second

/-- A procedure whose first leg is its last is over. -/
theorem undisturbed_of_rest {phase last : Phase} {cache final : Cache} {events : List Event}
    (reached :
      procedure.alone moment (procedure.remaining phase) phase cache [] = (last, final, events))
    (rest : procedure.remaining last = 0) :
    procedure.undisturbed moment phase cache = (last, final, events) :=
  undisturbed_of_legs reached (alone_rest rest _ _ _)

/-- A procedure whose only step is its last is over. -/
theorem undisturbed_of_step {phase last : Phase} {cache final : Cache} {events : List Event}
    (only : procedure.remaining phase = 1)
    (leads : procedure.next moment phase cache = (last, final, events))
    (rest : procedure.remaining last = 0) :
    procedure.undisturbed moment phase cache = (last, final, events) := by
  have running : procedure.remaining phase ≠ 0 := by simp [only]
  refine undisturbed_of_rest ?_ rest
  rw [only]
  exact (alone_step running leads 0 []).trans (alone_rest rest _ _ _)

/-- What each step keeps is kept by lone steps. -/
theorem alone_keeps (Kept : Cache → Prop)
    (step : ∀ phase moment cache, Kept cache → Kept (procedure.step phase moment cache).2.1)
    (count : Nat) (phase : Phase) {cache : Cache} (kept : Kept cache) (logged : List Event) :
    Kept (procedure.alone moment count phase cache logged).2.1 := by
  induction count generalizing phase cache logged with
  | zero => exact kept
  | succ count ih =>
      by_cases rest : procedure.remaining phase = 0
      · rw [alone_rest rest]
        exact kept
      · rw [alone_step rest rfl]
        exact ih _ (step _ _ _ kept) _

/-- What each step of a procedure keeps is kept when it runs alone. -/
theorem undisturbed_keeps (Kept : Cache → Prop)
    (step : ∀ phase moment cache, Kept cache → Kept (procedure.step phase moment cache).2.1)
    (phase : Phase) {cache : Cache} (kept : Kept cache) :
    Kept (procedure.undisturbed moment phase cache).2.1 :=
  alone_keeps Kept step _ _ (alone_keeps Kept step _ _ kept _) _

end Procedure

namespace Lookup
variable (asked : Lookup) {moment : Moment} {cache : Cache}

theorem next_absent (moment : Moment) (absent : cache.store.lookup asked.key = none) :
    asked.procedure.next moment .finding cache = asked.find moment.monotonic cache := by
  simp [Procedure.next, procedure, clockUse, Store.contains, absent, Moment.seen, step]

theorem next_found {found : EntryId} (there : cache.store.lookup asked.key = some found) :
    asked.procedure.next moment .finding cache = (.timing found, cache, []) := by
  simp only [Procedure.next, procedure, step, find, there]

theorem next_timing (found : EntryId) {now : Instant} (read : moment.monotonic = .ok now) :
    asked.procedure.next moment (.timing found) cache = (.judging found now, cache, []) := by
  simp only [Procedure.next, procedure, clockUse, Moment.seen, step, read]

/-- A lookup that finds nothing makes an entry and puts it in place. -/
theorem undisturbed_absent (absent : cache.store.lookup asked.key = none) {now : Instant}
    (read : moment.monotonic = .ok now) :
    asked.procedure.undisturbed moment .finding cache =
      (.finished (.ok cache.heap.next),
        ⟨cache.heap.add (Entry.fresh asked.tag asked.ttl cache.store.maxLockHold now),
          cache.store.create asked.key cache.heap.next⟩,
        [.created asked.key]) := by
  have made := asked.next_absent moment absent
  simp only [find, absent, read] at made
  refine Procedure.undisturbed_of_rest ?_ rfl
  exact (Procedure.alone_step (Nat.succ_ne_zero _) made _ _).trans
    (Procedure.alone_rest rfl _ _ _)

/-- A lookup that cannot read the clock changes nothing. -/
theorem undisturbed_unread {fault : ClockFault} (unread : moment.monotonic = .error fault) :
    asked.procedure.undisturbed moment .finding cache = (.finished (.error fault), cache, []) := by
  refine Procedure.undisturbed_of_rest ?_ rfl
  cases known : cache.store.lookup asked.key with
  | none =>
      have failed := asked.next_absent moment known
      simp only [find, known, unread] at failed
      exact (Procedure.alone_step (Nat.succ_ne_zero _) failed _ _).trans
        (Procedure.alone_rest rfl _ _ _)
  | some found =>
      have failed : asked.procedure.next moment (.timing found) cache =
          (.finished (.error fault), cache, []) := by
        simp only [Procedure.next, procedure, clockUse, Moment.seen, step, unread]
      exact (Procedure.alone_step (Nat.succ_ne_zero _) (asked.next_found known) _ _).trans
        ((Procedure.alone_step (Nat.succ_ne_zero _) failed _ _).trans
          (Procedure.alone_rest rfl _ _ _))

/-- A lookup gives the entry it finds unless its lock is abandoned. -/
theorem undisturbed_kept {found : EntryId} (there : cache.store.lookup asked.key = some found)
    {now : Instant} (read : moment.monotonic = .ok now)
    (kept : (cache.heap.get found).isAbandoned now = false) :
    asked.procedure.undisturbed moment .finding cache = (.finished (.ok found), cache, []) := by
  have judged : asked.procedure.next moment (.judging found now) cache =
      (.finished (.ok found), cache, []) := by
    simp [Procedure.next, procedure, step, kept]
  refine Procedure.undisturbed_of_rest ?_ rfl
  calc asked.procedure.alone moment 6 .finding cache []
      = asked.procedure.alone moment 5 (.timing found) cache [] :=
        Procedure.alone_step (Nat.succ_ne_zero _) (asked.next_found there) _ _
    _ = asked.procedure.alone moment 4 (.judging found now) cache [] :=
        Procedure.alone_step (Nat.succ_ne_zero _) (asked.next_timing found read) _ _
    _ = asked.procedure.alone moment 3 (.finished (.ok found)) cache [] :=
        Procedure.alone_step (Nat.succ_ne_zero _) judged _ _
    _ = (.finished (.ok found), cache, []) := Procedure.alone_rest rfl _ _ _

/-- A lookup replaces an abandoned entry by an unlocked copy. -/
theorem undisturbed_replaced {found : EntryId} (there : cache.store.lookup asked.key = some found)
    {now : Instant} (read : moment.monotonic = .ok now)
    (abandoned : (cache.heap.get found).isAbandoned now = true) :
    let state := cache.heap.get found
    let copy := Entry.seeded state.content asked.tag asked.ttl state.maxLockHold now
    asked.procedure.undisturbed moment .finding cache =
      (.finished (.ok cache.heap.next),
        ⟨cache.heap.add copy, cache.store.replace asked.key cache.heap.next⟩,
        [.replaced asked.key cache.store.maxLockHold]) := by
  intro state copy
  have judged : asked.procedure.next moment (.judging found now) cache =
      (.copying found, cache, []) := by
    simp [Procedure.next, procedure, step, abandoned]
  have copied : asked.procedure.next moment (.copying found) cache =
      (.stamping found state.content, cache, []) := rfl
  have stamped : asked.procedure.next moment (.stamping found state.content) cache =
      (.swapping found cache.heap.next, { cache with heap := cache.heap.add copy }, []) := by
    simp only [Procedure.next, procedure, clockUse, Moment.seen, step, read]
    rfl
  have swapped : asked.procedure.next moment (.swapping found cache.heap.next)
      { cache with heap := cache.heap.add copy } = (.finished (.ok cache.heap.next),
        ⟨cache.heap.add copy, cache.store.replace asked.key cache.heap.next⟩,
        [.replaced asked.key cache.store.maxLockHold]) := by
    simp only [Procedure.next, procedure, step, swap, there, if_true]
  refine Procedure.undisturbed_of_rest ?_ rfl
  calc asked.procedure.alone moment 6 .finding cache []
      = asked.procedure.alone moment 5 (.timing found) cache [] :=
        Procedure.alone_step (Nat.succ_ne_zero _) (asked.next_found there) _ _
    _ = asked.procedure.alone moment 4 (.judging found now) cache [] :=
        Procedure.alone_step (Nat.succ_ne_zero _) (asked.next_timing found read) _ _
    _ = asked.procedure.alone moment 3 (.copying found) cache [] :=
        Procedure.alone_step (Nat.succ_ne_zero _) judged _ _
    _ = asked.procedure.alone moment 2 (.stamping found state.content) cache [] :=
        Procedure.alone_step (Nat.succ_ne_zero _) copied _ _
    _ = asked.procedure.alone moment 1 (.swapping found cache.heap.next)
          { cache with heap := cache.heap.add copy } [] :=
        Procedure.alone_step (Nat.succ_ne_zero _) stamped _ _
    _ = _ := (Procedure.alone_step (Nat.succ_ne_zero _) swapped _ _).trans
        (Procedure.alone_rest rfl _ _ _)

end Lookup

namespace Segments

/-- What is left of a table after some segments were emptied. -/
theorem getElem?_foldl_clearAt (numbers : List Nat) (segments : Segments) (number : Nat) :
    (numbers.foldl clearAt segments).tables[number]? =
      if number ∈ numbers ∧ number < segments.count then some [] else segments.tables[number]? := by
  induction numbers generalizing segments with
  | nil => simp
  | cons first rest ih =>
      rw [List.foldl_cons, ih, clearAt, count_setTableAt, setTableAt, Array.getElem?_setIfInBounds]
      simp only [List.mem_cons, count]
      by_cases later : number ∈ rest <;> by_cases same : first = number <;> grind

theorem hash_foldl_clearAt (numbers : List Nat) (segments : Segments) :
    (numbers.foldl clearAt segments).hash = segments.hash := by
  induction numbers generalizing segments with
  | nil => rfl
  | cons first rest ih => exact ih (segments.clearAt first)

/-- A map whose segments have all been emptied is an empty map. -/
theorem foldl_clearAt_range (segments : Segments) :
    (List.range segments.count).foldl clearAt segments =
      .empty segments.hash segments.count segments.positive := by
  have hash := hash_foldl_clearAt (List.range segments.count) segments
  have tables : ((List.range segments.count).foldl clearAt segments).tables =
      Array.replicate segments.count [] := by
    apply Array.ext_getElem?
    intro number
    rw [getElem?_foldl_clearAt, Array.getElem?_replicate]
    by_cases inside : number < segments.count
    · simp [inside]
    · have beyond : segments.tables.size ≤ number := Nat.le_of_not_lt inside
      simp [inside, beyond]
  cases cleared : (List.range segments.count).foldl clearAt segments
  simp only [cleared] at hash tables
  subst hash tables
  rfl

end Segments

/-- The store with nothing in it, and the counters as they were. -/
def Store.emptied (store : Store) : Store :=
  { store with segments := .empty store.segments.hash store.segments.count store.segments.positive }

namespace Removal
variable {moment : Moment} {cache : Cache}

theorem next_counting (removed : Nat) :
    procedure.next moment (.counting removed) cache =
      (.finished removed, { cache with store := cache.store.countEvictions removed }, []) := rfl

/-- A removal takes a present key out and counts it. -/
theorem undisturbed_present {name : String} (there : cache.store.contains name = true) :
    procedure.undisturbed moment (.taking name) cache =
      (.finished 1, { cache with store := (cache.store.take name).2.countEvictions 1 }, []) := by
  have taken : procedure.next moment (.taking name) cache =
      (.counting 1, { cache with store := (cache.store.take name).2 }, []) := by
    simp [Procedure.next, procedure, step, Store.take, there]
  refine Procedure.undisturbed_of_rest ?_ rfl
  exact (Procedure.alone_step (Nat.succ_ne_zero _) taken 1 _).trans
    ((Procedure.alone_step (Nat.succ_ne_zero _) (next_counting 1) 0 _).trans
      (Procedure.alone_rest rfl _ _ _))

/-- A removal of a key that is not there counts nothing. -/
theorem undisturbed_absent {name : String} (absent : cache.store.contains name = false) :
    procedure.undisturbed moment (.taking name) cache =
      (.finished 0, { cache with store := (cache.store.take name).2 }, []) := by
  have missed : procedure.next moment (.taking name) cache =
      (.finished 0, { cache with store := (cache.store.take name).2 }, []) := by
    simp [Procedure.next, procedure, step, Store.take, absent]
  refine Procedure.undisturbed_of_rest ?_ rfl
  exact (Procedure.alone_step (Nat.succ_ne_zero _) missed 1 _).trans (Procedure.alone_rest rfl _ _ _)

/-- Segments are emptied one by one, and what was in them counted. -/
theorem alone_clearing (moment : Moment) (numbers : List Nat) (removed : Nat) (cache : Cache)
    (logged : List Event) :
    let cleared := numbers.foldl Segments.clearAt cache.store.segments
    ∃ gone, gone + cleared.size = cache.store.segments.size ∧
      procedure.alone moment (numbers.length + 2) (.clearing numbers removed) cache logged =
        (.finished (removed + gone),
          { cache with store :=
            { cache.store with segments := cleared }.countEvictions (removed + gone) },
          logged) := by
  induction numbers generalizing removed cache logged with
  | nil =>
      refine ⟨0, Nat.zero_add _, ?_⟩
      have ended : procedure.next moment (.clearing [] removed) cache =
          (.counting removed, cache, []) := rfl
      have reached := (Procedure.alone_step (Nat.succ_ne_zero _) ended 1 logged).trans
        ((Procedure.alone_step (Nat.succ_ne_zero _) (next_counting removed) 0 _).trans
          (Procedure.alone_rest rfl _ _ _))
      rw [List.append_nil, List.append_nil] at reached
      exact reached
  | cons number rest ih =>
      let after : Cache := { cache with store.segments := cache.store.segments.clearAt number }
      have emptied : procedure.next moment (.clearing (number :: rest) removed) cache =
          (.clearing rest (removed + (cache.store.segments.tableAt number).length), after, []) := rfl
      obtain ⟨gone, balance, reached⟩ :=
        ih (removed + (cache.store.segments.tableAt number).length) after logged
      have smaller := cache.store.segments.size_clearAt number
      refine ⟨(cache.store.segments.tableAt number).length + gone, ?_, ?_⟩
      · simp only [List.foldl_cons, after] at balance ⊢
        omega
      · rw [List.length_cons, Nat.add_right_comm,
          Procedure.alone_step (Nat.succ_ne_zero _) emptied, List.append_nil, reached,
          Nat.add_assoc]
        rfl

/-- A removal of everything leaves an empty store and counts all. -/
theorem undisturbed_all :
    procedure.undisturbed moment (Removal.all.start cache.store.segments.count) cache =
      (.finished cache.store.size,
        { cache with store := cache.store.emptied.countEvictions cache.store.size }, []) := by
  obtain ⟨gone, balance, reached⟩ := alone_clearing moment
    (List.range cache.store.segments.count) 0 cache []
  rw [Segments.foldl_clearAt_range] at balance reached
  have bare : (Segments.empty cache.store.segments.hash cache.store.segments.count
      cache.store.segments.positive).size = 0 := by simp [Segments.size_eq_sum, Segments.empty]
  obtain rfl : gone = cache.store.size := by rw [Store.size]; omega
  rw [Nat.zero_add] at reached
  exact Procedure.undisturbed_of_rest reached rfl

end Removal

namespace Store

/-- The store without a key, which is counted. -/
def drop (store : Store) (key : String) : Store :=
  { store with segments := store.segments.erase key, evictions := store.evictions + 1 }

/-- The store without some keys, which are counted. -/
def dropAll (store : Store) (keys : List String) : Store := keys.foldl drop store

theorem lookup_drop (store : Store) (key other : String) :
    (store.drop key).lookup other = if other = key then none else store.lookup other :=
  store.lookup_take key other

theorem lookup_dropAll (keys : List String) (store : Store) (key : String) :
    (store.dropAll keys).lookup key = if key ∈ keys then none else store.lookup key := by
  induction keys generalizing store with
  | nil => simp [dropAll]
  | cons first rest ih =>
      have later := ih (store.drop first)
      rw [dropAll, List.foldl_cons]
      rw [dropAll] at later
      rw [later, lookup_drop]
      by_cases same : key = first <;> simp [same]

/-- Dropping keys changes the map and the evictions alone. -/
theorem dropAll_eq (keys : List String) (store : Store) :
    store.dropAll keys = { store with
      segments := keys.foldl Segments.erase store.segments
      evictions := store.evictions + keys.length } := by
  induction keys generalizing store with
  | nil => rfl
  | cons first rest ih =>
      have later := ih (store.drop first)
      rw [dropAll, List.foldl_cons]
      rw [dropAll] at later
      rw [later, List.length_cons, Nat.add_comm rest.length, ← Nat.add_assoc]
      rfl

/-- Keys are dropped in any order. -/
theorem dropAll_perm {keys others : List String} (same : keys.Perm others) (store : Store) :
    store.dropAll keys = store.dropAll others := by
  have either (segments : Segments) : keys.foldl Segments.erase segments =
      others.foldl Segments.erase segments :=
    same.foldl_eq' (fun first _ second _ segments => segments.erase_comm first second) segments
  rw [dropAll_eq, dropAll_eq, either, same.length_eq]

theorem inPlace_dropAll {store : Store} (inPlace : store.segments.InPlace) (keys : List String) :
    (store.dropAll keys).segments.InPlace := by
  induction keys generalizing store with
  | nil => exact inPlace
  | cons first rest ih =>
      have kept : (store.drop first).segments.InPlace := inPlace.erase first
      exact ih kept

/-- Each present key that is dropped makes the store smaller by one. -/
theorem size_dropAll {store : Store} (inPlace : store.segments.InPlace) {keys : List String}
    (once : keys.Nodup) (present : ∀ key ∈ keys, store.lookup key ≠ none) :
    (store.dropAll keys).size + keys.length = store.size := by
  induction keys generalizing store with
  | nil => rfl
  | cons first rest ih =>
      obtain ⟨apart, once⟩ := List.nodup_cons.mp once
      have smaller : (store.drop first).size + 1 = store.size :=
        inPlace.size_erase_of_present (present first List.mem_cons_self)
      have there (key : String) (inside : key ∈ rest) : (store.drop first).lookup key ≠ none := by
        have other : key ≠ first := fun same => apart (same ▸ inside)
        rw [lookup_drop, if_neg other]
        exact present key (List.mem_cons_of_mem first inside)
      have left : ((store.drop first).dropAll rest).size + rest.length = (store.drop first).size :=
        ih (inPlace.erase first) once there
      rw [List.length_cons, ← smaller, ← left]
      rfl

end Store

/-- Whether a key maps to an entry that a sweep may drop. -/
def Cache.condemns (cache : Cache) (now : Instant) (key : String) : Bool :=
  (cache.stored? key).any fun entry => entry.isDisposable now

namespace Sweep
variable {moment : Moment} {cache : Cache} {now : Instant}

theorem next_visiting_absent {key : String} (absent : cache.store.lookup key = none)
    (progress : Progress) (rest : List String) :
    procedure.next moment (.visiting progress (key :: rest)) cache =
      (.visiting progress rest, cache, []) := by
  simp only [Procedure.next, procedure, step, absent]

theorem next_visiting_found {key : String} {found : EntryId}
    (there : cache.store.lookup key = some found) (progress : Progress) (rest : List String) :
    procedure.next moment (.visiting progress (key :: rest)) cache =
      (.timing progress key found rest, cache, []) := by
  simp only [Procedure.next, procedure, step, there]

theorem next_timing (read : moment.monotonic = .ok now) (progress : Progress) (key : String)
    (found : EntryId) (rest : List String) :
    procedure.next moment (.timing progress key found rest) cache =
      (.judging progress key found now rest, cache, []) := by
  simp only [Procedure.next, procedure, clockUse, Moment.seen, step, withReading, read]

/-- A sweep drops the visited keys that were condemned at the start. -/
theorem alone_visiting (read : moment.monotonic = .ok now) {keys : List String}
    (once : keys.Nodup) (progress : Progress) (cache : Cache) (spare : Nat) (logged : List Event) :
    let gone := keys.filter (cache.condemns now)
    ∃ left, procedure.alone moment (spare + remainingFor keys) (.visiting progress keys) cache logged =
      procedure.alone moment (left + remainingFor [])
        (.visiting { progress with evicted := progress.evicted + gone.length } [])
        { cache with store := cache.store.dropAll gone } logged := by
  induction keys generalizing progress cache spare with
  | nil => exact ⟨spare, rfl⟩
  | cons key rest ih =>
      obtain ⟨fresh, once⟩ := List.nodup_cons.mp once
      cases known : cache.store.lookup key with
      | none =>
          have spared : cache.condemns now key = false := by
            simp [Cache.condemns, Cache.stored?, known]
          obtain ⟨left, reached⟩ := ih once progress cache (spare + 3)
          refine ⟨left, ?_⟩
          rw [List.filter_cons_of_neg (by simp [spared]), ← reached]
          have count : spare + remainingFor (key :: rest) = spare + 3 + remainingFor rest + 1 := by
            simp only [remainingFor, List.length_cons]; omega
          rw [count, Procedure.alone_step (Nat.succ_ne_zero _) (next_visiting_absent known _ _),
            List.append_nil]
      | some found =>
          have judged : cache.condemns now key = (cache.heap.get found).isDisposable now := by
            simp [Cache.condemns, Cache.stored?, known]
          have count : spare + remainingFor (key :: rest) = spare + remainingFor rest + 4 := by
            simp only [remainingFor, List.length_cons]; omega
          have timed : procedure.alone moment (spare + remainingFor (key :: rest))
              (.visiting progress (key :: rest)) cache logged =
                procedure.alone moment (spare + remainingFor rest + 2)
                  (.judging progress key found now rest) cache logged := by
            rw [count, Procedure.alone_step (Nat.succ_ne_zero _) (next_visiting_found known _ _),
              Procedure.alone_step (Nat.succ_ne_zero _) (next_timing read _ _ _ _), List.append_nil,
              List.append_nil]
          cases disposable : (cache.heap.get found).isDisposable now with
          | false =>
              have kept : procedure.next moment (.judging progress key found now rest) cache =
                  (.visiting progress rest, cache, []) := by
                simp [Procedure.next, procedure, step, disposable]
              obtain ⟨left, reached⟩ := ih once progress cache (spare + 1)
              refine ⟨left, ?_⟩
              rw [List.filter_cons_of_neg (by simp [judged, disposable]), ← reached, timed,
                Procedure.alone_step (Nat.succ_ne_zero _) kept, List.append_nil,
                Nat.add_right_comm spare]
          | true =>
              let after : Cache := { cache with store := cache.store.drop key }
              have condemned : procedure.next moment (.judging progress key found now rest) cache =
                  (.removing progress key found rest, cache, []) := by
                simp [Procedure.next, procedure, step, disposable]
              have removed : procedure.next moment (.removing progress key found rest) cache =
                  (.visiting { progress with evicted := progress.evicted + 1 } rest, after, []) := by
                simp [Procedure.next, procedure, step, Store.evict, known, Progress.count, after,
                  Store.drop]
              -- The other keys still map to what they mapped to.
              have unmoved : rest.filter (after.condemns now) = rest.filter (cache.condemns now) := by
                refine List.filter_congr fun other there => ?_
                have apart : other ≠ key := fun same => fresh (same ▸ there)
                simp [Cache.condemns, Cache.stored?, after, Store.lookup_drop, apart]
              obtain ⟨left, reached⟩ :=
                ih once { progress with evicted := progress.evicted + 1 } after spare
              refine ⟨left, ?_⟩
              rw [timed, Procedure.alone_step (Nat.succ_ne_zero _) condemned,
                Procedure.alone_step (Nat.succ_ne_zero _) removed, List.append_nil,
                List.append_nil, reached, unmoved,
                List.filter_cons_of_pos (by rw [judged, disposable]), List.length_cons,
                Nat.add_assoc progress.evicted, Nat.add_comm 1]
              rfl

/-- A lone sweep comes to its visits with the list of the keys. -/
theorem alone_starting (read : moment.monotonic = .ok now) (cache : Cache) :
    procedure.alone moment (procedure.remaining .starting) .starting cache [] =
      (.visiting ⟨now, cache.store.keys.length, 0⟩ cache.store.keys, cache, []) := by
  have started : procedure.next moment .starting cache = (.listing now, cache, []) := by
    simp only [Procedure.next, procedure, clockUse, Moment.seen, step, withReading, read]
  exact (Procedure.alone_step (Nat.succ_ne_zero _) started 1 _).trans
    (Procedure.alone_step (Nat.succ_ne_zero _) rfl 0 _)

/-- A sweep that cannot read the clock changes nothing. -/
theorem undisturbed_unread {fault : ClockFault} (unread : moment.monotonic = .error fault) :
    procedure.undisturbed moment .starting cache = (.finished (.error fault), cache, []) := by
  have failed : procedure.next moment .starting cache = (.finished (.error fault), cache, []) := by
    simp only [Procedure.next, procedure, clockUse, Moment.seen, step, withReading, unread]
  refine Procedure.undisturbed_of_rest ?_ rfl
  exact (Procedure.alone_step (Nat.succ_ne_zero _) failed 1 _).trans (Procedure.alone_rest rfl _ _ _)

/-- A sweep that has visited all keys publishes its report. -/
theorem alone_closing (read : moment.monotonic = .ok now) {finishedAt : WallTime}
    (wall : moment.wall = .ok finishedAt) (progress : Progress) (cache : Cache) (spare : Nat) :
    let report := progress.report finishedAt now
    procedure.alone moment (spare + remainingFor []) (.visiting progress []) cache [] =
      (.finished (.ok report), { cache with store := (cache.store.publish report).countSweep },
        [.swept report.scanned report.evicted report.duration]) := by
  intro report
  have stamped : procedure.next moment (.stamping progress) cache =
      (.closing progress finishedAt, cache, []) := by
    simp only [Procedure.next, procedure, clockUse, Moment.seen, step, wall]
  have closed : procedure.next moment (.closing progress finishedAt) cache =
      (.publishing report, cache, []) := by
    simp only [Procedure.next, procedure, clockUse, Moment.seen, step, withReading, read]
    rfl
  calc procedure.alone moment (spare + 5) (.visiting progress []) cache []
      = procedure.alone moment (spare + 4) (.stamping progress) cache [] :=
        Procedure.alone_step (Nat.succ_ne_zero _) rfl _ _
    _ = procedure.alone moment (spare + 3) (.closing progress finishedAt) cache [] :=
        Procedure.alone_step (Nat.succ_ne_zero _) stamped _ _
    _ = procedure.alone moment (spare + 2) (.publishing report) cache [] :=
        Procedure.alone_step (Nat.succ_ne_zero _) closed _ _
    _ = procedure.alone moment (spare + 1) (.counting report)
          { cache with store := cache.store.publish report } [] :=
        Procedure.alone_step (Nat.succ_ne_zero _) rfl _ _
    _ = _ := (Procedure.alone_step (Nat.succ_ne_zero _) rfl _ _).trans
        (Procedure.alone_rest rfl _ _ _)

/-- A sweep without a wall time ends with the fault. -/
theorem alone_unstamped {fault : ClockFault} (wall : moment.wall = .error fault)
    (progress : Progress) (cache : Cache) (spare : Nat) :
    procedure.alone moment (spare + remainingFor []) (.visiting progress []) cache [] =
      (.finished (.error fault), cache, []) := by
  have failed : procedure.next moment (.stamping progress) cache =
      (.finished (.error fault), cache, []) := by
    simp only [Procedure.next, procedure, clockUse, Moment.seen, step, wall]
  calc procedure.alone moment (spare + 5) (.visiting progress []) cache []
      = procedure.alone moment (spare + 4) (.stamping progress) cache [] :=
        Procedure.alone_step (Nat.succ_ne_zero _) rfl _ _
    _ = procedure.alone moment (spare + 3) (.finished (.error fault)) cache [] :=
        Procedure.alone_step (Nat.succ_ne_zero _) failed _ _
    _ = (.finished (.error fault), cache, []) := Procedure.alone_rest rfl _ _ _

/-- The report of a sweep that runs alone. -/
def reportOf (cache : Cache) (now : Instant) (finishedAt : WallTime) : SweepReport where
  scanned := cache.store.size
  evicted := (cache.store.keys.filter (cache.condemns now)).length
  finishedAt := finishedAt
  duration := .zero

/-- A sweep that runs alone drops the condemned keys and publishes its report. -/
theorem undisturbed_read (inPlace : cache.store.segments.InPlace)
    (read : moment.monotonic = .ok now) {finishedAt : WallTime} (wall : moment.wall = .ok finishedAt) :
    let report := reportOf cache now finishedAt
    let swept := cache.store.dropAll (cache.store.keys.filter (cache.condemns now))
    procedure.undisturbed moment .starting cache =
      (.finished (.ok report), { cache with store := (swept.publish report).countSweep },
        [.swept report.scanned report.evicted report.duration]) := by
  intro report swept
  have once : cache.store.keys.Nodup := inPlace.nodup_keys
  obtain ⟨left, visited⟩ := alone_visiting read once ⟨now, cache.store.keys.length, 0⟩ cache 0 []
  have closed := alone_closing read wall
    ⟨now, cache.store.keys.length, 0 + (cache.store.keys.filter (cache.condemns now)).length⟩
    { cache with store := swept } left
  have same : Progress.report ⟨now, cache.store.keys.length,
      0 + (cache.store.keys.filter (cache.condemns now)).length⟩ finishedAt now = report := by
    simp [Progress.report, report, reportOf, Store.size, Store.keys, Segments.size, Instant.since,
      Duration.zero]
  rw [same] at closed
  rw [Nat.zero_add] at visited
  exact Procedure.undisturbed_of_legs (alone_starting read cache) (visited.trans closed)

/-- A sweep without a wall time has dropped the condemned keys. -/
theorem undisturbed_unstamped (inPlace : cache.store.segments.InPlace)
    (read : moment.monotonic = .ok now) {fault : ClockFault} (wall : moment.wall = .error fault) :
    procedure.undisturbed moment .starting cache =
      (.finished (.error fault),
        { cache with
          store := cache.store.dropAll (cache.store.keys.filter (cache.condemns now)) },
        []) := by
  have once : cache.store.keys.Nodup := inPlace.nodup_keys
  obtain ⟨left, visited⟩ := alone_visiting read once ⟨now, cache.store.keys.length, 0⟩ cache 0 []
  rw [Nat.zero_add] at visited
  exact Procedure.undisturbed_of_legs (alone_starting read cache)
    (visited.trans (alone_unstamped wall _ _ left))

end Sweep

end SingleFlight
