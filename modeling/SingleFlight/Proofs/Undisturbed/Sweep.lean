import SingleFlight.Proofs.Store.Undisturbed
import SingleFlight.Proofs.Traffic.Layout
import SingleFlight.Proofs.Traffic.Sweeping

namespace SingleFlight

/-- Whether an entry was locked up to the ceiling, or is unlocked and expired. -/
def Cache.HasSpent (cache : Cache) (now : Instant) (key : String) : Prop :=
  ∃ entry, cache.stored? key = some entry ∧
    ((∃ hold, entry.hold = some hold ∧ cache.store.maxLockHold ≤ now.since hold.since) ∨
      entry.hold = none ∧ entry.ttl ≤ now.since entry.updated)

/-- Every stored entry has the ceiling of the store. -/
def Cache.IsCapped (cache : Cache) : Prop :=
  ∀ key entry, cache.stored? key = some entry → entry.maxLockHold = cache.store.maxLockHold

theorem Cache.InOrder.isCapped {cache : Cache} (inOrder : cache.InOrder) : cache.IsCapped := by
  intro key entry there
  obtain ⟨id, maps, rfl⟩ := Option.map_eq_some_iff.mp there
  exact inOrder.ceiling key id maps

/-- A sweep condemns the keys whose entries have had their time. -/
theorem Cache.IsCapped.condemns_iff {cache : Cache} (capped : cache.IsCapped) (now : Instant)
    (key : String) : cache.condemns now key = true ↔ cache.HasSpent now key := by
  rw [Cache.condemns, Option.any_eq_true]
  refine exists_congr fun entry => and_congr_right fun there => ?_
  rw [entry.isDisposable_iff, Entry.IsSpent, capped key entry there]

/-- An unlocked entry that a sweep may drop is stale for every tag. -/
theorem Entry.acquire_of_isDisposable {entry : Entry} {now : Instant}
    (spent : entry.isDisposable now = true) (caller : ThreadId) (tag : Option Tag) :
    (entry.acquire caller (.ifStale tag) (.ok now)).1 ≠ .ok .fresh := by
  unfold Entry.acquire
  cases held : entry.hold with
  | none =>
      have expired : entry.isExpired now = true := by
        simpa [Entry.isDisposable, Entry.isLocked, held] using spent
      have stale : entry.grants (.ifStale tag) now = true := by
        simp [Entry.grants, Entry.isStale, expired]
      simp [stale]
  | some hold =>
      by_cases mine : hold.owner = caller <;> simp [mine]

namespace Sweep
variable {moment : Moment} {cache : Cache} {now : Instant}

/-- What a sweep comes to that drops some of the keys it has listed. -/
def ending (cache : Cache) (wall : Except ClockFault WallTime) (listed : Nat) (gone : List String) :
    Phase × Cache × List Event :=
  let swept := cache.store.dropAll gone
  match wall with
  | .error fault => (.finished (.error fault), { cache with store := swept }, [])
  | .ok finishedAt =>
    let report : SweepReport := ⟨listed, gone.length, finishedAt, .zero⟩
    (.finished (.ok report), { cache with store := (swept.publish report).countSweep },
      [.swept report.scanned report.evicted report.duration])

theorem undisturbed_starting (inPlace : cache.store.segments.InPlace)
    (read : moment.monotonic = .ok now) :
    procedure.undisturbed moment .starting cache =
      ending cache moment.wall cache.store.keys.length
        (cache.store.keys.filter (cache.condemns now)) := by
  cases wall : moment.wall with
  | error fault => exact undisturbed_unstamped inPlace read wall
  | ok finishedAt => exact undisturbed_read inPlace read wall

/-- A sweep drops the condemned ones of the keys it has listed. -/
theorem undisturbed_visiting (read : moment.monotonic = .ok now) {keys : List String}
    (once : keys.Nodup) :
    procedure.undisturbed moment (.visiting ⟨now, keys.length, 0⟩ keys) cache =
      ending cache moment.wall keys.length (keys.filter (cache.condemns now)) := by
  obtain ⟨left, visited⟩ := alone_visiting read once ⟨now, keys.length, 0⟩ cache 0 []
  simp only [Nat.zero_add] at visited
  cases wall : moment.wall with
  | error fault =>
      exact Procedure.undisturbed_of_rest (visited.trans (alone_unstamped wall _ _ left)) rfl
  | ok finishedAt =>
      have closed := visited.trans (alone_closing read wall _ _ left)
      have elapsed : now.since now = .zero := by simp [Instant.since, Duration.zero]
      simp only [Progress.report, elapsed] at closed
      exact Procedure.undisturbed_of_rest closed rfl

/-- Which keys a sweep drops counts, not their order. -/
theorem ending_perm {gone others : List String} (same : gone.Perm others)
    (wall : Except ClockFault WallTime) (listed : Nat) :
    ending cache wall listed gone = ending cache wall listed others := by
  unfold ending
  rw [Store.dropAll_perm same, same.length_eq]

/-- What a complete sweep has done. -/
structure Settles (cache : Cache) (now : Instant) (wall : Except ClockFault WallTime) (evicted : Nat)
    (phase : Phase) (after : Cache) : Prop where
  dropped : ∀ key, cache.HasSpent now key → after.store.lookup key = none
  kept : ∀ key, ¬ cache.HasSpent now key → after.store.lookup key = cache.store.lookup key
  entries : after.heap = cache.heap
  number : ∃ gone : Finset String, (∀ key, key ∈ gone ↔ cache.HasSpent now key) ∧ gone.card = evicted
  size : after.store.size + evicted = cache.store.size
  evictions : after.store.evictions = cache.store.evictions + evicted
  created : after.store.created = cache.store.created
  replaced : after.store.replaced = cache.store.replaced
  ceiling : after.store.maxLockHold = cache.store.maxLockHold
  reported : ∀ finishedAt, wall = .ok finishedAt →
    let report : SweepReport := ⟨cache.store.size, evicted, finishedAt, .zero⟩
    phase = .finished (.ok report) ∧ after.store.lastSweep = some report ∧
      after.store.sweeps = cache.store.sweeps + 1
  unreported : ∀ fault, wall = .error fault →
    phase = .finished (.error fault) ∧ after.store.lastSweep = cache.store.lastSweep ∧
      after.store.sweeps = cache.store.sweeps

/-- A sweep changes the map, the evictions and the report alone. -/
theorem store_ending (cache : Cache) (wall : Except ClockFault WallTime) (listed : Nat)
    (gone : List String) :
    let after := (ending cache wall listed gone).2.1
    after.heap = cache.heap ∧
      after.store.segments = (cache.store.dropAll gone).segments ∧
      after.store.evictions = cache.store.evictions + gone.length ∧
      after.store.created = cache.store.created ∧ after.store.replaced = cache.store.replaced ∧
      after.store.maxLockHold = cache.store.maxLockHold := by
  unfold ending
  rw [Store.dropAll_eq]
  cases wall <;> exact ⟨rfl, rfl, rfl, rfl, rfl, rfl⟩

theorem lookup_ending (cache : Cache) (wall : Except ClockFault WallTime) (listed : Nat)
    (gone : List String) (key : String) :
    (ending cache wall listed gone).2.1.store.lookup key =
      if key ∈ gone then none else cache.store.lookup key := by
  obtain ⟨-, segments, -⟩ := store_ending cache wall listed gone
  rw [← Store.lookup_dropAll, Store.lookup, segments, Store.lookup]

/-- A sweep drops the keys whose entries have had their time. -/
theorem mem_gone_iff (inPlace : cache.store.segments.InPlace) (capped : cache.IsCapped) (key : String) :
    key ∈ cache.store.keys.filter (cache.condemns now) ↔ cache.HasSpent now key := by
  rw [List.mem_filter, capped.condemns_iff]
  constructor
  · exact And.right
  · intro spent
    obtain ⟨entry, there, -⟩ := id spent
    obtain ⟨id, maps, -⟩ := Option.map_eq_some_iff.mp there
    have present : cache.store.lookup key ≠ none := by simp [maps]
    exact ⟨(inPlace.mem_keys_iff_lookup key).mpr present, spent⟩

/-- A sweep that drops what is condemned does what it has to. -/
theorem settles_ending (inPlace : cache.store.segments.InPlace) (capped : cache.IsCapped)
    (wall : Except ClockFault WallTime) :
    let gone := cache.store.keys.filter (cache.condemns now)
    let result := ending cache wall cache.store.keys.length gone
    Settles cache now wall gone.length result.1 result.2.1 := by
  intro gone result
  have once : gone.Nodup := inPlace.nodup_keys.filter _
  have spent (key : String) : key ∈ gone ↔ cache.HasSpent now key := mem_gone_iff inPlace capped key
  obtain ⟨heap, segments, evictions, created, replaced, ceiling⟩ :=
    store_ending cache wall cache.store.keys.length gone
  have present (key : String) (inside : key ∈ gone) : cache.store.lookup key ≠ none :=
    (inPlace.mem_keys_iff_lookup key).mp (List.mem_filter.mp inside).1
  exact {
    dropped := fun key had => by rw [lookup_ending, if_pos ((spent key).mpr had)]
    kept := fun key not => by rw [lookup_ending, if_neg (mt (spent key).mp not)]
    entries := heap
    number := ⟨gone.toFinset, fun key => List.mem_toFinset.trans (spent key),
      List.toFinset_card_of_nodup once⟩
    size := by
      have left := Store.size_dropAll inPlace once present
      rwa [Store.size, ← segments] at left
    evictions := evictions
    created := created
    replaced := replaced
    ceiling := ceiling
    reported := by
      rintro finishedAt rfl
      refine ⟨rfl, rfl, ?_⟩
      simp [result, ending, Store.dropAll_eq, Store.publish, Store.countSweep]
    unreported := by
      rintro fault rfl
      refine ⟨rfl, ?_, ?_⟩ <;> simp [result, ending, Store.dropAll_eq] }

/-- After a sweep every entry left has the store's ceiling. -/
theorem Settles.isCapped {wall : Except ClockFault WallTime} {evicted : Nat} {phase : Phase}
    {after : Cache} (settles : Settles cache now wall evicted phase after) (capped : cache.IsCapped) :
    after.IsCapped := by
  intro key entry there
  obtain ⟨id, maps, rfl⟩ := Option.map_eq_some_iff.mp there
  have before : cache.store.lookup key = some id := by
    by_cases spent : cache.HasSpent now key
    · rw [settles.dropped key spent] at maps
      cases maps
    · rwa [← settles.kept key spent]
  rw [settles.entries, settles.ceiling]
  exact capped key _ (by rw [Cache.stored?, before]; rfl)

/-- No key left by a sweep has an entry that has had its time. -/
theorem Settles.not_hasSpent {wall : Except ClockFault WallTime} {evicted : Nat} {phase : Phase}
    {after : Cache} (settles : Settles cache now wall evicted phase after) (key : String) :
    ¬ after.HasSpent now key := by
  rintro ⟨entry, there, spent⟩
  obtain ⟨id, maps, same⟩ := Option.map_eq_some_iff.mp there
  by_cases before : cache.HasSpent now key
  · rw [settles.dropped key before] at maps
    cases maps
  · refine before ⟨entry, ?_, by rwa [← settles.ceiling]⟩
    rw [Cache.stored?, ← settles.kept key before, maps, ← same, settles.entries]
    rfl

/-- A lone sweep does what it has to, and leaves keys in place. -/
theorem settles_starting (inPlace : cache.store.segments.InPlace) (capped : cache.IsCapped)
    (read : moment.monotonic = .ok now) :
    let result := procedure.undisturbed moment .starting cache
    let evicted := (cache.store.keys.filter (cache.condemns now)).length
    Settles cache now moment.wall evicted result.1 result.2.1 ∧
      result.2.1.store.segments.InPlace := by
  intro result evicted
  have whole : result = ending cache moment.wall cache.store.keys.length
      (cache.store.keys.filter (cache.condemns now)) := undisturbed_starting inPlace read
  rw [whole]
  refine ⟨settles_ending inPlace capped moment.wall, ?_⟩
  obtain ⟨-, segments, -⟩ := store_ending cache moment.wall cache.store.keys.length
    (cache.store.keys.filter (cache.condemns now))
  rw [segments]
  exact Store.inPlace_dropAll inPlace _

/-- A sweep drops nothing if no entry has had its time. -/
theorem gone_eq_nil (capped : cache.IsCapped) (unspent : ∀ key, ¬ cache.HasSpent now key) :
    cache.store.keys.filter (cache.condemns now) = [] := by
  refine List.filter_eq_nil_iff.mpr fun key _ condemned => unspent key ?_
  exact (capped.condemns_iff now key).mp condemned

/-- Caches with the same entries, however laid out and counted. -/
structure Relaid (cache other : Cache) : Prop where
  inPlace : other.store.segments.InPlace
  heap : other.heap = cache.heap
  lookup : ∀ key, other.store.lookup key = cache.store.lookup key
  ceiling : other.store.maxLockHold = cache.store.maxLockHold

namespace Relaid
variable {other : Cache}

theorem stored?_eq (relaid : Relaid cache other) (key : String) :
    other.stored? key = cache.stored? key := by
  rw [Cache.stored?, Cache.stored?, relaid.lookup, relaid.heap]

theorem isCapped (relaid : Relaid cache other) (capped : cache.IsCapped) : other.IsCapped := by
  intro key entry there
  rw [relaid.ceiling]
  exact capped key entry (relaid.stored?_eq key ▸ there)

theorem condemns_eq (relaid : Relaid cache other) (now : Instant) :
    other.condemns now = cache.condemns now := by
  funext key
  rw [Cache.condemns, Cache.condemns, relaid.stored?_eq]

/-- Both stores list the same keys, in whatever order. -/
theorem keys_perm (relaid : Relaid cache other) (inPlace : cache.store.segments.InPlace) :
    other.store.keys.Perm cache.store.keys := by
  refine (List.perm_ext_iff_of_nodup relaid.inPlace.nodup_keys inPlace.nodup_keys).mpr fun key => ?_
  rw [relaid.inPlace.mem_keys_iff_lookup, inPlace.mem_keys_iff_lookup]
  exact not_congr (by rw [← Store.lookup, relaid.lookup, Store.lookup])

/-- Sweeps that drop the same keys end in the same way. -/
theorem ending_eq (relaid : Relaid cache other) (wall : Except ClockFault WallTime)
    {listed : Nat} {gone others : List String} (same : others.Perm gone) :
    (ending other wall listed others).1 = (ending cache wall listed gone).1 ∧
      ∀ key, (ending other wall listed others).2.1.store.lookup key =
        (ending cache wall listed gone).2.1.store.lookup key := by
  rw [ending_perm same]
  refine ⟨?_, fun key => ?_⟩
  · unfold ending
    cases wall <;> rfl
  · rw [lookup_ending, lookup_ending, relaid.lookup]

end Relaid

/-- A lone sweep drops exactly what has had its time, in any order and layout, and a second one nothing. -/
theorem sweep_drops_spent (reachable : cache.Reachable) (moment : Moment) :
    let result := procedure.undisturbed moment .starting cache
    let after := result.2.1
    (∀ fault, moment.monotonic = .error fault → result = (.finished (.error fault), cache, [])) ∧
    ∀ now, moment.monotonic = .ok now → ∃ evicted,
      Settles cache now moment.wall evicted result.1 after ∧
      (∀ order : List String, order.Perm cache.store.keys →
        procedure.undisturbed moment (.visiting ⟨now, order.length, 0⟩ order) cache = result) ∧
      (∀ other, Relaid cache other →
        let elsewhere := procedure.undisturbed moment .starting other
        Settles other now moment.wall evicted elsewhere.1 elsewhere.2.1 ∧
          elsewhere.1 = result.1 ∧ Relaid after elsewhere.2.1) ∧
      (∀ later : Moment, later.monotonic = .ok now →
        let again := procedure.undisturbed later .starting after
        Settles after now later.wall 0 again.1 again.2.1 ∧ Relaid after again.2.1) ∧
      ∀ key entry, cache.stored? key = some entry → after.store.lookup key = none →
        ∀ caller tag, (entry.acquire caller (.ifStale tag) (.ok now)).1 ≠ .ok .fresh := by
  intro result after
  have inPlace := reachable.inPlace
  have capped := reachable.inOrder.isCapped
  refine ⟨fun fault unread => undisturbed_unread unread, fun now read => ?_⟩
  obtain ⟨settles, placed⟩ := settles_starting inPlace capped read
  refine ⟨_, settles, ?_, ?_, ?_, ?_⟩
  · intro order same
    have once : order.Nodup := same.nodup_iff.mpr inPlace.nodup_keys
    rw [undisturbed_visiting read once, ending_perm (same.filter _), same.length_eq]
    exact (undisturbed_starting inPlace read).symm
  · intro other relaid elsewhere
    have listed := relaid.keys_perm inPlace
    have gone := listed.filter (other.condemns now)
    rw [relaid.condemns_eq] at gone
    obtain ⟨there, kept⟩ := settles_starting relaid.inPlace (relaid.isCapped capped) read
    rw [relaid.condemns_eq, gone.length_eq] at there
    have first := undisturbed_starting relaid.inPlace read
    rw [listed.length_eq, relaid.condemns_eq] at first
    obtain ⟨phase, lookups⟩ := relaid.ending_eq moment.wall gone
    rw [← first, ← undisturbed_starting inPlace read] at phase lookups
    refine ⟨there, phase, kept, ?_, lookups, ?_⟩
    · rw [there.entries, relaid.heap, settles.entries]
    · rw [there.ceiling, relaid.ceiling, settles.ceiling]
  · intro later same again
    have nothing := gone_eq_nil (settles.isCapped capped) settles.not_hasSpent
    obtain ⟨still, kept⟩ := settles_starting placed (settles.isCapped capped) same
    rw [nothing] at still
    exact ⟨still, kept, still.entries, fun key => still.kept key (settles.not_hasSpent key),
      still.ceiling⟩
  · intro key entry there dropped caller tag
    have spent : cache.HasSpent now key := by
      by_contra unspent
      rw [settles.kept key unspent, ← Cache.stored?_eq_none_iff, there] at dropped
      cases dropped
    have condemned := (capped.condemns_iff now key).mpr spent
    rw [Cache.condemns, there] at condemned
    exact Entry.acquire_of_isDisposable condemned caller tag

/-- One entry has expired, one lock is too old, and one is fresh. -/
def mixed : List Move :=
  [.timed 0 (.begin (.lookup ⟨"j", none, ⟨5⟩⟩)), .timed 0 (.proceed 0),
    .timed 0 (.begin (.lookup ⟨"k", none, ⟨50⟩⟩)), .timed 0 (.proceed 1),
    .timed 0 (.acquire ⟨0⟩ ⟨1⟩ .forced), .timed 20 (.begin (.lookup ⟨"l", none, ⟨5⟩⟩)),
    .timed 20 (.proceed 2)]

/-- A sweep of the three drops two of them and tells so. -/
theorem sweep_drops_spent_of_mixed :
    let cache := ((Traffic.opened (fun _ => 0) 1 Nat.one_pos ⟨9⟩).run mixed).cache
    let result := procedure.undisturbed ⟨.ok ⟨21⟩, .ok ⟨7⟩⟩ .starting cache
    result.1 = .finished (.ok ⟨3, 2, ⟨7⟩, .zero⟩) ∧ result.2.1.store.lookup "j" = none ∧
      result.2.1.store.lookup "k" = none ∧ result.2.1.store.lookup "l" = some ⟨2⟩ := by
  intro cache result
  have reachable : cache.Reachable :=
    ⟨fun _ => 0, 1, Nat.one_pos, ⟨9⟩, by decide, mixed, rfl⟩
  have condemned : cache.condemns ⟨21⟩ "j" = true ∧ cache.condemns ⟨21⟩ "k" = true ∧
      cache.condemns ⟨21⟩ "l" = false := by decide +kernel
  have maps : cache.store.lookup "l" = some ⟨2⟩ := by decide +kernel
  have sizes : cache.store.size = 3 ∧ result.2.1.store.size = 1 := by decide +kernel
  clear_value cache
  have judged := reachable.inOrder.isCapped.condemns_iff ⟨21⟩
  obtain ⟨-, swept⟩ := sweep_drops_spent reachable ⟨.ok ⟨21⟩, .ok ⟨7⟩⟩
  obtain ⟨evicted, settles, -⟩ := swept ⟨21⟩ rfl
  have two : evicted = 2 := by
    have left := settles.size
    rw [sizes.1, sizes.2] at left
    omega
  obtain ⟨reported, -⟩ := settles.reported ⟨7⟩ rfl
  rw [sizes.1, two] at reported
  refine ⟨reported, settles.dropped _ ((judged "j").mp condemned.1),
    settles.dropped _ ((judged "k").mp condemned.2.1), ?_⟩
  rw [settles.kept "l" ((judged "l").not.mp (by simp [condemned.2.2])), maps]

end Sweep

end SingleFlight
