import SingleFlight.Proofs.Crowd.Basic
import SingleFlight.Proofs.Traffic.Sound

namespace SingleFlight

/-- Whether a visitor has the lock. -/
def Fetch.Phase.isHolding : Fetch.Phase → Bool
  | .producing _ | .committing _ _ => true
  | _ => false

namespace Rush
variable (rush : Rush)

/-- The entry of a key as long as nobody has locked it. -/
inductive Initial (key : String) : Entry → Prop where
  | found {entry : Entry} (there : rush.start.stored? key = some entry) : Initial key entry
  | created {ttl : Duration} (absent : rush.start.stored? key = none) (lasting : ttl ≠ .zero) :
      Initial key (Entry.fresh rush.tag ttl rush.start.store.maxLockHold rush.now)

/-- What the entry of a key has come to. -/
inductive Stage (crowd : Crowd) (key : String) : Entry → Prop where
  | idle {entry : Entry} (initial : rush.Initial key entry)
      (unrendered : crowd.rendered.count key = 0) : Stage crowd key entry
  | held {entry : Entry} {fetch : Fetch} (initial : rush.Initial key entry)
      (lacks : rush.start.lacks key rush.tag rush.now = true) (inside : fetch ∈ rush.visitors)
      (asks : fetch.key = key) (holds : (crowd.phase fetch).isHolding = true) :
      Stage crowd key { entry with hold := some ⟨fetch.caller, rush.now⟩ }
  | done {entry : Entry} (lacks : rush.start.lacks key rush.tag rush.now = true)
      (asked : key ∈ rush.keys) (ends : rush.Ends key entry) (lasting : entry.ttl ≠ .zero)
      (rendered : crowd.rendered.count key = 1) : Stage crowd key entry

/-- A visitor that asks for the lock is refused. -/
def Refuses (entry : Entry) : Prop :=
  entry.isLocked = true ∨ entry.isStale rush.tag rush.now = false

/-- What a content is that a visitor may get from the cache. -/
def Offers (key text : String) : Prop :=
  text = rush.produce key ∨
    ∃ entry, rush.start.stored? key = some entry ∧ entry.content = some text

/-- What has come of the entry of a visitor's key. -/
def Stands (crowd : Crowd) (fetch : Fetch) : Fetch.Phase → Prop
  | .looking .finding => True
  | .looking (.timing entry) => crowd.lookup fetch.key = some entry
  | .looking (.judging entry now) => crowd.lookup fetch.key = some entry ∧ now = rush.now
  | .acquiring entry => crowd.lookup fetch.key = some entry
  | .waiting entry reader =>
    crowd.lookup fetch.key = some entry ∧ rush.Refuses (crowd.state entry) ∧
      match reader with
      | .arriving => True
      | .parked => (crowd.state entry).gateOpen = false
      | .notified => (crowd.state entry).gateOpen = true
      | .late | .returned _ => False
  | .producing entry =>
    crowd.lookup fetch.key = some entry ∧
      (crowd.state entry).hold = some ⟨fetch.caller, rush.now⟩ ∧
      crowd.rendered.count fetch.key = 0
  | .committing entry text =>
    crowd.lookup fetch.key = some entry ∧
      (crowd.state entry).hold = some ⟨fetch.caller, rush.now⟩ ∧
      crowd.rendered.count fetch.key = 1 ∧ text = rush.produce fetch.key
  | .finished (.fetched (.produced text)) =>
    text = rush.produce fetch.key ∧
      ∃ entry, crowd.lookup fetch.key = some entry ∧ rush.Refuses (crowd.state entry) ∧
        (crowd.state entry).gateOpen = true
  | .finished (.fetched (.cached text)) =>
    rush.Offers fetch.key text ∧
      ∃ entry, crowd.lookup fetch.key = some entry ∧ rush.Refuses (crowd.state entry) ∧
        (crowd.state entry).gateOpen = true
  | _ => False

/-- The keys that were missing and are there now. -/
def added (store : Store) : Finset String := rush.missing.filter fun key => store.lookup key ≠ none

/-- What a rush does to the store besides its map. -/
structure Books (store : Store) : Prop where
  ceiling : store.maxLockHold = rush.start.store.maxLockHold
  created : store.created = rush.start.store.created + (rush.added store).card
  size : store.size = rush.start.store.size + (rush.added store).card
  replaced : store.replaced = rush.start.store.replaced
  evictions : store.evictions = rush.start.store.evictions
  sweeps : store.sweeps = rush.start.store.sweeps
  lastSweep : store.lastSweep = rush.start.store.lastSweep

/-- What holds of a crowd after every turn. -/
structure Fits (crowd : Crowd) : Prop where
  known : ∀ key entry, crowd.lookup key = some entry → crowd.cache.heap.holds entry = true
  injective : ∀ key other entry, crowd.lookup key = some entry →
    crowd.lookup other = some entry → key = other
  absent : ∀ key, crowd.lookup key = none →
    rush.start.store.lookup key = none ∧ crowd.rendered.count key = 0
  fetched : ∀ key entry, crowd.lookup key = some entry →
    rush.start.store.lookup key = none → key ∈ rush.keys
  stages : ∀ key entry, crowd.lookup key = some entry →
    rush.Stage crowd key (crowd.state entry)
  stands : ∀ fetch ∈ rush.visitors, rush.Stands crowd fetch (crowd.phase fetch)
  books : rush.Books crowd.cache.store

variable {rush} {crowd : Crowd} {key : String} {entry : Entry}

/-- A thread visits once. -/
theorem eq_of_caller_eq {one other : Fetch} (first : one ∈ rush.visitors)
    (second : other ∈ rush.visitors) (same : one.caller = other.caller) : one = other :=
  List.inj_on_of_nodup_map rush.distinct first second same

theorem key_mem_keys {fetch : Fetch} (inside : fetch ∈ rush.visitors) : fetch.key ∈ rush.keys := by
  simpa [keys] using ⟨fetch, inside, rfl⟩

namespace Initial

theorem unlocked (initial : rush.Initial key entry) : entry.hold = none := by
  cases initial with
  | found there => exact rush.unlocked key entry there
  | created => rfl

theorem lasting (initial : rush.Initial key entry) : entry.ttl ≠ .zero := by
  cases initial with
  | found there => exact rush.lasting key entry there
  | created _ lasting => exact lasting

theorem bounded (initial : rush.Initial key entry) : entry.maxLockHold ≠ .zero := by
  have order := rush.reachable.inOrder
  cases initial with
  | found there =>
      obtain ⟨id, maps, rfl⟩ := Option.map_eq_some_iff.mp there
      rw [order.ceiling key id maps]
      exact order.bounded
  | created => exact order.bounded

/-- Whether the content is lacking does not change before it is made. -/
theorem isStale_eq (initial : rush.Initial key entry) :
    entry.isStale rush.tag rush.now = rush.start.lacks key rush.tag rush.now := by
  cases initial with
  | found there => simp [Cache.lacks, there]
  | created absent => simp [Cache.lacks, absent, Entry.isStale, Entry.fresh, Entry.seeded]

/-- Behind a gate that is open at the start stands the content of the start. -/
theorem serves (initial : rush.Initial key entry) (isOpen : entry.gateOpen = true) :
    ∃ text, entry.content = some text ∧ rush.Offers key text := by
  cases initial with
  | found there =>
      have present : entry.content ≠ none := by
        obtain ⟨id, -, rfl⟩ := Option.map_eq_some_iff.mp there
        exact rush.reachable.inOrder.served id isOpen
      obtain ⟨text, content⟩ := Option.ne_none_iff_exists'.mp present
      exact ⟨text, content, .inr ⟨entry, there, content⟩⟩
  | created => cases isOpen

end Initial

/-- A content that was just made is not stale. -/
theorem isStale_of_ends (lacks : rush.start.lacks key rush.tag rush.now = true)
    (ends : rush.Ends key entry) (lasting : entry.ttl ≠ .zero) :
    entry.isStale rush.tag rush.now = false := by
  obtain ⟨-, made⟩ := ends
  rw [if_pos lacks] at made
  obtain ⟨content, tag, updated, -⟩ := made
  have positive := (Duration.nanos_pos lasting).ne'
  simp [Entry.isStale, Entry.isExpired, Entry.isOutdated, content, tag, updated, Instant.since,
    Duration.le_iff, positive]

namespace Stage

/-- No lock of a rush is abandoned while it lasts. -/
theorem not_isAbandoned (stage : rush.Stage crowd key entry) :
    entry.isAbandoned rush.now = false := by
  cases stage with
  | idle initial => simp [Entry.isAbandoned, initial.unlocked]
  | @held base fetch initial =>
      have positive := (Duration.nanos_pos initial.bounded).ne'
      simp [Entry.isAbandoned, Instant.since, Duration.le_iff, positive]
  | done _ _ ends => simp [Entry.isAbandoned, ends.1]

/-- Behind an open gate there is a content that the visitors may get. -/
theorem serves (stage : rush.Stage crowd key entry) (isOpen : entry.gateOpen = true) :
    ∃ text, entry.content = some text ∧ rush.Offers key text := by
  cases stage with
  | idle initial => exact initial.serves isOpen
  | held initial => exact initial.serves isOpen
  | done lacks _ ends =>
      obtain ⟨-, made⟩ := ends
      rw [if_pos lacks] at made
      exact ⟨_, made.1, .inl rfl⟩

/-- The lock is granted on an idle entry whose content is lacking. -/
theorem of_grant (stage : rush.Stage crowd key entry) (unlocked : entry.hold = none)
    (stale : entry.isStale rush.tag rush.now = true) :
    rush.Initial key entry ∧ rush.start.lacks key rush.tag rush.now = true ∧
      crowd.rendered.count key = 0 := by
  cases stage with
  | idle initial unrendered => exact ⟨initial, initial.isStale_eq ▸ stale, unrendered⟩
  | held => cases unlocked
  | done lacks _ ends lasting =>
      rw [isStale_of_ends lacks ends lasting] at stale
      cases stale

/-- A visitor that has the lock holds it for its key, and is making the content. -/
theorem of_hold (stage : rush.Stage crowd key entry) {fetch : Fetch}
    (inside : fetch ∈ rush.visitors) {since : Instant}
    (held : entry.hold = some ⟨fetch.caller, since⟩) :
    fetch.key = key ∧ (crowd.phase fetch).isHolding = true ∧
      rush.start.lacks key rush.tag rush.now = true ∧
      ∃ base, rush.Initial key base ∧ entry = { base with hold := some ⟨fetch.caller, rush.now⟩ } := by
  cases stage with
  | idle initial => rw [initial.unlocked] at held; cases held
  | @held base holder initial lacks visits asks holds =>
      have same : holder.caller = fetch.caller := congrArg Hold.owner (Option.some.inj held)
      obtain rfl := eq_of_caller_eq visits inside same
      exact ⟨asks, holds, lacks, base, initial, rfl⟩
  | done _ _ ends => rw [ends.1] at held; cases held

end Stage

end Rush

end SingleFlight
