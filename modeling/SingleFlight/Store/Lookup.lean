import SingleFlight.Store.Procedure

namespace SingleFlight

/-- A key to get, and what an entry made for it is to carry. -/
structure Lookup where
  key : String
  tag : Option Tag
  ttl : Duration
  deriving DecidableEq, Repr

namespace Lookup

/-- Where a lookup stands. -/
inductive Phase where
  /-- Before the look into the segment. -/
  | finding
  /-- Before the reading at which the lock of the found entry is judged. -/
  | timing (found : EntryId)
  /-- Before the test of the lock. -/
  | judging (found : EntryId) (now : Instant)
  /-- Before the content is copied out of the abandoned entry. -/
  | copying (found : EntryId)
  /-- Before the reading that becomes the update time of the copy. -/
  | stamping (found : EntryId) (content : Option String)
  /-- Before the copy is put in place of the abandoned entry. -/
  | swapping (found candidate : EntryId)
  | finished (outcome : Except ClockFault EntryId)
  deriving Repr

def clockUse (lookup : Lookup) (phase : Phase) (cache : Cache) : ClockUse :=
  match phase with
  | .finding => if cache.store.contains lookup.key then .unused else .monotonic
  | .timing _ | .stamping _ _ => .monotonic
  | .judging _ _ | .copying _ | .swapping _ _ | .finished _ => .unused

/-- Takes the entry of the key, or makes one at the time read. -/
def find (lookup : Lookup) (reading : Reading) (cache : Cache) : Phase × Cache × List Event :=
  match cache.store.lookup lookup.key with
  | some found => (.timing found, cache, [])
  | none =>
    match reading with
    | .error fault => (.finished (.error fault), cache, [])
    | .ok now =>
      let id := cache.heap.next
      let made := Entry.fresh lookup.tag lookup.ttl cache.store.maxLockHold now
      (.finished (.ok id), ⟨cache.heap.add made, cache.store.create lookup.key id⟩,
        [.created lookup.key])

-- The lock, the content and the place are looked at in critical sections of their own, so each may
-- have changed by the next. The swap looks at the place alone.

/-- Puts the copy in, unless another entry has taken the place. -/
def swap (lookup : Lookup) (found candidate : EntryId) (cache : Cache) :
    Phase × Cache × List Event :=
  let place :=
    (.finished (.ok candidate), { cache with store := cache.store.replace lookup.key candidate },
      [.replaced lookup.key cache.store.maxLockHold])
  match cache.store.lookup lookup.key with
  | some current => if current = found then place else (.finished (.ok current), cache, [])
  | none => place

def step (lookup : Lookup) (phase : Phase) (moment : Moment) (cache : Cache) :
    Phase × Cache × List Event :=
  match phase with
  | .finding => lookup.find moment.monotonic cache
  | .timing found =>
    match moment.monotonic with
    | .error fault => (.finished (.error fault), cache, [])
    | .ok now => (.judging found now, cache, [])
  | .judging found now =>
    if (cache.heap.get found).isAbandoned now then (.copying found, cache, [])
    else (.finished (.ok found), cache, [])
  | .copying found => (.stamping found (cache.heap.get found).content, cache, [])
  | .stamping found content =>
    match moment.monotonic with
    | .error fault => (.finished (.error fault), cache, [])
    | .ok now =>
      let copy := Entry.seeded content lookup.tag lookup.ttl (cache.heap.get found).maxLockHold now
      (.swapping found cache.heap.next, { cache with heap := cache.heap.add copy }, [])
  | .swapping found candidate => lookup.swap found candidate cache
  | .finished outcome => (.finished outcome, cache, [])

def remaining : Phase → Nat
  | .finding => 6
  | .timing _ => 5
  | .judging _ _ => 4
  | .copying _ => 3
  | .stamping _ _ => 2
  | .swapping _ _ => 1
  | .finished _ => 0

/-- The lookup as a procedure; it starts at `finding`. -/
def procedure (lookup : Lookup) : Procedure Phase := ⟨lookup.clockUse, lookup.step, remaining⟩

/-- Each step brings a lookup nearer to its end. -/
theorem remaining_step (lookup : Lookup) (phase : Phase) (moment : Moment) (cache : Cache)
    (running : remaining phase ≠ 0) :
    remaining (lookup.step phase moment cache).1 < remaining phase := by
  cases phase with
  | finding =>
    simp only [step, find]
    split
    · simp [remaining]
    · split <;> simp [remaining]
  | timing found => simp only [step]; split <;> simp [remaining]
  | judging found now => simp only [step]; split <;> simp [remaining]
  | copying found => simp [step, remaining]
  | stamping found content => simp only [step]; split <;> simp [remaining]
  | swapping found candidate =>
    simp only [step, swap]
    split
    · split <;> simp [remaining]
    · simp [remaining]
  | finished outcome => simp [remaining] at running

end Lookup

end SingleFlight
