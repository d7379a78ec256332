import SingleFlight.Store.Procedure

namespace SingleFlight.Sweep

/-- What a sweep has found so far. -/
structure Progress where
  started : Instant
  scanned : Nat
  evicted : Nat
  deriving DecidableEq, Repr

/-- Where a sweep stands; `rest` are the listed keys still to come. -/
inductive Phase where
  /-- Before the reading that the duration counts from. -/
  | starting
  | listing (started : Instant)
  | visiting (progress : Progress) (keys : List String)
  /-- Before the reading at which the found entry is judged. -/
  | timing (progress : Progress) (key : String) (found : EntryId) (rest : List String)
  | judging (progress : Progress) (key : String) (found : EntryId) (now : Instant)
    (rest : List String)
  | removing (progress : Progress) (key : String) (found : EntryId) (rest : List String)
  /-- Before the look at the wall time. -/
  | stamping (progress : Progress)
  /-- Before the reading that the duration counts to. -/
  | closing (progress : Progress) (finishedAt : WallTime)
  | publishing (report : SweepReport)
  | counting (report : SweepReport)
  | finished (outcome : Except ClockFault SweepReport)
  deriving Repr

def clockUse (phase : Phase) : ClockUse :=
  match phase with
  | .starting | .timing _ _ _ _ | .closing _ _ => .monotonic
  | .stamping _ => .wall
  | .listing _ | .visiting _ _ | .judging _ _ _ _ _ | .removing _ _ _ _ | .publishing _
  | .counting _ | .finished _ => .unused

/-- Goes on with the instant that was read, or ends with the fault. -/
def withReading (reading : Reading) (next : Instant → Phase) : Phase :=
  match reading with
  | .ok now => next now
  | .error fault => .finished (.error fault)

/-- The report of a sweep that ends now. -/
def Progress.report (progress : Progress) (finishedAt : WallTime) (now : Instant) :
    SweepReport where
  scanned := progress.scanned
  evicted := progress.evicted
  finishedAt := finishedAt
  duration := now.since progress.started

/-- The progress after a removal was tried. -/
def Progress.count (progress : Progress) (removed : Bool) : Progress :=
  if removed then { progress with evicted := progress.evicted + 1 } else progress

def step (phase : Phase) (moment : Moment) (cache : Cache) : Phase × Cache × List Event :=
  match phase with
  | .starting => (withReading moment.monotonic .listing, cache, [])
  | .listing started =>
    let keys := cache.store.keys
    (.visiting ⟨started, keys.length, 0⟩ keys, cache, [])
  | .visiting progress [] => (.stamping progress, cache, [])
  | .visiting progress (key :: rest) =>
    match cache.store.lookup key with
    | some found => (.timing progress key found rest, cache, [])
    | none => (.visiting progress rest, cache, [])
  | .timing progress key found rest =>
    (withReading moment.monotonic fun now => .judging progress key found now rest, cache, [])
  | .judging progress key found now rest =>
    if (cache.heap.get found).isDisposable now then
      (.removing progress key found rest, cache, [])
    else (.visiting progress rest, cache, [])
  | .removing progress key found rest =>
    -- The removal compares identities alone: the state was looked at before.
    let (removed, store) := cache.store.evict key found
    (.visiting (progress.count removed) rest, { cache with store }, [])
  | .stamping progress =>
    match moment.wall with
    | .ok finishedAt => (.closing progress finishedAt, cache, [])
    | .error fault => (.finished (.error fault), cache, [])
  | .closing progress finishedAt =>
    (withReading moment.monotonic fun now => .publishing (progress.report finishedAt now),
      cache, [])
  | .publishing report => (.counting report, { cache with store := cache.store.publish report }, [])
  | .counting report =>
    (.finished (.ok report), { cache with store := cache.store.countSweep },
      [.swept report.scanned report.evicted report.duration])
  | .finished outcome => (.finished outcome, cache, [])

/-- The most steps that it takes to visit keys and to end. -/
def remainingFor (keys : List String) : Nat := 4 * keys.length + 5

/-- The first leg ends with the list of the keys. -/
def remaining : Phase → Nat
  | .starting => 2
  | .listing _ => 1
  | .visiting _ keys => remainingFor keys
  | .timing _ _ _ rest => remainingFor rest + 3
  | .judging _ _ _ _ rest => remainingFor rest + 2
  | .removing _ _ _ rest => remainingFor rest + 1
  | .stamping _ => 4
  | .closing _ _ => 3
  | .publishing _ => 2
  | .counting _ => 1
  | .finished _ => 0

/-- A sweep as a procedure; it starts at `starting`. -/
def procedure : Procedure Phase := ⟨fun phase _ => clockUse phase, step, remaining⟩

/-- Whether a phase comes after the list of the keys. -/
def Phase.listed : Phase → Bool
  | .starting | .listing _ => false
  | _ => true

/-- Each step of the second leg brings a sweep nearer to its end. -/
theorem remaining_step (phase : Phase) (moment : Moment) (cache : Cache)
    (listed : phase.listed = true) (running : remaining phase ≠ 0) :
    remaining (step phase moment cache).1 < remaining phase := by
  cases phase with
  | starting => simp [Phase.listed] at listed
  | listing started => simp [Phase.listed] at listed
  | visiting progress keys =>
    cases keys with
    | nil => simp [step, remaining, remainingFor]
    | cons key rest =>
      simp only [step]
      split <;> simp only [remaining, remainingFor, List.length_cons] <;> omega
  | timing progress key found rest =>
    simp only [step, withReading]
    split <;> simp [remaining]
  | judging progress key found now rest =>
    simp only [step]
    split <;> simp [remaining]
  | removing progress key found rest => simp [step, remaining]
  | stamping progress => simp only [step]; split <;> simp [remaining]
  | closing progress finishedAt => simp only [step, withReading]; split <;> simp [remaining]
  | publishing report => simp [step, remaining]
  | counting report => simp [step, remaining]
  | finished outcome => simp [remaining] at running

end SingleFlight.Sweep
