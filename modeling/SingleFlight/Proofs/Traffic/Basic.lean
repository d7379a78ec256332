import SingleFlight.Store.Lookup
import SingleFlight.Store.Removal
import SingleFlight.Store.Sweep

namespace SingleFlight

/-- A copy that its caller keeps: of what, with which tag and time to live. -/
structure Copying where
  source : EntryId
  tag : Option Tag
  ttl : Duration
  deriving DecidableEq, Repr

namespace Copying

/-- Where the making of a copy stands. -/
inductive Phase where
  | reading
  /-- Before the reading that becomes the update time of the copy. -/
  | stamping (content : Option String)
  | finished (outcome : Except ClockFault EntryId)
  deriving Repr

def step (copying : Copying) (phase : Phase) (moment : Moment) (cache : Cache) : Phase × Cache :=
  match phase with
  | .reading => (.stamping (cache.heap.get copying.source).content, cache)
  | .stamping content =>
    match moment.monotonic with
    | .error fault => (.finished (.error fault), cache)
    | .ok now =>
      let source := cache.heap.get copying.source
      let copy := Entry.seeded content copying.tag copying.ttl source.maxLockHold now
      (.finished (.ok cache.heap.next), { cache with heap := cache.heap.add copy })
  | .finished outcome => (.finished outcome, cache)

end Copying

/-- A call under way, at the phase that it has reached. -/
inductive Call where
  | lookup (asked : Lookup) (phase : Lookup.Phase)
  | sweep (phase : Sweep.Phase)
  | removal (phase : Removal.Phase)
  | copying (asked : Copying) (phase : Copying.Phase)

/-- What a call is asked to do. -/
inductive Task where
  | lookup (asked : Lookup)
  | sweep
  | removal (asked : Removal)
  | copying (asked : Copying)

/-- The call that begins a task on a store of some segments. -/
def Task.start (task : Task) (segments : Nat) : Call :=
  match task with
  | .lookup asked => .lookup asked .finding
  | .sweep => .sweep .starting
  | .removal asked => .removal (asked.start segments)
  | .copying asked => .copying asked .reading

namespace Call

/-- The next step of a call. -/
def step (call : Call) (moment : Moment) (cache : Cache) : Call × Cache :=
  match call with
  | .lookup asked phase =>
    let (next, cache, _) := asked.step phase moment cache
    (.lookup asked next, cache)
  | .sweep phase =>
    let (next, cache, _) := Sweep.step phase moment cache
    (.sweep next, cache)
  | .removal phase =>
    let (next, cache) := Removal.step phase cache
    (.removal next, cache)
  | .copying asked phase =>
    let (next, cache) := asked.step phase moment cache
    (.copying asked next, cache)

/-- The entry that a call has made and means to put in place. -/
def candidate? : Call → Option EntryId
  | .lookup _ (.swapping _ candidate) => some candidate
  | _ => none

/-- The entry that a call works on: found under its key, or copied. -/
def found? : Call → Option EntryId
  | .lookup _ (.timing found) | .lookup _ (.judging found _) | .lookup _ (.copying found)
  | .lookup _ (.stamping found _) | .lookup _ (.swapping found _) => some found
  | .sweep (.timing _ _ found _) | .sweep (.judging _ _ found _ _)
  | .sweep (.removing _ _ found _) => some found
  | .copying asked (.reading) | .copying asked (.stamping _) => some asked.source
  | _ => none

/-- The reading at which a call is about to judge its entry. -/
def reading? : Call → Option Instant
  | .lookup _ (.judging _ now) | .sweep (.judging _ _ _ now _) => some now
  | _ => none

end Call

-- A call may be overtaken between any two of its steps, by others and by its own caller. Looks at the store
-- that change nothing are no moves.

/-- What a thread can do in one atomic step. -/
inductive Action where
  | begin (task : Task)
  /-- The next step of the call of a number. -/
  | proceed (number : Nat)
  | acquire (caller : ThreadId) (entry : EntryId) (request : Request)
  | commit (caller : ThreadId) (entry : EntryId) (content : String) (tag : Option Tag)
  | release (caller : ThreadId) (entry : EntryId)
  | evict (key : String) (entry : EntryId)

/-- An action, and what the clock shows at it. -/
structure Move where
  action : Action
  moment : Moment

namespace Move

/-- An action at a time of a clock that can be read. -/
def timed (nanos : Nat) (action : Action) : Move := ⟨action, ⟨.ok ⟨nanos⟩, .ok ⟨0⟩⟩⟩

/-- The instant that a move can read. -/
def instant? (move : Move) : Option Instant := move.moment.monotonic.toOption

theorem instant?_of_read {move : Move} {now : Instant} (read : move.moment.monotonic = .ok now) :
    move.instant? = some now := by
  rw [instant?, read]
  rfl

/-- Whether a move is, or begins, an explicit removal. -/
def removes (move : Move) : Bool :=
  match move.action with
  | .begin (.removal _) | .evict _ _ => true
  | _ => false

end Move

/-- The clock of a run never goes backwards. -/
def Forward (moves : List Move) : Prop :=
  (moves.filterMap Move.instant?).Pairwise fun earlier later => earlier.nanos ≤ later.nanos

/-- A cache and the calls on it, oldest first. -/
structure Traffic where
  cache : Cache
  calls : List Call

namespace Traffic

/-- An empty store with no calls. -/
def opened (hash : String → Nat) (count : Nat) (positive : 0 < count) (ceiling : Duration) :
    Traffic where
  cache := {
    heap := .empty
    store := {
      segments := .empty hash count positive
      maxLockHold := ceiling
      created := 0
      replaced := 0
      evictions := 0
      lastSweep := none
      sweeps := 0 } }
  calls := []

/-- Whether a thread can have a handle of an entry. -/
def isShown (traffic : Traffic) (entry : EntryId) : Bool :=
  traffic.cache.heap.holds entry
    && !traffic.calls.any fun call => call.candidate? == some entry

/-- A lock operation on an entry of which there is a handle. -/
def onEntry (traffic : Traffic) (entry : EntryId) (change : Entry → Entry) : Traffic :=
  if traffic.isShown entry then
    { traffic with cache := traffic.cache.setEntry entry (change (traffic.cache.heap.get entry)) }
  else traffic

/-- Whether a task can be begun. -/
def admits (traffic : Traffic) : Task → Bool
  | .copying asked => traffic.isShown asked.source
  | .lookup _ | .sweep | .removal _ => true

/-- One move. -/
def take (traffic : Traffic) (move : Move) : Traffic :=
  match move.action with
  | .begin task =>
    if traffic.admits task then
      { traffic with
        calls := traffic.calls ++ [task.start traffic.cache.store.segments.count] }
    else traffic
  | .proceed number =>
    match traffic.calls[number]? with
    | none => traffic
    | some call =>
      let (next, cache) := call.step move.moment traffic.cache
      ⟨cache, traffic.calls.set number next⟩
  | .acquire caller entry request =>
    traffic.onEntry entry fun state => (state.acquire caller request move.moment.monotonic).2
  | .commit caller entry content tag =>
    traffic.onEntry entry fun state => (state.commit caller content tag move.moment.monotonic).2
  | .release caller entry => traffic.onEntry entry fun state => state.release caller
  | .evict key entry =>
    { traffic with cache.store := (traffic.cache.store.evict key entry).2 }

/-- Moves one after the other. -/
def run (traffic : Traffic) (moves : List Move) : Traffic := moves.foldl take traffic

@[simp] theorem run_nil (traffic : Traffic) : traffic.run [] = traffic := rfl

@[simp] theorem run_cons (traffic : Traffic) (move : Move) (rest : List Move) :
    traffic.run (move :: rest) = (traffic.take move).run rest := rfl

@[simp] theorem run_append (traffic : Traffic) (first rest : List Move) :
    traffic.run (first ++ rest) = (traffic.run first).run rest := List.foldl_append

/-- The entry that a key maps to. -/
def lookup (traffic : Traffic) (key : String) : Option EntryId := traffic.cache.store.lookup key

/-- The state of an entry. -/
def state (traffic : Traffic) (entry : EntryId) : Entry := traffic.cache.heap.get entry

/-- A move grants a lock to a thread that did not hold it. -/
def grants (traffic : Traffic) (move : Move) (thread : ThreadId) (entry : EntryId)
    (time : Instant) : Prop :=
  ∃ request, move.action = .acquire thread entry request ∧ move.moment.monotonic = .ok time ∧
    traffic.isShown entry = true ∧
    ((traffic.state entry).acquire thread request (.ok time)).1 = .ok .granted

/-- A move by which a thread commits a content, and which returns true. -/
def commits (traffic : Traffic) (move : Move) (entry : EntryId) (content : String) : Prop :=
  ∃ thread tag, move.action = .commit thread entry content tag ∧ traffic.isShown entry = true ∧
    ((traffic.state entry).commit thread content tag move.moment.monotonic).1 = .ok true

end Traffic

/-- A cache that any traffic can leave behind on an empty store. -/
def Cache.Reachable (cache : Cache) : Prop :=
  ∃ hash count, ∃ positive : 0 < count, ∃ ceiling ≠ Duration.zero, ∃ moves,
    cache = ((Traffic.opened hash count positive ceiling).run moves).cache

/-- A cache left by traffic that could always read its clock. -/
def Cache.Steady (cache : Cache) : Prop :=
  ∃ hash count, ∃ positive : 0 < count, ∃ ceiling ≠ Duration.zero, ∃ moves,
    (∀ move ∈ moves, Move.instant? move ≠ none) ∧
      cache = ((Traffic.opened hash count positive ceiling).run moves).cache

theorem Cache.Steady.reachable {cache : Cache} (steady : cache.Steady) : cache.Reachable := by
  obtain ⟨hash, count, positive, ceiling, nonzero, moves, -, same⟩ := steady
  exact ⟨hash, count, positive, ceiling, nonzero, moves, same⟩

/-- A store made from a configuration is empty, with a nonzero ceiling. -/
theorem Store.init_eq_opened {config : Config} {hash : String → Nat} {store : Store}
    (made : Store.init config hash = .ok store) :
    config.maxLockHold ≠ .zero ∧
      ∃ positive, store = (Traffic.opened hash config.segments positive config.maxLockHold).cache.store := by
  unfold Store.init at made
  split at made
  · cases made
  · next sound =>
      split at made
      · cases made
      · refine ⟨?_, Config.segments_pos sound, (Except.ok.inj made).symm⟩
        intro zero
        unfold Config.fault? at sound
        rw [if_pos zero] at sound
        repeat' split at sound
        all_goals cases sound

end SingleFlight
