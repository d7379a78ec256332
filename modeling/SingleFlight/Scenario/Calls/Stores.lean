import SingleFlight.Scenario.Background
import SingleFlight.Scenario.Plan
import SingleFlight.Store.Removal

namespace SingleFlight.Scenario.Calls

/-- Reports events to the log. -/
def log (events : List Event) : Act Unit := modify (·.report events)

/-- Runs a call on a store that is named. -/
def onStore (name : String) (call : StoreRef → Slot → Flow Answer) : Flow Answer := do
  let state ← get
  match state.stores.lookup name with
  | some ref =>
    match state.slot? ref with
    | some slot => Flow.holding (.store ref) (call ref slot)
    | none => return .refused .noStore
  | none => return .refused .noStore

/-- Answers an entry by its number, and names it if wanted. -/
def answerEntry (entry : EntryId) (name : Option String) (erased : Bool) : Act Answer := do
  let number ← modifyGet (State.number · entry)
  match name with
  | some name => modify fun state =>
      { state with handles := State.rename state.handles name ⟨entry, erased⟩ }
  | none => pure ()
  return .entry number

/-- Runs a procedure on a store, with the readings of a step. -/
def runOn {Phase : Type} (context : Context) (ref : StoreRef) (slot : Slot)
    (procedure : Procedure Phase) (phase : Phase) : Flow Phase :=
  procedure.runIn (State.host slot ref context.watch) phase

/-- Sweeps a store now. -/
def sweep (context : Context) (ref : StoreRef) (slot : Slot) :
    Flow (Except ClockFault SweepReport) := do
  match ← runOn context ref slot Sweep.procedure .starting with
  | .finished outcome => return outcome
  | _ => return .error .instantBeyondPlatform

/-- Removes a key or everything from a store; gives the number of entries removed. -/
def remove (ref : StoreRef) (slot : Slot) (removal : Removal) : Act Nat := do
  let phase ← Removal.procedure.runIn (State.host slot ref State.readPlainly)
    (removal.start slot.store.segments.count)
  return phase.removed

/-- Goes on with a call on the schedule of a store. -/
def order (ref : StoreRef) (call : ScheduleCall) (phase : ScheduleCall.Phase) :
    Act ScheduleCall.Phase := modifyGet (·.order ref call phase)

/-- Begins a call on the schedule of a store, once it can go on. -/
def enter (ref : StoreRef) (call : ScheduleCall) : Flow ScheduleCall.Phase := do
  Flow.await (fun state => !call.isBlocked (state.schedule ref)) none
  order ref call .asking

/-- Stops the sweeps of a store and empties it. -/
def destroy (ref : StoreRef) (slot : Slot) : Flow Unit := do
  let _ ← enter ref .destroy
  let removed ← remove ref slot .all
  log [.destroyed removed]

/-- The first sweep of a call on the schedule, if it makes one. -/
def sweepFirst (context : Context) (ref : StoreRef) (slot : Slot) (phase : ScheduleCall.Phase) :
    Flow ScheduleCall.Phase := do
  match phase with
  | .sweeping =>
    let swept ← sweep context ref slot
    modifyGet fun state =>
      let (next, schedule) :=
        ScheduleCall.afterSweep (swept.map fun _ => ()) phase (state.schedule ref)
      (next, state.setSchedule ref schedule)
  | _ => return phase

/-- Starts the loop of a call on the schedule, which goes into its wait. -/
def launch (ref : StoreRef) (call : ScheduleCall) (phase : ScheduleCall.Phase) :
    Act ScheduleCall.Phase := modifyGet fun state =>
  let (next, schedule, events) := call.afterLaunch (.ok ()) phase (state.schedule ref)
  let started := match next with
    | .keeping task => schedule.change task.loop fun loop => loop.settle state.realTime
    | _ => schedule
  (next, (state.setSchedule ref started).report events)

/-- Sweeps a store every interval from now on, in place of an older schedule. -/
def schedule (context : Context) (ref : StoreRef) (slot : Slot) (interval : Duration)
    (runNow : Bool) : Flow Answer := do
  let call : ScheduleCall := .start interval runNow
  let swept ← sweepFirst context ref slot (← enter ref call)
  match ← order ref call (← launch ref call swept) with
  | .finished .done => return .flag true
  | .finished (.refused (.config error)) => return .configRefused error
  | .finished (.crashed fault) => return .panic fault.message
  | _ => return .nothing

/-- The schedule of a store, once no call has its mutex. -/
def readSchedule (ref : StoreRef) : Flow Schedule := do
  Flow.await (fun state => !(state.schedule ref).locked) none
  return (← get).schedule ref

/-- A sweep report as it is answered. -/
def shownReport (state : State) (report : SweepReport) : ShownReport where
  scanned := report.scanned
  evicted := report.evicted
  finishedAt := state.shownWall report.finishedAt
  duration := state.shownDuration report.duration

/-- A snapshot as it is answered. -/
def shownStatistics (state : State) (statistics : Statistics) : ShownStatistics where
  statistics := statistics
  observedAt := state.shownWall statistics.observedAt
  lastSweep := statistics.lastSweep.map (shownReport state)

/-- Whether the value of a metric depends on when the scenario runs. -/
def isTimed (kind : ClockKind) (name : String) : Bool :=
  match kind with
  | .driven => name.endsWith "_at_ms"
  | .ticking => false
  | .system => name.endsWith "_ms"

/-- The text of a store with its schedule. -/
def describeStore (store : Store) (schedule : Schedule) : String :=
  Text.record "FragmentStore"
    [("segment_count", toString store.segments.count),
      ("total_len", toString store.size),
      ("max_lock_hold", store.maxLockHold.text),
      ("reclaimer", Text.optional ReclaimerTask.describe schedule.task)]

/-- The real time between two looks of a thread that waits for a store. -/
def lookInterval : Duration := ⟨1000000⟩

/-- The looks after which a wait for a store is given up. -/
def lookLimit : Nat := 100000

/-- Looks at a store again and again until it is in a condition. -/
def awaitStore (ref : StoreRef) (slot : Slot) (holds : Store → Bool) : Nat → Flow Answer
  | 0 => return .flag false
  | looks + 1 => do
    let state ← get
    if holds ((state.slot? ref).getD slot).store then return .flag true
    else
      Flow.await (fun _ => false) (state.realTime.after? lookInterval)
      awaitStore ref slot holds looks

/-- Carries out a call on a store that is alive. -/
def storeCall (context : Context) (erased : Bool) (ref : StoreRef) (slot : Slot) :
    StoreCall → Flow Answer
  | .getOrCreate key condition ttl handle => do
    let lookup : Lookup := ⟨key, Tag.normalized condition, ttl⟩
    match ← runOn context ref slot lookup.procedure .finding with
    | .finished (.ok entry) => answerEntry entry handle erased
    | .finished (.error fault) => return .panic fault.message
    | _ => return .nothing
  | .get key handle =>
    match slot.store.lookup key with
    | some entry => answerEntry entry handle erased
    | none => return .nothing
  | .contains key => return .flag (slot.store.contains key)
  | .remove key => return .flag ((← remove ref slot (.key key)) != 0)
  | .size => return .count slot.store.size
  | .isEmpty => return .flag slot.store.isEmpty
  | .clear => return .count (← remove ref slot .all)
  | .destroy => do
    destroy ref slot
    return .nothing
  | .keys => return .texts (slot.store.keys.mergeSort fun a b => a ≤ b)
  | .evict key handle => do
    match (← get).handles.lookup handle with
    | none => return .refused .noHandle
    | some ⟨_, true⟩ => return .refused .notAnEntry
    | some ⟨entry, false⟩ =>
      let (evicted, store) := slot.store.evict key entry
      modify fun state =>
        { state with slots := state.slots.modify ref fun old => { old with store } }
      return .flag evicted
  | .segmentCount => return .count slot.store.segments.count
  | .maxLockHold => return .duration (some slot.store.maxLockHold)
  | .strategyName => return .text "fragment"
  | .describe => return .text (describeStore slot.store (← readSchedule ref))
  | .reclaimerInterval => return .duration (← readSchedule ref).interval?
  | .now => do
    let reading ← context.watch
    let state ← get
    return .ofResult (fun now => .duration (state.shown now)) reading
  | .sweep => do
    let outcome ← sweep context ref slot
    let state ← get
    return .ofResult (fun report => .report (shownReport state report)) outcome
  | .statistics => do
    let reading ← modifyGet (State.onTimer Timer.wall)
    let state ← get
    return .ofResult (fun wall => .statistics (shownStatistics state (slot.store.statistics wall)))
      reading
  | .metrics => do
    let reading ← modifyGet (State.onTimer Timer.wall)
    let state ← get
    let shown (wall : WallTime) : Answer := .metrics ((slot.store.statistics wall).metrics.map
      fun metric => (metric.1, if isTimed state.timer.kind metric.1 then none else some metric.2))
    return .ofResult shown reading
  | .schedule interval runNow => schedule context ref slot interval runNow
  | .awaitGone key => awaitStore ref slot (fun store => !store.contains key) lookLimit
  | .awaitSweeps count => awaitStore ref slot (fun store => count ≤ store.sweeps) lookLimit

/-- Carries out a call on a store that is named. -/
def store (context : Context) (name : String) (erased : Bool) (call : StoreCall) : Flow Answer :=
  onStore name fun ref slot => storeCall context erased ref slot call

/-- Makes a store under a name, with the reclaimer that its configuration asks for. -/
def newStore (context : Context) (name : String) (settings : List Config.Setting) :
    Flow Answer := do
  let state ← get
  let base := { Config.standard 4 with initialCapacity := 64, sweepInterval := none }
  let config := settings.foldl Config.apply base
  match Store.init config state.hash with
  | .error (.config error) => return .configRefused error
  | .error (.capacity fault) => return .panic fault.message
  | .ok store =>
    let ref := state.slots.size
    let slot : Slot := ⟨store, .empty⟩
    set { state with
      slots := state.slots.push slot
      stores := State.rename state.stores name ref }
    match config.sweepInterval with
    | some interval => schedule context ref slot interval false
    | none => return .flag true

/-- Takes the name of a store away. -/
def dropStore (name : String) : Act Answer := do
  let state ← get
  set { state with stores := state.stores.filter fun slot => slot.1 != name }
  return .flag (state.stores.lookup name).isSome

end SingleFlight.Scenario.Calls
