import SingleFlight.Gate
import SingleFlight.Scenario.Calls.Stores

namespace SingleFlight.Scenario.Calls

/-- Asks for the lock of an entry. -/
def acquire (context : Context) (entry : EntryId) (request : Request) :
    Flow (Except ClockFault Acquisition) := do
  let reading ←
    if ((← get).heap.get entry).acquireReads then context.watch
    else pure (.error .instantBeyondPlatform)
  let state ← get
  let (outcome, next) :=
    (state.heap.get entry).acquire (state.idOf context.thread) request reading
  set { state with heap := state.heap.set entry next }
  match outcome with
  | .ok outcome => log [.acquisition request outcome]
  | .error _ => pure ()
  return outcome

/-- The reading for a commit, if the commit makes one. -/
def commitReading (context : Context) (entry : EntryId) : Flow Reading := do
  let state ← get
  if (state.heap.get entry).commitReads (state.idOf context.thread) then context.watch
  else return .error .instantBeyondPlatform

/-- Waits for a gate; tells whether it is open in the end. -/
def awaitGate (entry : EntryId) (timeout : Duration) : Flow Bool := do
  let isOpen (state : State) : Bool := (state.heap.get entry).gateOpen
  Flow.await isOpen ((← get).realTime.after? timeout)
  return isOpen (← get)

/-- Reads the content of an entry, if need be after a wait. -/
def content (entry : EntryId) (timeout : Duration) : Flow Answer := do
  let first := Reader.arriving.look timeout ((← get).heap.get entry)
  let last ← if first.isParked then
      let isOpen ← awaitGate entry timeout
      let woken := if isOpen then first.notify else first.expire
      pure (woken.look timeout ((← get).heap.get entry))
    else pure first
  match last with
  | .returned result => return .content result
  | _ => return .nothing

/-- Runs a call on an entry that has a handle. -/
def onHandle (name : String) (call : Handle → Flow Answer) : Flow Answer := do
  match (← get).handles.lookup name with
  | some handle => call handle
  | none => return .refused .noHandle

/-- Refuses a handle that shows no entry. -/
def onEntry (handle : Handle) (call : EntryId → Flow Answer) : Flow Answer :=
  if handle.erased then return .refused .notAnEntry else call handle.entry

/-- What one thread sees of an entry. -/
def infoOf (state : State) (thread : String) (entry : Entry) : EntryInfo where
  ttl := entry.ttl
  maxLockHold := entry.maxLockHold
  tag := entry.tag
  content := entry.content
  locked := entry.isLocked
  held := entry.isHeldBy (state.idOf thread)
  initialized := entry.gateOpen
  updated := state.shown entry.updated

/-- Carries out a call on an entry that has a handle. -/
def entry (context : Context) (name : String) (call : EntryCall) : Flow Answer :=
  onHandle name fun handle =>
  match call with
  | .acquire request => do
    let outcome ← acquire context handle.entry request
    return .ofResult (fun outcome => .flag outcome.held) outcome
  | .commit content tag => do
    let reading ← commitReading context handle.entry
    let state ← get
    let (outcome, next) :=
      (state.heap.get handle.entry).commit (state.idOf context.thread) content tag reading
    set { state with heap := state.heap.set handle.entry next }
    return .ofResult .flag outcome
  | .release => do
    modify fun state =>
      let next := (state.heap.get handle.entry).release (state.idOf context.thread)
      { state with heap := state.heap.set handle.entry next }
    return .nothing
  | .isAbandoned => do
    let reading ← context.watch
    return .ofResult .flag (((← get).heap.get handle.entry).tellAbandoned reading)
  | .isDisposable => onEntry handle fun id => do
    let reading ← context.watch
    return .ofResult .flag (((← get).heap.get id).tellDisposable reading)
  | .content timeout => content handle.entry timeout
  | .copy tag ttl copyName => onEntry handle fun id => do
    let source := (← get).heap.get id
    match source.copyAt tag ttl (← context.watch) with
    | .error fault => return .panic fault.message
    | .ok copy =>
      let made ← modifyGet fun state =>
        (state.heap.next, { state with heap := state.heap.add copy })
      answerEntry made copyName false
  | .describe => return .text ((← get).heap.get handle.entry).describe
  | .same other => onHandle other fun second => return .flag (handle.entry = second.entry)
  | .info => onEntry handle fun id => do
    let state ← get
    return .info (infoOf state context.thread (state.heap.get id))

end SingleFlight.Scenario.Calls
