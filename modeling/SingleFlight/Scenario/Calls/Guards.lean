import SingleFlight.Guard
import SingleFlight.Scenario.Calls.Entries

namespace SingleFlight.Scenario.Calls

/-- Looks at a guard of a thread, if there is one of that name. -/
def withGuard (context : Context) (name : String) (call : Guard → Flow Answer) : Flow Answer := do
  match ((← get).worker? context.thread).bind (·.guards.lookup name) with
  | none => return .refused .noGuard
  | some guard => call guard

/-- Takes a guard away from a thread, if there is one of that name. -/
def takingGuard (context : Context) (name : String) (call : Guard → Flow Answer) : Flow Answer :=
  withGuard context name fun guard => do
    modify (·.modifyWorker context.thread fun worker =>
      { worker with guards := worker.guards.filter fun slot => slot.1 != name })
    call guard

/-- Gives the lock of a guard back. -/
def dropGuard (guard : Guard) : Act Unit :=
  modify fun state => { state with heap := guard.drop state.heap }

/-- Keeps a guard under a name, and drops the one that had it. -/
def keepGuard (context : Context) (name : String) (guard : Guard) : Act Unit := do
  let old := ((← get).worker? context.thread).bind (·.guards.lookup name)
  modify (·.modifyWorker context.thread fun worker =>
    { worker with guards := State.rename worker.guards name guard })
  match old with
  | some old => dropGuard old
  | none => pure ()

/-- Carries out a call on a guard. -/
def guard (context : Context) (name : String) (call : GuardCall) : Flow Answer :=
  match call with
  | .take handle request => onHandle handle fun found => do
    match ← acquire context found.entry request with
    | .error fault => return .panic fault.message
    | .ok outcome =>
      match Guard.ofAcquisition? ((← get).idOf context.thread) found.entry outcome with
      | some guard =>
        keepGuard context name guard
        return .flag true
      | none => return .flag false
  | .commit content tag => takingGuard context name fun guard => do
    let reading ← commitReading context guard.entry
    let state ← get
    let (outcome, heap, events) := guard.commit content tag reading state.heap
    set { state with heap }
    log events
    return .ofResult .flag outcome
  | .abort | .drop => takingGuard context name fun guard => do
    dropGuard guard
    return .nothing
  | .crash message => takingGuard context name fun guard => do
    dropGuard guard
    return .panic message
  | .previous => withGuard context name fun guard => do
    return .optionalText (guard.previous (← get).heap)
  | .describe => withGuard context name fun guard => do
    return .text (guard.describe (← get).heap)

end SingleFlight.Scenario.Calls
