import SingleFlight.Scenario.Plan

namespace SingleFlight.Scenario.Calls

/-- Carries out a call on the clock. A sleep lasts for its real time. -/
def clock (context : Context) (call : ClockCall) : Flow Answer := do
  let state ← get
  let kind := state.timer.kind
  match call with
  | .advance amount =>
    if kind = .system then return .refused .wrongClock
    return .ofResult (fun _ => .nothing) (← modifyGet (State.onTimer (·.advance amount)))
  | .set elapsed =>
    if kind ≠ .ticking then return .refused .wrongClock
    return .ofResult (fun _ => .nothing) (← modifyGet (State.onTimer (·.set elapsed)))
  | .elapsed =>
    if kind ≠ .driven then return .refused .wrongClock
    return .duration (some state.timer.clock.elapsed)
  | .describe =>
    if kind ≠ .driven then return .refused .wrongClock
    return .text state.timer.clock.describe
  | .times =>
    match ← context.watch with
    | .error fault => return .panic fault.message
    | .ok now =>
      let reading ← modifyGet (State.onTimer Timer.wall)
      let state ← get
      return .ofResult (fun wall => .times ⟨state.shown now, state.shownWall wall⟩) reading
  | .sleep amount =>
    Flow.await (fun _ => false) (some ⟨state.realTime.nanos + amount.nanos⟩)
    return .nothing

/-- Waits until the detached step of a thread is over. -/
def awaitDetached (thread : String) : Flow Unit :=
  Flow.await (fun state => !state.isUnderWay thread) none

/-- The answer of a detached step. Its thread is free from then on. -/
def join (thread : String) (poll : Bool) : Flow Answer := do
  if poll && (← get).isUnderWay thread then return .pending
  awaitDetached thread
  match (← get).detachedAnswer? thread with
  | some answer =>
    modify (·.occupy thread .free)
    return answer
  | none => return .refused .notStarted

/-- Ends a thread once its detached step is over; its guards are dropped. -/
def endThread (context : Context) (thread : String) : Flow Answer := do
  match (← get).occupation? thread with
  | none => return .flag false
  | some .inStep => return .refused .busy
  | some .free | some (.detached _) =>
    if thread = context.root then return .refused .busy
    awaitDetached thread
    modify fun state =>
      let guards := ((state.worker? thread).map Worker.guards).getD []
      { state with
        workers := state.workers.filter fun worker => worker.name != thread
        heap := guards.foldl (fun heap (slot : String × Guard) => slot.2.drop heap) state.heap }
    return .flag true

/-- Runs a step on a thread while this one waits for it. -/
def onThread (context : Context) (thread : String) (step : Context → Flow Answer) :
    Flow Answer := do
  modify (·.occupy thread .inStep)
  let answer ← step { context with thread }
  modify (·.occupy thread .free)
  return answer

/-- Starts a step on a thread that nobody waits for. -/
def detach (thread : String) (step : Context → Flow Answer) : Flow Answer := do
  modify (·.occupy thread (.detached none))
  Flow.fork do
    let answer ← step (.ofThread thread)
    modify fun state => state.dropUnreachable.occupy thread (.detached (some answer))
    return .nothing
  return .started

/-- Sends a step to a thread, which takes it if it is free. -/
def send (context : Context) (thread : String) (detached : Bool) (step : Context → Flow Answer) :
    Flow Answer := do
  if thread = context.thread then step context
  else if !(← get).isFree thread then return .refused .busy
  else if detached then detach thread step
  else onThread context thread step

end SingleFlight.Scenario.Calls
