import SingleFlight.Scenario.State

namespace SingleFlight.Scenario

/-- What a thread has still to do. -/
inductive Plan where
  | over (answer : Answer)
  | act {β : Type} (change : Act β) (next : β → Plan)
  /-- Goes on once the condition holds or the deadline has come. -/
  | park (ready : State → Bool) (deadline : Option Instant) (rest : Plan)
  /-- Starts a plan beside this one. -/
  | fork (child rest : Plan)

/-- Where a plan comes to a halt. -/
inductive Halt where
  | over (answer : Answer)
  | parked (ready : State → Bool) (deadline : Option Instant) (rest : Plan)
  | forked (child rest : Plan)

/-- Goes on with a plan until it comes to a halt. -/
def Plan.advance : Plan → State → Halt × State
  | .over answer, state => (.over answer, state)
  | .act change next, state =>
    let (value, after) := change.run state
    (next value).advance after
  | .park ready deadline rest, state => (.parked ready deadline rest, state)
  | .fork child rest, state => (.forked child rest, state)

/-- A part of a plan that gives a value to the rest. -/
def Flow (α : Type) : Type 1 := (α → Plan) → Plan

instance : Monad Flow where
  pure value next := next value
  bind flow step next := flow fun value => step value next

instance : MonadLift Act Flow where
  monadLift change next := .act change next

namespace Flow

/-- A flow that answers, as a whole plan. -/
def plan (flow : Flow Answer) : Plan := flow .over

/-- Waits until the condition holds or the deadline has come. -/
def await (ready : State → Bool) (deadline : Option Instant) : Flow Unit := do
  unless State.hasCome ready deadline (← get) do
    fun next => .park ready deadline (next ())

/-- Starts a flow beside this one. -/
def fork (child : Flow Answer) : Flow Unit := fun next => .fork child.plan (next ())

/-- Keeps something alive during a flow. -/
def holding {α : Type} (hold : Hold) (flow : Flow α) : Flow α := do
  modify (·.hold hold)
  let value ← flow
  modify (·.letGo hold)
  return value

end Flow

/-- Where a step runs, and what happens inside each reading. -/
structure Context where
  thread : String
  /-- The thread whose readings are counted. -/
  root : String
  /-- The steps inside the reading of each number, on the thread that reads. -/
  race : Nat → String → Flow Unit

namespace Context

/-- A step that a thread begins by itself. -/
def ofThread (thread : String) : Context := ⟨thread, thread, fun _ _ => pure ()⟩

/-- Reads the clock: first what happens inside the reading, then the time is taken. -/
def watch (context : Context) : Flow Reading := do
  let number := (← get).nextReading context.root
  modify (·.modifyWorker context.root fun worker => { worker with readings := number + 1 })
  context.race number context.thread
  State.readPlainly

/-- Puts steps into the reading of a number, and keeps their answers. -/
def withRace (context : Context) (reading race : Nat) (steps : Context → Flow (List Answer)) :
    Context :=
  { context with
    race := fun number thread => do
      context.race number thread
      if number = reading then
        let answers ← steps { context with thread }
        modify (·.setRace race answers) }

end Context

end SingleFlight.Scenario
