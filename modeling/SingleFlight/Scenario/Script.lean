import SingleFlight.Scenario.Run
import SingleFlight.Scenario.Stage

namespace SingleFlight.Scenario

/-- What the trace shows of an entry. -/
structure ShownEntry where
  number : Nat
  locked : Bool
  held : Bool
  initialized : Bool
  tag : Option Tag
  content : Option String
  updated : Option Duration

/-- What the trace shows of a store. -/
structure ShownStore where
  size : Nat
  created : Nat
  replaced : Nat
  evictions : Nat

/-- What a scenario shows after a step. -/
structure Shown where
  answer : Answer
  entries : List (String × ShownEntry)
  stores : List (String × ShownStore)
  events : List Event

/-- The state of an entry as the main thread sees it. -/
def State.shownEntry (state : State) (id : EntryId) : ShownEntry :=
  let entry := state.heap.get id
  { number := (state.number id).1
    locked := entry.isLocked
    held := entry.isHeldBy (state.idOf mainThread)
    initialized := entry.gateOpen
    tag := entry.tag
    content := entry.content
    updated := state.shown entry.updated }

/-- What is shown after a step. -/
def State.show (state : State) (answer : Answer) : Shown where
  answer := answer
  entries := (state.handles.filter fun slot => !slot.2.erased).map fun slot =>
    (slot.1, state.shownEntry slot.2.entry)
  stores := state.stores.filterMap fun name =>
    (state.slot? name.2).map fun slot =>
      (name.1, ⟨slot.store.size, slot.store.created, slot.store.replaced, slot.store.evictions⟩)
  events := state.events

/-- Runs one step of the scenario itself. -/
def Stage.show (stage : Stage) (step : Step) : Shown × Stage :=
  let steps := Step.runAll (.ofThread mainThread) [step]
  let (answer, later) := { stage with state.events := [] }.perform do
    return (← steps).headD .nothing
  (later.state.show answer, later)

/-- Runs the steps of the scenario itself one after the other. -/
def Stage.showAll (stage : Stage) : List Step → List Shown
  | [] => []
  | step :: rest =>
    let (shown, later) := stage.show step
    shown :: later.showAll rest

/-- A scenario: its clock, its hash, its store and its steps. -/
structure Script where
  clock : ClockSetting
  hash : String → Nat
  settings : List Config.Setting
  steps : List Step

/-- The store that a scenario begins with. -/
def mainStore : String := "s"

/-- Runs a scenario, unless its store is refused. -/
def Script.run (script : Script) : Except String (List Shown) :=
  let opening := Step.call (.table (.newStore mainStore script.settings))
  let (made, stage) := (⟨.initial script.clock script.hash, []⟩ : Stage).show opening
  match made.answer with
  | .flag true => .ok (made :: stage.showAll script.steps)
  | .panic message => .error message
  | _ => .ok [made]

end SingleFlight.Scenario
