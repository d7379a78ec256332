import SingleFlight.Registry
import SingleFlight.Scenario.Answer
import SingleFlight.Scenario.Step
import SingleFlight.Scenario.Timer
import SingleFlight.Schedule
import SingleFlight.Store.Basic

namespace SingleFlight.Scenario

/-- The number of a store. -/
abbrev StoreRef := Nat

/-- A store with the loops that sweep it in the background. -/
structure Slot where
  store : Store
  schedule : Schedule

/-- A name for an entry, which an erased handle does not show. -/
structure Handle where
  entry : EntryId
  erased : Bool
  deriving DecidableEq, Repr

/-- What a thread is at. -/
inductive Occupation where
  | free
  /-- In the middle of a step that another thread waits for. -/
  | inStep
  /-- At a step that nobody waits for, or past it with its answer. -/
  | detached (answer : Option Answer)

/-- A thread of a scenario. -/
structure Worker where
  name : String
  id : ThreadId
  guards : List (String × Guard)
  occupation : Occupation
  /-- How often the thread's own steps have read the monotonic clock. -/
  readings : Nat

/-- What a step in progress keeps alive. -/
inductive Hold where
  | store (ref : StoreRef)
  /-- A registry, with all that it names. -/
  | registry (number : Nat)
  deriving DecidableEq, Repr

/-- The thread that the scenario itself runs on. -/
def mainThread : String := "main"

/-- The state of a scenario. -/
structure State where
  timer : Timer
  realTime : Instant
  hash : String → Nat
  heap : Heap
  slots : Array Slot
  /-- The stores by name. -/
  stores : List (String × StoreRef)
  /-- The registries, the one in use last. -/
  registries : Array (Registry StoreRef)
  handles : List (String × Handle)
  /-- The entries that were answered, the last one first. -/
  answered : List EntryId
  workers : List Worker
  nextThread : Nat
  /-- What the steps in progress keep alive. -/
  holds : List Hold
  events : List Event
  /-- What the steps inside each race have answered, once they have run. -/
  races : Array (Option (List Answer))

/-- An action of a scenario. -/
abbrev Act := StateM State

namespace State

/-- The state at the beginning, without a store. -/
def initial (setting : ClockSetting) (hash : String → Nat) : State where
  timer := .starting setting
  realTime := ⟨0⟩
  hash := hash
  heap := .empty
  slots := #[]
  stores := []
  registries := #[.empty]
  handles := []
  answered := []
  workers := [⟨mainThread, ⟨0⟩, [], .inStep, 0⟩]
  nextThread := 1
  holds := []
  events := []
  races := #[]

def worker? (state : State) (name : String) : Option Worker :=
  state.workers.find? fun worker => worker.name == name

/-- The identity of a thread. -/
def idOf (state : State) (name : String) : ThreadId :=
  ((state.worker? name).map Worker.id).getD ⟨0⟩

/-- Changes the thread of a name, if there is one. -/
def modifyWorker (state : State) (name : String) (change : Worker → Worker) : State :=
  { state with
    workers := state.workers.map fun worker =>
      if worker.name == name then change worker else worker }

/-- Gives a thread something to do, and starts it if need be. -/
def occupy (state : State) (name : String) (occupation : Occupation) : State :=
  if (state.worker? name).isSome then
    state.modifyWorker name fun worker => { worker with occupation }
  else { state with
    workers := state.workers ++ [⟨name, ⟨state.nextThread⟩, [], occupation, 0⟩]
    nextThread := state.nextThread + 1 }

def occupation? (state : State) (name : String) : Option Occupation :=
  (state.worker? name).map Worker.occupation

/-- Whether a thread can take a step of another one. -/
def isFree (state : State) (name : String) : Bool :=
  match state.occupation? name with
  | none | some .free => true
  | some .inStep | some (.detached _) => false

/-- The answer of a detached step that is over. -/
def detachedAnswer? (state : State) (name : String) : Option Answer :=
  match state.occupation? name with
  | some (.detached answer) => answer
  | none | some .free | some .inStep => none

/-- Whether a detached step is under way on a thread. -/
def isUnderWay (state : State) (name : String) : Bool :=
  match state.occupation? name with
  | some (.detached none) => true
  | none | some .free | some .inStep | some (.detached (some _)) => false

/-- The number of the next reading in the steps that a thread has begun. -/
def nextReading (state : State) (name : String) : Nat :=
  ((state.worker? name).map Worker.readings).getD 0

/-- Names something in a list of names, in place of what had the name. -/
def rename {α : Type} (names : List (String × α)) (name : String) (value : α) :
    List (String × α) :=
  names.filter (fun slot => slot.1 != name) ++ [(name, value)]

/-- A time of the monotonic clock as it is answered. -/
def shown (state : State) (time : Instant) : Option Duration :=
  if state.timer.kind = .system then none else some ⟨time.nanos⟩

/-- A wall time as it is answered: since the wall time at the start. -/
def shownWall (state : State) (time : WallTime) : Option Int :=
  if state.timer.kind = .system then none else some (time.nanos - state.timer.clock.wallStart.nanos)

def shownDuration (state : State) (duration : Duration) : Option Duration :=
  if state.timer.kind = .system then none else some duration

/-- Adds to the log. -/
def report (state : State) (events : List Event) : State :=
  { state with events := state.events ++ events }

def slot? (state : State) (ref : StoreRef) : Option Slot := state.slots[ref]?

/-- The schedule of a store. -/
def schedule (state : State) (ref : StoreRef) : Schedule :=
  ((state.slot? ref).map Slot.schedule).getD .empty

def setSchedule (state : State) (ref : StoreRef) (schedule : Schedule) : State :=
  { state with slots := state.slots.modify ref fun slot => { slot with schedule } }

/-- A number for an entry in answers: its old one, or the next. -/
def number (state : State) (entry : EntryId) : Nat × State :=
  match state.answered.reverse.findIdx? (· = entry) with
  | some position => (position, state)
  | none => (state.answered.length, { state with answered := entry :: state.answered })

/-- The name of a store that comes first in the order of names. -/
def nameOf (state : State) (ref : StoreRef) : Option String :=
  let names := (state.stores.filter fun slot => slot.2 == ref).map Prod.fst
  names.foldl (fun least name =>
    match least with
    | some other => if name < other then some name else some other
    | none => some name) none

/-- A call on the clock. -/
def onTimer {α : Type} (call : Timer → α × Timer) (state : State) : α × State :=
  let (result, timer) := call state.timer
  (result, { state with timer })

/-- Reads the clock, with no steps inside the reading. -/
def readPlainly : Act Reading := modifyGet (onTimer Timer.read)

/-- Moves real time to an instant, and the system clock with it. -/
def moveTo (state : State) (time : Instant) : State :=
  { state with
    realTime := if state.realTime.nanos ≤ time.nanos then time else state.realTime
    timer := state.timer.pass (time.since state.realTime) }

/-- Whether a condition holds or a deadline has come. -/
def hasCome (ready : State → Bool) (deadline : Option Instant) (state : State) : Bool :=
  ready state || deadline.any (·.nanos ≤ state.realTime.nanos)

/-- The registry in use. -/
def registry (state : State) : Registry StoreRef := state.registries.back?.getD .empty

/-- The number of the registry in use. -/
def registryNumber (state : State) : Nat := state.registries.size - 1

def modifyRegistry (state : State) (change : Registry StoreRef → Registry StoreRef) : State :=
  { state with registries := state.registries.modify state.registryNumber change }

/-- Keeps something alive for a step. -/
def hold (state : State) (hold : Hold) : State := { state with holds := hold :: state.holds }

/-- The step that kept something alive is over. -/
def letGo (state : State) (hold : Hold) : State :=
  { state with holds := state.holds.erase hold }

/-- Whether a hold keeps a store alive. -/
def holdReaches (state : State) (ref : StoreRef) : Hold → Bool
  | .store held => held == ref
  | .registry number =>
    (state.registries[number]?.map Registry.targets).any fun targets => targets.contains ref

/-- Whether anything can still reach a store. -/
def isReachable (state : State) (ref : StoreRef) : Bool :=
  state.stores.any (·.2 == ref) || state.registry.targets.contains ref
    || state.holds.any (state.holdReaches ref)

/-- One step of a call on the schedule of a store. -/
def orderStep (state : State) (ref : StoreRef) (call : ScheduleCall) (phase : ScheduleCall.Phase) :
    ScheduleCall.Phase × State :=
  let schedule := match phase with
    | .stopping task .joining _ =>
      (state.schedule ref).change task.loop fun loop => loop.settle state.realTime
    | _ => state.schedule ref
  let (next, schedule, events) := call.step none phase schedule
  (next, (state.setSchedule ref schedule).report events)

/-- At most so many steps of a call on the schedule of a store. -/
def orderSteps (ref : StoreRef) (call : ScheduleCall) :
    Nat → ScheduleCall.Phase → State → ScheduleCall.Phase × State
  | 0, phase, state => (phase, state)
  | count + 1, phase, state =>
    let (next, state) := state.orderStep ref call phase
    orderSteps ref call count next state

/-- Goes on with a call on a schedule as far as it can. -/
def order (state : State) (ref : StoreRef) (call : ScheduleCall) (phase : ScheduleCall.Phase) :
    ScheduleCall.Phase × State := orderSteps ref call 6 phase state

/-- Drops the stores that nothing can reach any more. -/
def dropUnreachable (state : State) : State :=
  (List.range state.slots.size).foldl
    (fun state ref => if state.isReachable ref then state else (state.order ref .drop .asking).2)
    state

/-- Makes room for the answers of the steps of a race; gives its number. -/
def newRace (state : State) : Nat × State :=
  (state.races.size, { state with races := state.races.push none })

/-- Keeps the answers of the steps of a race. -/
def setRace (state : State) (race : Nat) (answers : List Answer) : State :=
  { state with races := state.races.setIfInBounds race (some answers) }

/-- The answers of the steps of a race, if they have run. -/
def raceAnswers (state : State) (race : Nat) : Option (List Answer) := state.races[race]?.join

end State

end SingleFlight.Scenario
