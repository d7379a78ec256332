import SingleFlight.Scenario.State
import SingleFlight.Store.Sweep

namespace SingleFlight.Scenario.State

universe u

/-- The way of a procedure into the scenario, with its readings. -/
def host {m : Type → Type u} [Monad m] [MonadStateOf State m] (slot : Slot) (ref : StoreRef)
    (read : m Reading) : Host m where
  cache := do
    let state ← getThe State
    return ⟨state.heap, ((state.slot? ref).getD slot).store⟩
  setCache cache := modifyThe State fun state =>
    { state with
      heap := cache.heap
      slots := state.slots.modify ref fun old => { old with store := cache.store } }
  read := read
  wall := modifyGetThe State (onTimer Timer.wall)
  report events := modifyThe State (·.report events)

/-- What a sweep in the background takes of real time. -/
def sweepCost : Duration := ⟨50000⟩

/-- One sweep by the loop in charge of a store, which is due. -/
def tick (state : State) (ref : StoreRef) : State :=
  match (state.slot? ref), (state.schedule ref).task with
  | some slot, some task =>
    let change (state : State) (after : ReclaimerLoop → ReclaimerLoop) : State :=
      state.setSchedule ref ((state.schedule ref).change task.loop after)
    let begun := change state fun loop => loop.settle state.realTime
    let sweep : Act Sweep.Phase := Sweep.procedure.runIn (host slot ref readPlainly) .starting
    let (phase, swept) := sweep.run begun
    let alive := match phase with
      | .finished (.error _) => false
      | _ => true
    let later := { swept with events := state.events }.moveTo
      ⟨state.realTime.nanos + sweepCost.nanos⟩
    change later fun loop => (loop.tickDone alive).settle later.realTime
  | _, _ => state

/-- The background loop that falls due first, with its deadline. -/
def firstDue (state : State) : Option (StoreRef × Instant) :=
  let loops := (List.range state.slots.size).filterMap fun ref => do
    let deadline ← (← (state.schedule ref).current?).due?
    pure (ref, deadline)
  loops.foldl (fun first candidate =>
    match first with
    | some (_, deadline) => if candidate.2.nanos < deadline.nanos then some candidate else first
    | none => some candidate) none

end SingleFlight.Scenario.State
