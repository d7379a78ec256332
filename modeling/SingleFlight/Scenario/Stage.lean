import SingleFlight.Scenario.Background
import SingleFlight.Scenario.Plan

namespace SingleFlight.Scenario

/-- A thread on its way: its wait, and what is still to do. -/
structure Strand where
  isMain : Bool
  ready : State → Bool
  deadline : Option Instant
  plan : Plan

namespace Strand

/-- A thread that waits for nothing. -/
def start (isMain : Bool) (plan : Plan) : Strand := ⟨isMain, fun _ => true, none, plan⟩

/-- Whether a thread can go on. -/
def canGo (strand : Strand) (state : State) : Bool :=
  State.hasCome strand.ready strand.deadline state

end Strand

/-- What happens on a stage next where no thread can go on. -/
inductive Wake where
  | deadline (time : Instant)
  | sweep (store : StoreRef) (time : Instant)

/-- A state with its threads; the first that can has the next turn. -/
structure Stage where
  state : State
  strands : List Strand

namespace Stage

/-- The first thread that can go on, and the others. -/
def firstReady (state : State) : List Strand → Option (Strand × List Strand)
  | [] => none
  | strand :: rest =>
    if strand.canGo state then some (strand, rest)
    else (firstReady state rest).map fun (found, others) => (found, strand :: others)

/-- The first deadline of a thread. -/
def firstDeadline (strands : List Strand) : Option Instant :=
  (strands.filterMap Strand.deadline).foldl (fun first deadline =>
    match first with
    | some least => if deadline.nanos < least.nanos then some deadline else some least
    | none => some deadline) none

/-- What happens next where no thread can go on. -/
def nextWake (stage : Stage) : Option Wake :=
  match stage.state.firstDue, firstDeadline stage.strands with
  | none, none => none
  | none, some time => some (.deadline time)
  | some (store, due), none => some (.sweep store due)
  | some (store, due), some time =>
    if due.nanos ≤ time.nanos then some (.sweep store due) else some (.deadline time)

/-- Moves real time to what happens next. -/
def wake (state : State) : Wake → State
  | .deadline time => state.moveTo time
  | .sweep store time => (state.moveTo time).tick store

/-- The main thread waits for what can never come, and is given up. -/
def giveUp (stage : Stage) : Answer × Stage :=
  (.pending, { stage with strands := stage.strands.filter fun strand => !strand.isMain })

/-- Plays until the main thread is over, in so many turns at most. -/
def play : Nat → Stage → Answer × Stage
  | 0, stage => stage.giveUp
  | turns + 1, stage =>
    match firstReady stage.state stage.strands with
    | some (strand, others) =>
      match strand.plan.advance stage.state with
      | (.over answer, state) =>
        if strand.isMain then (answer, ⟨state, others⟩) else play turns ⟨state, others⟩
      | (.parked ready deadline rest, state) =>
        play turns ⟨state, others ++ [⟨strand.isMain, ready, deadline, rest⟩]⟩
      | (.forked child rest, state) =>
        play turns ⟨state, .start strand.isMain rest :: others ++ [.start false child]⟩
    | none =>
      match stage.nextWake with
      | some next => play turns { stage with state := wake stage.state next }
      | none => stage.giveUp

/-- The turns that a step of the scenario has at most. -/
def patience : Nat := 1000000

/-- Lets the main thread do something, and the others what they can do meanwhile. -/
def perform (stage : Stage) (flow : Flow Answer) : Answer × Stage :=
  play patience { stage with strands := .start true flow.plan :: stage.strands }

end Stage

end SingleFlight.Scenario
