import SingleFlight.Error
import SingleFlight.Event
import SingleFlight.Reclaimer

namespace SingleFlight

/-- The means to stop a loop. -/
structure ReclaimerTask where
  interval : Duration
  /-- The number of the loop. -/
  loop : Nat
  /-- Whether the loop's thread can still be waited for. -/
  hasHandle : Bool
  deriving DecidableEq, Repr

/-- How a running reclaimer is shown. -/
def ReclaimerTask.describe (task : ReclaimerTask) : String :=
  Text.record "ReclaimerTask"
    [("interval", task.interval.text), ("running", Text.flag task.hasHandle)]

/-- All loops of a store by number, and the task in charge. -/
structure Schedule where
  loops : List ReclaimerLoop
  task : Option ReclaimerTask
  /-- Whether a call has the mutex of the task. -/
  locked : Bool
  deriving DecidableEq, Repr

namespace Schedule

def empty : Schedule := ⟨[], none, false⟩

/-- Changes the loop of a number. -/
def change (schedule : Schedule) (loop : Nat) (after : ReclaimerLoop → ReclaimerLoop) : Schedule :=
  { schedule with loops := schedule.loops.modify loop after }

/-- Whether the thread of a loop has ended. -/
def hasEnded (schedule : Schedule) (loop : Nat) : Bool :=
  schedule.loops[loop]?.all fun found => !found.isRunning

/-- The loop in charge. -/
def current? (schedule : Schedule) : Option ReclaimerLoop :=
  schedule.task.bind fun task => schedule.loops[task.loop]?

/-- The interval of the loop in charge. -/
def interval? (schedule : Schedule) : Option Duration := schedule.task.map ReclaimerTask.interval

end Schedule

/-- A call on the schedule of a store. -/
inductive ScheduleCall where
  /-- A new schedule; with `runNow` the caller sweeps first. -/
  | start (interval : Duration) (runNow : Bool)
  /-- No schedule any more. The caller drops the entries of the store after it. -/
  | destroy
  /-- The end of the store, of which nobody else has a hold any more. -/
  | drop
  deriving DecidableEq, Repr

/-- Where the stop of a loop stands. -/
inductive StopStage where
  /-- Before the handle is taken. -/
  | taking
  /-- Before the flag is set. -/
  | raising
  /-- Before the signal. -/
  | waking
  /-- Until the thread has ended. -/
  | joining
  deriving DecidableEq, Repr

namespace ScheduleCall

/-- How a call ends. -/
inductive Ending where
  | done
  | refused (error : CacheError)
  /-- The first sweep could not read the clock. -/
  | crashed (fault : ClockFault)

/-- Where a call stands. -/
inductive Phase where
  /-- Before the mutex of the task. -/
  | asking
  /-- The task in hand is stopped, at last by its drop. -/
  | stopping (task : ReclaimerTask) (stage : StopStage) (dropped : Bool)
  /-- The caller sweeps before the loop is started. -/
  | sweeping
  /-- Before the thread of a loop is started. -/
  | launching
  /-- The loop is started, and its task is not in its place yet. -/
  | keeping (task : ReclaimerTask)
  | finished (ending : Ending)

/-- Whether the call is the end of the store, which needs no mutex. -/
def isDrop (call : ScheduleCall) : Bool := call = .drop

/-- How a call goes on once no old loop is left to be stopped. -/
def onward (call : ScheduleCall) (schedule : Schedule) : Phase × Schedule :=
  match call with
  | .start _ runNow => (if runNow then .sweeping else .launching, schedule)
  | .destroy => (.finished .done, { schedule with locked := false })
  | .drop => (.finished .done, schedule)

/-- Takes the task from its place, and the mutex with it. -/
def takeOver (call : ScheduleCall) (schedule : Schedule) : Phase × Schedule :=
  let taken := { schedule with task := none, locked := schedule.locked || !call.isDrop }
  match schedule.task with
  | some task => (.stopping task .taking call.isDrop, taken)
  | none => call.onward taken

/-- The first step of a call, if no other one has the mutex. -/
def enter (call : ScheduleCall) (schedule : Schedule) : Phase × Schedule :=
  match call with
  | .start interval _ =>
    if interval.isZero then (.finished (.refused (.config .zeroSweepInterval)), schedule)
    else if schedule.locked then (.asking, schedule)
    else call.takeOver schedule
  | .destroy => if schedule.locked then (.asking, schedule) else call.takeOver schedule
  | .drop => call.takeOver schedule

/-- Whether a call waits for the mutex. -/
def isBlocked (call : ScheduleCall) (schedule : Schedule) : Bool :=
  match (call.enter schedule).1 with
  | .asking => true
  | _ => false

/-- How a call goes on after a stop, which it makes twice. -/
def afterStop (call : ScheduleCall) (task : ReclaimerTask) (dropped : Bool) (schedule : Schedule) :
    Phase × Schedule :=
  if dropped then call.onward schedule else (.stopping task .taking true, schedule)

/-- One step of a call, made on the thread of a loop or elsewhere. -/
def step (call : ScheduleCall) (thread : Option Nat) (phase : Phase) (schedule : Schedule) :
    Phase × Schedule × List Event :=
  match phase with
  | .asking =>
    let (next, schedule) := call.enter schedule
    (next, schedule, [])
  | .stopping task .taking dropped =>
    if task.hasHandle then
      (.stopping { task with hasHandle := false } .raising dropped, schedule, [])
    else
      let (next, schedule) := call.afterStop task dropped schedule
      (next, schedule, [])
  | .stopping task .raising dropped =>
    (.stopping task .waking dropped, schedule.change task.loop ReclaimerLoop.raise, [])
  | .stopping task .waking dropped =>
    (.stopping task .joining dropped, schedule.change task.loop ReclaimerLoop.wake, [])
  | .stopping task .joining dropped =>
    -- A call from inside a sweep of the loop does not wait for its own thread.
    if thread = some task.loop || schedule.hasEnded task.loop then
      let (next, schedule) := call.afterStop task dropped schedule
      (next, schedule, [.reclaimerStopped])
    else (.stopping task .joining dropped, schedule, [])
  | .keeping task => (.finished .done, { schedule with task := some task, locked := false }, [])
  | phase => (phase, schedule, [])

/-- The first sweep of a call has ended. -/
def afterSweep (swept : Except ClockFault Unit) (phase : Phase) (schedule : Schedule) :
    Phase × Schedule :=
  match phase, swept with
  | .sweeping, .ok () => (.launching, schedule)
  | .sweeping, .error fault => (.finished (.crashed fault), { schedule with locked := false })
  | phase, _ => (phase, schedule)

/-- The system has started a thread for the loop, or refused to. -/
def afterLaunch (call : ScheduleCall) (launched : Except String Unit) (phase : Phase)
    (schedule : Schedule) : Phase × Schedule × List Event :=
  match phase, call, launched with
  | .launching, .start interval _, .ok () =>
    (.keeping ⟨interval, schedule.loops.length, true⟩,
      { schedule with loops := schedule.loops ++ [.spawn interval] },
      [.reclaimerScheduled interval])
  | .launching, .start _ _, .error reason =>
    (.finished (.refused (.spawn reason)), { schedule with locked := false }, [])
  | phase, _, _ => (phase, schedule, [])

end ScheduleCall

end SingleFlight
