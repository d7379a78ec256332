import SingleFlight.Schedule

namespace SingleFlight

/-- A call under way. -/
structure Order where
  call : ScheduleCall
  /-- The loop from inside whose sweep the call is made, if any. -/
  maker : Option Nat
  phase : ScheduleCall.Phase

/-- A store's schedule and the calls on it, oldest first. -/
structure Roster where
  schedule : Schedule
  orders : List Order

/-- What can happen in one atomic step. -/
inductive RosterMove where
  | begin (call : ScheduleCall) (maker : Option Nat)
  /-- The next step of the call of a number. -/
  | proceed (number : Nat)
  /-- The first sweep of a call ends. -/
  | swept (number : Nat) (outcome : Except ClockFault Unit)
  /-- The system starts a loop's thread for a call, or fails to. -/
  | launched (number : Nat) (outcome : Except String Unit)
  /-- The next step of a loop, with its reading if it takes one. -/
  | turn (loop : Nat) (now : Instant)
  /-- A loop is woken from its wait for no reason. -/
  | stir (loop : Nat)
  /-- The sweep of a loop ends. -/
  | ticked (loop : Nat) (storeAlive : Bool)

namespace ScheduleCall.Phase

def isFinished : Phase → Bool
  | .finished _ => true
  | _ => false

end ScheduleCall.Phase

namespace Roster

/-- A new store, without a schedule. -/
def opened : Roster := ⟨.empty, []⟩

/-- Whether a call from inside the loop's sweep is under way. -/
def isCalling (roster : Roster) (loop : Nat) : Bool :=
  roster.orders.any fun order => order.maker = some loop && !order.phase.isFinished

/-- Whether a loop is in its sweep and can make a call there. -/
def canCall (roster : Roster) (loop : Nat) : Bool :=
  !roster.isCalling loop
    && roster.schedule.loops[loop]?.any fun found => found.phase = .ticking

/-- Whether a call can be begun; the store's end is the last. -/
def admits (roster : Roster) (call : ScheduleCall) (maker : Option Nat) : Bool :=
  maker.all roster.canCall
    && roster.orders.all fun order =>
      !order.call.isDrop && (!call.isDrop || order.phase.isFinished)

/-- A step of the call of a number. -/
def advance (roster : Roster) (number : Nat)
    (after : Order → Schedule → ScheduleCall.Phase × Schedule) : Roster :=
  match roster.orders[number]? with
  | none => roster
  | some order =>
    let (phase, schedule) := after order roster.schedule
    ⟨schedule, roster.orders.set number { order with phase }⟩

/-- A step of the loop of a number. -/
def change (roster : Roster) (loop : Nat) (after : ReclaimerLoop → ReclaimerLoop) : Roster :=
  { roster with schedule := roster.schedule.change loop after }

-- A move that cannot be made where the roster stands changes nothing.

/-- One move. -/
def take (roster : Roster) (move : RosterMove) : Roster :=
  match move with
  | .begin call maker =>
    if roster.admits call maker then
      { roster with orders := roster.orders ++ [⟨call, maker, .asking⟩] }
    else roster
  | .proceed number => roster.advance number fun order schedule =>
    let (phase, schedule, _) := order.call.step order.maker order.phase schedule
    (phase, schedule)
  | .swept number outcome => roster.advance number fun order schedule =>
    ScheduleCall.afterSweep outcome order.phase schedule
  | .launched number outcome => roster.advance number fun order schedule =>
    let (phase, schedule, _) := order.call.afterLaunch outcome order.phase schedule
    (phase, schedule)
  | .turn loop now => roster.change loop fun found => found.step now
  | .stir loop => roster.change loop ReclaimerLoop.wake
  | .ticked loop storeAlive =>
    if roster.isCalling loop then roster
    else roster.change loop fun found => found.tickDone storeAlive

/-- Moves one after the other. -/
def run (roster : Roster) (moves : List RosterMove) : Roster := moves.foldl take roster

theorem run_append (roster : Roster) (first rest : List RosterMove) :
    roster.run (first ++ rest) = (roster.run first).run rest := List.foldl_append

theorem run_concat (roster : Roster) (moves : List RosterMove) (move : RosterMove) :
    roster.run (moves ++ [move]) = (roster.run moves).take move := roster.run_append moves [move]

/-- The state of a loop. -/
def loop? (roster : Roster) (loop : Nat) : Option ReclaimerLoop := roster.schedule.loops[loop]?

/-- A loop that runs. -/
def Runs (roster : Roster) (loop : Nat) : Prop :=
  ∃ found, roster.loop? loop = some found ∧ found.isRunning = true

/-- A loop that has been told to stop. -/
def Told (roster : Roster) (loop : Nat) : Prop :=
  ∃ found, roster.loop? loop = some found ∧ found.stopRequested = true

end Roster

/-- What a call has in hand while it has the schedule for itself. -/
inductive Burden where
  | nothing
  /-- The task of a loop that has to be stopped. -/
  | holding (loop : Nat)
  /-- A loop that is told to stop, and gets the signal next. -/
  | summoning (loop : Nat)
  /-- A loop told to stop and woken; the call waits for its end. -/
  | awaiting (loop : Nat)
  /-- The task of a new loop, on the way to its place. -/
  | placing (loop : Nat)
  deriving DecidableEq, Repr

/-- The loop that is to be stopped. -/
def Burden.old? : Burden → Option Nat
  | .holding loop | .summoning loop | .awaiting loop => some loop
  | .nothing | .placing _ => none

namespace ScheduleCall.Phase

/-- What a call has in hand, if it has the schedule for itself. -/
def burden? : Phase → Option Burden
  | .asking | .finished _ => none
  | .stopping task .taking _ => some (if task.hasHandle then .holding task.loop else .nothing)
  | .stopping task .raising _ => some (.holding task.loop)
  | .stopping task .waking _ => some (.summoning task.loop)
  | .stopping task .joining _ => some (.awaiting task.loop)
  | .sweeping | .launching => some .nothing
  | .keeping task => some (.placing task.loop)

/-- The loop that a call is stopping. -/
def old? (phase : Phase) : Option Nat := phase.burden?.bind Burden.old?

/-- A call that is over has nothing in hand. -/
theorem burden_of_finished {phase : Phase} (ends : phase.isFinished = true) : phase.burden? = none := by
  cases phase with
  | finished => rfl
  | _ => cases ends

end ScheduleCall.Phase

namespace ScheduleCall
variable {call : ScheduleCall} {maker : Option Nat} {phase : Phase} {schedule : Schedule}

/-- Whether a call asks for sweeps without any time between them. -/
def isRefused : ScheduleCall → Bool
  | .start interval _ => interval.isZero
  | .destroy | .drop => false

/-- The phases a call can reach, with its handle or without. -/
def Fits (call : ScheduleCall) : Phase → Prop
  | .asking => True
  | .stopping task .taking dropped =>
    call.isRefused = false ∧ task.hasHandle = (dropped == call.isDrop) ∧
      (call.isDrop = true → dropped = true)
  | .stopping task _ dropped =>
    call.isRefused = false ∧ task.hasHandle = false ∧ dropped = call.isDrop
  | .sweeping | .launching => call.isRefused = false ∧ call.isDrop = false
  | .keeping task => call.isRefused = false ∧ call.isDrop = false ∧ task.hasHandle = true
  | .finished ending =>
    call.isRefused = true → ending = .refused (.config .zeroSweepInterval)

/-- What a step of a call comes to. -/
inductive Effect (call : ScheduleCall) (maker : Option Nat) (phase : Phase) (schedule : Schedule) :
    Phase → Schedule → Prop where
  /-- The schedule stays, and the call keeps what it has in hand. -/
  | same {next : Phase} (burden : next.burden? = phase.burden?)
      (rests : phase.burden? = none → next = phase) :
      Effect call maker phase schedule next schedule
  /-- The call is refused, or finds no loop and wants none. -/
  | passed {next : Phase} (asks : phase = .asking) (ends : next.isFinished = true)
      (reason : call.isRefused = true ∨
        schedule.task = none ∧ (call.isDrop = true ∨ schedule.locked = false)) :
      Effect call maker phase schedule next schedule
  /-- The call takes the task of the loop in charge. -/
  | took {next : Phase} {task : ReclaimerTask} (asks : phase = .asking)
      (free : call.isDrop = true ∨ schedule.locked = false) (there : schedule.task = some task)
      (burden : next.burden? = some (.holding task.loop)) :
      Effect call maker phase schedule next
        { schedule with task := none, locked := schedule.locked || !call.isDrop }
  /-- The call finds no loop in charge, and has the schedule for itself. -/
  | entered {next : Phase} (asks : phase = .asking) (free : schedule.locked = false)
      (bare : schedule.task = none) (burden : next.burden? = some .nothing) :
      Effect call maker phase schedule next { schedule with locked := true }
  | raised {next : Phase} {loop : Nat} (before : phase.burden? = some (.holding loop))
      (after : next.burden? = some (.summoning loop)) :
      Effect call maker phase schedule next (schedule.change loop ReclaimerLoop.raise)
  | woke {next : Phase} {loop : Nat} (before : phase.burden? = some (.summoning loop))
      (after : next.burden? = some (.awaiting loop)) :
      Effect call maker phase schedule next (schedule.change loop ReclaimerLoop.wake)
  /-- The loop has ended, or the call is made from inside its sweep. -/
  | joined {next : Phase} {loop : Nat} (before : phase.burden? = some (.awaiting loop))
      (ended : maker = some loop ∨ schedule.hasEnded loop = true)
      (after : next.burden? = some .nothing ∨ next.burden? = none ∧ call.isDrop = true) :
      Effect call maker phase schedule next schedule
  | launched {next : Phase} {interval : Duration} (before : phase.burden? = some .nothing)
      (after : next.burden? = some (.placing schedule.loops.length)) :
      Effect call maker phase schedule next
        { schedule with loops := schedule.loops ++ [.spawn interval] }
  | kept {next : Phase} {task : ReclaimerTask} (before : phase.burden? = some (.placing task.loop))
      (handle : task.hasHandle = true) (after : next.burden? = none) :
      Effect call maker phase schedule next { schedule with task := some task, locked := false }
  /-- The call is over and has nothing in hand. -/
  | left {next : Phase} (before : phase.burden? = some .nothing) (after : next.burden? = none) :
      Effect call maker phase schedule next { schedule with locked := false }

/-- A call with nothing in hand goes on, or ends. -/
theorem onward_effect (accepted : call.isRefused = false) (lasting : call.isDrop = false)
    (bare : phase.burden? = some .nothing) :
    Effect call maker phase schedule (call.onward schedule).1 (call.onward schedule).2 ∧
      call.Fits (call.onward schedule).1 := by
  have busy : phase.burden? ≠ none := by simp [bare]
  cases call with
  | start interval runNow =>
      cases runNow
      · exact ⟨.same bare.symm fun idle => absurd idle busy, accepted, rfl⟩
      · exact ⟨.same bare.symm fun idle => absurd idle busy, accepted, rfl⟩
  | destroy => exact ⟨.left bare rfl, fun refused => nomatch refused⟩
  | drop => cases lasting

/-- The first step of a call that is free to take over. -/
theorem takeOver_effect (accepted : call.isRefused = false)
    (free : call.isDrop = true ∨ schedule.locked = false)
    (slot : ∀ task, schedule.task = some task → task.hasHandle = true) :
    Effect call maker .asking schedule (call.takeOver schedule).1 (call.takeOver schedule).2 ∧
      call.Fits (call.takeOver schedule).1 := by
  obtain ⟨loops, task, locked⟩ := schedule
  cases task with
  | some task =>
      have handle : task.hasHandle = true := slot task rfl
      refine ⟨.took rfl free rfl ?_, accepted, ?_, fun drops => drops⟩
      · simp [takeOver, Phase.burden?, handle]
      · simp [handle]
  | none =>
      cases call with
      | start interval runNow =>
          have unlocked : locked = false := free.resolve_left Bool.false_ne_true
          subst unlocked
          cases runNow
          · exact ⟨.entered rfl rfl rfl rfl, accepted, rfl⟩
          · exact ⟨.entered rfl rfl rfl rfl, accepted, rfl⟩
      | destroy =>
          have unlocked : locked = false := free.resolve_left Bool.false_ne_true
          subst unlocked
          exact ⟨.passed rfl rfl (.inr ⟨rfl, .inr rfl⟩), fun refused => nomatch refused⟩
      | drop =>
          refine ⟨?_, fun refused => nomatch refused⟩
          simp only [takeOver, onward, isDrop, decide_true, Bool.not_true, Bool.or_false]
          exact .passed rfl rfl (.inr ⟨rfl, .inl rfl⟩)

theorem enter_effect (slot : ∀ task, schedule.task = some task → task.hasHandle = true) :
    Effect call maker .asking schedule (call.enter schedule).1 (call.enter schedule).2 ∧
      call.Fits (call.enter schedule).1 := by
  cases call with
  | start interval runNow =>
      simp only [enter]
      split
      · next zero => exact ⟨.passed rfl rfl (.inl zero), fun _ => rfl⟩
      · next positive =>
          split
          · exact ⟨.same rfl fun _ => rfl, trivial⟩
          · next free =>
              exact takeOver_effect (Bool.eq_false_iff.mpr positive) (.inr (Bool.eq_false_iff.mpr free))
                slot
  | destroy =>
      simp only [enter]
      split
      · exact ⟨.same rfl fun _ => rfl, trivial⟩
      · next free => exact takeOver_effect rfl (.inr (Bool.eq_false_iff.mpr free)) slot
  | drop => exact takeOver_effect rfl (.inl rfl) slot

theorem step_effect (fits : call.Fits phase)
    (slot : ∀ task, schedule.task = some task → task.hasHandle = true) :
    Effect call maker phase schedule (call.step maker phase schedule).1
        (call.step maker phase schedule).2.1 ∧
      call.Fits (call.step maker phase schedule).1 := by
  cases phase with
  | asking => exact enter_effect slot
  | stopping task stage dropped =>
      cases stage with
      | taking =>
          obtain ⟨accepted, handle, drops⟩ := fits
          simp only [step]
          split
          · next has =>
              refine ⟨.same ?_ nofun, accepted, rfl, ?_⟩
              · simp [Phase.burden?, has]
              · simpa [handle] using has
          · next spent =>
              have last : call.isDrop = false ∧ dropped = true := by
                cases call with
                | drop => simp [handle, isDrop, drops rfl] at spent
                | start | destroy => simpa [handle, isDrop] using spent
              rw [afterStop, if_pos last.2]
              exact onward_effect accepted last.1 (by simp [Phase.burden?, spent])
      | raising => exact ⟨.raised rfl rfl, fits⟩
      | waking => exact ⟨.woke rfl rfl, fits⟩
      | joining =>
          obtain ⟨accepted, spent, rfl⟩ := fits
          simp only [step]
          split
          · next waited =>
              have ended : maker = some task.loop ∨ schedule.hasEnded task.loop = true := by
                simpa using waited
              cases call with
              | drop => exact ⟨.joined rfl ended (.inr ⟨rfl, rfl⟩), fun refused => nomatch refused⟩
              | start | destroy =>
                  refine ⟨.joined rfl ended (.inl ?_), accepted, ?_, fun drops => nomatch drops⟩
                  · simp [afterStop, isDrop, Phase.burden?, spent]
                  · simp [isDrop, spent]
          · exact ⟨.same rfl fun _ => rfl, accepted, spent, rfl⟩
  | sweeping | launching | finished => exact ⟨.same rfl fun _ => rfl, fits⟩
  | keeping task => exact ⟨.kept rfl fits.2.2 rfl, fun refused => by simp [fits.1] at refused⟩

theorem afterSweep_effect (fits : call.Fits phase) (swept : Except ClockFault Unit) :
    Effect call maker phase schedule (afterSweep swept phase schedule).1
        (afterSweep swept phase schedule).2 ∧
      call.Fits (afterSweep swept phase schedule).1 := by
  cases phase with
  | sweeping =>
      cases swept with
      | ok => exact ⟨.same rfl nofun, fits⟩
      | error => exact ⟨.left rfl rfl, fun refused => by simp [fits.1] at refused⟩
  | _ => exact ⟨.same rfl fun _ => rfl, fits⟩

theorem afterLaunch_effect (fits : call.Fits phase) (launched : Except String Unit) :
    Effect call maker phase schedule (call.afterLaunch launched phase schedule).1
        (call.afterLaunch launched phase schedule).2.1 ∧
      call.Fits (call.afterLaunch launched phase schedule).1 := by
  cases phase with
  | launching =>
      cases call with
      | start =>
          cases launched with
          | ok => exact ⟨.launched rfl rfl, fits.1, rfl, rfl⟩
          | error => exact ⟨.left rfl rfl, fun refused => by simp [fits.1] at refused⟩
      | destroy | drop => exact ⟨.same rfl fun _ => rfl, fits⟩
  | _ => exact ⟨.same rfl fun _ => rfl, fits⟩

end ScheduleCall

end SingleFlight
