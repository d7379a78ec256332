import SingleFlight.Time.Clock

namespace SingleFlight.Scenario

/-- Clocks moved by hand, by their readings too, or by the system. -/
inductive ClockKind where
  | driven
  | ticking
  | system
  deriving DecidableEq, Repr

/-- The clock that a scenario begins with. -/
structure ClockSetting where
  kind : ClockKind
  tick : Duration
  wallStart : WallTime
  deriving DecidableEq, Repr

/-- The clock of a scenario; each monotonic reading moves it on by a tick. -/
structure Timer where
  kind : ClockKind
  clock : Clock
  tick : Duration
  /-- Whether a ticking clock has failed in the middle of a call. -/
  spoiled : Bool

namespace Timer

/-- The real time that a reading of the system clock takes. -/
def readingCost : Duration := ⟨1000⟩

/-- The wall time at the start of a clock that is not told it. -/
def presentWall : WallTime := ⟨1760000000 * Duration.nanosPerSecond⟩

/-- The clock of a setting at its start. -/
def starting (setting : ClockSetting) : Timer :=
  match setting.kind with
  | .driven => ⟨.driven, ⟨.zero, presentWall⟩, .zero, false⟩
  | .ticking => ⟨.ticking, ⟨.zero, setting.wallStart⟩, setting.tick, false⟩
  | .system => ⟨.system, ⟨.zero, presentWall⟩, readingCost, false⟩

/-- What a spoiled clock fails with. -/
def spoiledFault : ClockFault :=
  .foreign "called `Result::unwrap()` on an `Err` value: PoisonError \x7b .. \x7d"

/-- A call on the clock. A failure spoils a ticking clock for good. -/
def use {α : Type} (timer : Timer) (call : Clock → Except ClockFault (α × Clock)) :
    Except ClockFault α × Timer :=
  if timer.spoiled then (.error spoiledFault, timer)
  else match call timer.clock with
    | .ok (value, clock) => (.ok value, { timer with clock })
    | .error fault => (.error fault, { timer with spoiled := timer.kind = .ticking })

/-- A monotonic reading: the time shown, then one tick. -/
def read (timer : Timer) : Reading × Timer := timer.use fun clock => do
  let now ← clock.now
  return (now, ← clock.advance timer.tick)

/-- A reading of the wall time, which does not tick. -/
def wall (timer : Timer) : Except ClockFault WallTime × Timer := timer.use fun clock =>
  return (← clock.wall, clock)

/-- Moves the clock forward. -/
def advance (timer : Timer) (amount : Duration) : Except ClockFault Unit × Timer :=
  timer.use fun clock => return ((), ← clock.advance amount)

/-- Sets the time since the start, also backwards. -/
def set (timer : Timer) (elapsed : Duration) : Except ClockFault Unit × Timer :=
  timer.use fun clock => return ((), { clock with elapsed })

/-- Some real time passes, and with it the time of the system clock. -/
def pass (timer : Timer) (passed : Duration) : Timer :=
  if timer.kind = .system then
    { timer with clock.elapsed := ⟨timer.clock.elapsed.nanos + passed.nanos⟩ }
  else timer

end Timer

end SingleFlight.Scenario
