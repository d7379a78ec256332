import SingleFlight.Event
import SingleFlight.Store.Basic

namespace SingleFlight

universe u

/-- What a step asks of the clock. -/
inductive ClockUse where
  | unused
  | monotonic
  | wall
  deriving DecidableEq, Repr

/-- What the clock shows at a step. -/
structure Moment where
  monotonic : Reading
  wall : Except ClockFault WallTime

/-- What a step finds on a clock of the program. -/
def Clock.moment (clock : Clock) : Moment := ⟨clock.now, clock.wall⟩

-- Between two steps the rest of the program may act on the cache. A procedure rests when it is over
-- or waits for what is not its own step. It goes two legs at most, as what is left for the second
-- may be known only at the end of the first.

/-- A procedure with its phases. -/
structure Procedure (Phase : Type) where
  clockUse : Phase → Cache → ClockUse
  step : Phase → Moment → Cache → Phase × Cache × List Event
  remaining : Phase → Nat

/-- A program that a procedure runs in, by the actions it offers. -/
structure Host (m : Type → Type u) where
  cache : m Cache
  setCache : Cache → m Unit
  read : m Reading
  wall : m (Except ClockFault WallTime)
  report : List Event → m Unit

/-- What a step finds on the clock of a program. -/
def Host.moment {m : Type → Type u} [Monad m] (host : Host m) : ClockUse → m Moment
  | .monotonic => return ⟨← host.read, .error .wallBeyondPlatform⟩
  | .wall => return ⟨.error .instantBeyondPlatform, ← host.wall⟩
  | .unused => return ⟨.error .instantBeyondPlatform, .error .wallBeyondPlatform⟩

namespace Procedure

variable {Phase : Type} {m : Type → Type u} [Monad m]

/-- One step inside a program, on the cache after the reading. -/
def stepIn (procedure : Procedure Phase) (host : Host m) (phase : Phase) : m Phase := do
  let moment ← host.moment (procedure.clockUse phase (← host.cache))
  let (next, cache, events) := procedure.step phase moment (← host.cache)
  host.setCache cache
  host.report events
  return next

/-- At most `count` steps inside a program, until the procedure rests. -/
def stepsIn (procedure : Procedure Phase) (host : Host m) : Nat → Phase → m Phase
  | 0, phase => return phase
  | count + 1, phase =>
    if procedure.remaining phase = 0 then return phase
    else do procedure.stepsIn host count (← procedure.stepIn host phase)

/-- One leg of a procedure inside a program. -/
def legIn (procedure : Procedure Phase) (host : Host m) (phase : Phase) : m Phase :=
  procedure.stepsIn host (procedure.remaining phase) phase

/-- Runs a procedure inside a program until it rests. -/
def runIn (procedure : Procedure Phase) (host : Host m) (phase : Phase) : m Phase := do
  procedure.legIn host (← procedure.legIn host phase)

end Procedure

/-- A cache on its own, on a clock that stands still. -/
def Host.still (moment : Moment) : Host (StateM (Cache × List Event)) where
  cache := Prod.fst <$> get
  setCache cache := modify fun state => (cache, state.2)
  read := return moment.monotonic
  wall := return moment.wall
  report events := modify fun state => (state.1, state.2 ++ events)

/-- Runs a procedure with nothing in between, until it rests. -/
def Procedure.undisturbed {Phase : Type} (procedure : Procedure Phase) (moment : Moment)
    (phase : Phase) (cache : Cache) : Phase × Cache × List Event :=
  (procedure.runIn (Host.still moment) phase).run (cache, [])

end SingleFlight
