import SingleFlight.Time.Clock

namespace SingleFlight

/-- Where a reclaimer loop stands. A deadline that is missing never comes. -/
inductive LoopPhase where
  /-- Before a deadline is taken. -/
  | starting
  /-- Before the test of the flag. -/
  | testing (deadline : Option Instant)
  | waiting (deadline : Option Instant)
  /-- Out of the wait at the deadline, before the flag is tested again. -/
  | due
  /-- Let through by the second test: the sweep runs. -/
  | ticking
  | finished
  deriving DecidableEq, Repr

/-- A reclaimer loop and the flag that stops it. -/
structure ReclaimerLoop where
  interval : Duration
  stopRequested : Bool
  phase : LoopPhase
  deriving DecidableEq, Repr

namespace ReclaimerLoop

/-- A loop that has just been started. -/
def spawn (interval : Duration) : ReclaimerLoop := ⟨interval, false, .starting⟩

/-- One step of the loop by itself, at a reading. -/
def step (loop : ReclaimerLoop) (now : Instant) : ReclaimerLoop :=
  match loop.phase with
  | .starting => { loop with phase := .testing (now.after? loop.interval) }
  | .testing deadline =>
    { loop with phase := if loop.stopRequested then .finished else .waiting deadline }
  | .waiting (some deadline) =>
    if deadline.nanos ≤ now.nanos then { loop with phase := .due } else loop
  | .waiting none => loop
  | .due => { loop with phase := if loop.stopRequested then .finished else .ticking }
  | .ticking => loop
  | .finished => loop

/-- The sweep has ended; without a store the loop ends too. -/
def tickDone (loop : ReclaimerLoop) (storeAlive : Bool) : ReclaimerLoop :=
  match loop.phase with
  | .ticking => { loop with phase := if storeAlive then .starting else .finished }
  | _ => loop

-- The flag and the signal are under the mutex with which the loop enters its wait, and it tests the
-- flag on both sides of the wait.

/-- The order to stop: the flag, which a waiting loop does not see. -/
def raise (loop : ReclaimerLoop) : ReclaimerLoop := { loop with stopRequested := true }

/-- The signal: it ends the wait, and the loop tests the flag again. -/
def wake (loop : ReclaimerLoop) : ReclaimerLoop :=
  match loop.phase with
  | .waiting deadline => { loop with phase := .testing deadline }
  | _ => loop

/-- Whether the loop still runs. -/
def isRunning (loop : ReclaimerLoop) : Bool := loop.phase != .finished

/-- Brings a new or woken loop into its wait or to its end. -/
def settle (loop : ReclaimerLoop) (now : Instant) : ReclaimerLoop := (loop.step now).step now

/-- The instant at which the loop wants to sweep next. -/
def due? (loop : ReclaimerLoop) : Option Instant :=
  match loop.phase with
  | .waiting deadline => deadline
  | _ => none

end ReclaimerLoop

end SingleFlight
