import SingleFlight.Simulation.Tally
import SingleFlight.Simulation.Workload
import SingleFlight.Time.Clock

namespace SingleFlight.Simulation

/-- How a visit ends: with its counts, or with the worker's death. -/
inductive VisitEnd where
  | counted (tally : Tally)
  | crashed
  deriving DecidableEq, Repr

/-- How requests are served, in steps on what the workers share. -/
structure Service (Shared Visit : Type) where
  /-- What a worker sets out with for a request. -/
  enter : Nat → Request → Visit
  step : Visit → Instant → Shared → Visit × Shared
  /-- Whether a visit waits for what another worker does. -/
  isParked : Visit → Shared → Bool
  /-- The time to wait is up. -/
  expire : Visit → Visit
  /-- How long the next step of a visit takes. -/
  cost : Visit → Duration
  /-- How long a visit waits, if its wait has an end of its own. -/
  patience : Option Duration
  ending? : Visit → Option VisitEnd
  /-- The most turns of a visit that nobody disturbs. -/
  turns : Nat

/-- What a worker is at. -/
inductive Duty (Visit : Type) where
  | idle
  | serving (since : Instant) (visit : Visit)
  /-- The worker has died, and what it counted with it. -/
  | lost

/-- A worker: what it draws, how much is left, and its counts. -/
structure Worker (Visit Source : Type) where
  workload : Workload Source
  left : Nat
  duty : Duty Visit
  tally : Tally
  latencies : LatencyTracker

namespace Worker

variable {Shared Visit Source : Type}

/-- A worker before its first request. -/
def ofWorkload (workload : Workload Source) (requests : Nat) : Worker Visit Source :=
  ⟨workload, requests, .idle, .zero, .empty⟩

/-- Whether a worker will do nothing any more. -/
def isDone (worker : Worker Visit Source) : Bool :=
  match worker.duty with
  | .idle => worker.left == 0
  | .serving _ _ => false
  | .lost => true

def isLost (worker : Worker Visit Source) : Bool :=
  match worker.duty with
  | .lost => true
  | .idle | .serving _ _ => false

/-- The visit that a worker is at. -/
def visit? (worker : Worker Visit Source) : Option Visit :=
  match worker.duty with
  | .serving _ visit => some visit
  | .idle | .lost => none

/-- Draws a request and sets out with it, if one is left. -/
def draw [Generator Source] (worker : Worker Visit Source) (service : Service Shared Visit)
    (number : Nat) (now : Instant) : Worker Visit Source :=
  match worker.left with
  | 0 => worker
  | left + 1 =>
    let (request, workload) := worker.workload.next
    { worker with workload, left, duty := .serving now (service.enter number request) }

/-- Counts a visit that is over, and records how long it took. -/
def settle [Generator Source] (worker : Worker Visit Source) (counted : Tally)
    (latency : Duration) : Worker Visit Source :=
  let (latencies, source) :=
    worker.latencies.record (min latency.nanos latencyLimit) worker.workload.source
  { worker with
    workload := { worker.workload with source }
    duty := .idle
    tally := (worker.tally.absorb counted).addRequest
    latencies }

/-- The next step of a worker. -/
def step [Generator Source] (worker : Worker Visit Source) (service : Service Shared Visit)
    (number : Nat) (now : Instant) (shared : Shared) : Worker Visit Source × Shared :=
  match worker.duty with
  | .idle => (worker.draw service number now, shared)
  | .lost => (worker, shared)
  | .serving since visit =>
    match service.ending? visit with
    | some (.counted tally) => (worker.settle tally (now.since since), shared)
    | some .crashed => ({ worker with duty := .lost }, shared)
    | none =>
      let (next, shared) := service.step visit now shared
      ({ worker with duty := .serving since next }, shared)

/-- The time of a worker to wait is up. -/
def expire (worker : Worker Visit Source) (service : Service Shared Visit) :
    Worker Visit Source :=
  match worker.duty with
  | .serving since visit => { worker with duty := .serving since (service.expire visit) }
  | .idle | .lost => worker

end Worker

/-- The workers and what they share. -/
structure Crew (Shared Visit Source : Type) where
  shared : Shared
  workers : List (Worker Visit Source)

/-- What happens next: a step of a worker, or the end of its wait. -/
inductive Turn where
  | step (worker : Nat)
  | expire (worker : Nat)
  deriving DecidableEq, Repr

namespace Crew

variable {Shared Visit Source : Type} [Generator Source]

/-- One turn at a time of the clock. -/
def take (crew : Crew Shared Visit Source) (service : Service Shared Visit) (now : Instant) :
    Turn → Crew Shared Visit Source
  | .step number =>
    match crew.workers[number]? with
    | none => crew
    | some worker =>
      let (worker, shared) := worker.step service number now crew.shared
      ⟨shared, crew.workers.set number worker⟩
  | .expire number =>
    match crew.workers[number]? with
    | none => crew
    | some worker => { crew with workers := crew.workers.set number (worker.expire service) }

/-- Whether no worker will do anything any more. -/
def isDone (crew : Crew Shared Visit Source) : Bool := crew.workers.all Worker.isDone

/-- The workers that have not died. -/
def survivors (crew : Crew Shared Visit Source) : List (Worker Visit Source) :=
  crew.workers.filter fun worker => !worker.isLost

/-- The counters of the survivors together. -/
def tally (crew : Crew Shared Visit Source) : Tally :=
  (crew.survivors.map Worker.tally).foldl Tally.absorb .zero

/-- The latencies of the survivors together. -/
def latency (crew : Crew Shared Visit Source) : LatencySummary :=
  LatencyTracker.merge (crew.survivors.map Worker.latencies)

/-- How long a look at the clock and a step beside it take. -/
def stepTime : Duration := ⟨1000⟩

/-- The next undisturbed turn of a worker and its time, if it has one. -/
def turnOf (crew : Crew Shared Visit Source) (service : Service Shared Visit) (number : Nat)
    (worker : Worker Visit Source) : Option (Turn × Duration) :=
  match worker.visit? with
  | some visit =>
    if service.isParked visit crew.shared then
      service.patience.map fun wait => (.expire number, wait)
    else some (.step number, service.cost visit)
  | none => if worker.isDone then none else some (.step number, .zero)

/-- A crew on its own, with the time of each worker's last turn. -/
structure Shift (Shared Visit Source : Type) where
  crew : Crew Shared Visit Source
  now : Instant
  lastTurns : List Instant

namespace Shift

/-- When the next turn of a worker is due, and the turn. -/
def due? (shift : Shift Shared Visit Source) (service : Service Shared Visit) (number : Nat) :
    Option (Instant × Turn) := do
  let worker ← shift.crew.workers[number]?
  let last ← shift.lastTurns[number]?
  let (turn, cost) ← shift.crew.turnOf service number worker
  return (⟨last.nanos + cost.nanos⟩, turn)

/-- The worker whose next turn is due first, with that turn. -/
def firstDue (shift : Shift Shared Visit Source) (service : Service Shared Visit) :
    Option (Nat × Instant × Turn) :=
  (List.range shift.crew.workers.length).foldl (fun first number =>
    match first, shift.due? service number with
    | first, none => first
    | none, some (time, turn) => some (number, time, turn)
    | some (other, least, next), some (time, turn) =>
      if time.nanos < least.nanos then some (number, time, turn) else some (other, least, next))
    none

/-- The next turn: the worker at hand goes on as long as it can. -/
def next? (shift : Shift Shared Visit Source) (service : Service Shared Visit) (current : Nat) :
    Option (Nat × Instant × Turn) :=
  match shift.due? service current with
  | some (time, turn) =>
    if time.nanos ≤ shift.now.nanos then some (current, time, turn) else shift.firstDue service
  | none => shift.firstDue service

/-- Takes at most so many turns, each at the end of its time. -/
def run (service : Service Shared Visit) :
    Nat → Nat → Shift Shared Visit Source → Shift Shared Visit Source
  | 0, _, shift => shift
  | turns + 1, current, shift =>
    match shift.next? service current with
    | none => shift
    | some (number, time, turn) =>
      let now : Instant := ⟨max shift.now.nanos time.nanos + stepTime.nanos⟩
      run service turns number
        ⟨shift.crew.take service now turn, now, shift.lastTurns.set number now⟩

end Shift

/-- Lets the workers do all their requests; gives the time that they take. -/
def run (crew : Crew Shared Visit Source) (service : Service Shared Visit) :
    Instant × Crew Shared Visit Source :=
  let turns := crew.workers.foldl
    (fun turns worker => turns + (worker.left + 1) * (service.turns + 2)) 0
  let start : Shift Shared Visit Source := ⟨crew, ⟨0⟩, crew.workers.map fun _ => ⟨0⟩⟩
  let shift := Shift.run service turns 0 start
  (shift.now, shift.crew)

end Crew

end SingleFlight.Simulation
