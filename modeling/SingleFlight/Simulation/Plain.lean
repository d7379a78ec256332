import Std.Data.HashMap
import SingleFlight.Simulation.Crew
import SingleFlight.Simulation.Render

namespace SingleFlight.Simulation.Plain

/-- The time to live of a content, and how long rendering takes. -/
structure Terms where
  ttl : Duration
  produceTime : Duration
  deriving DecidableEq, Repr

/-- When the content of each key was stored. -/
abbrev Shared := Std.HashMap String Instant

/-- Whether the content of a key can still be served. -/
def isFresh (ttl : Duration) (stored : Shared) (key : String) (now : Instant) : Bool :=
  match stored[key]? with
  | some time => decide (now.since time < ttl)
  | none => false

/-- Where a visit stands. -/
inductive Phase where
  | looking
  | rendering
  | storing
  | finished (counted : Tally)
  deriving DecidableEq, Repr

/-- One request on its way. -/
structure Visit where
  request : Request
  phase : Phase
  deriving DecidableEq, Repr

/-- Goes on after rendering. -/
def afterRendering : Except RenderError String → Phase
  | .ok _ => .storing
  | .error (.failed _) => .finished Tally.zero.addProduction.addFailure
  | .error (.crashed _) => .finished Tally.zero.addProduction.addAbandoned

def step (terms : Terms) (visit : Visit) (now : Instant) (stored : Shared) : Visit × Shared :=
  let { key, outcome } := visit.request
  match visit.phase with
  | .looking =>
    let fresh := isFresh terms.ttl stored key now
    ({ visit with phase := if fresh then .finished Tally.zero.addCached else .rendering }, stored)
  | .rendering => ({ visit with phase := afterRendering (render key outcome) }, stored)
  | .storing =>
    ({ visit with phase := .finished Tally.zero.addProduction }, stored.insert key now)
  | .finished _ => (visit, stored)

def cost (terms : Terms) (visit : Visit) : Duration :=
  match visit.phase with
  | .rendering => terms.produceTime
  | .looking | .storing | .finished _ => .zero

def ending? (visit : Visit) : Option VisitEnd :=
  match visit.phase with
  | .finished counted => some (.counted counted)
  | .looking | .rendering | .storing => none

/-- Requests as a service. No visit waits for another one. -/
def service (terms : Terms) : Service Shared Visit where
  enter _ request := ⟨request, .looking⟩
  step := step terms
  isParked _ _ := false
  expire visit := visit
  cost := cost terms
  patience := none
  ending? := ending?
  turns := 3

end SingleFlight.Simulation.Plain
