import SingleFlight.Simulation.Plain

namespace SingleFlight.Simulation.Joined

/-- When contents were stored, the flights of keys, and their results. -/
structure Shared where
  stored : Plain.Shared
  flights : Std.HashMap String Nat
  results : Array (Option (Except RenderError String))

/-- No content and no flight. -/
def Shared.start : Shared := ⟨{}, {}, #[]⟩

/-- Where a visit stands. -/
inductive Phase where
  | looking
  | rendering (flight : Nat)
  | joining (flight : Nat)
  | finished (counted : Tally)
  deriving DecidableEq, Repr

/-- One request on its way. -/
structure Visit where
  request : Request
  phase : Phase
  deriving DecidableEq, Repr

/-- What a result adds to the counters of a visit. -/
def outcomeOf (tally : Tally) : Except RenderError String → Tally
  | .ok _ => if tally.productions = 0 then tally.addCached else tally
  | .error (.failed _) => tally.addFailure
  | .error (.crashed _) => tally.addAbandoned

/-- Takes the content, joins the flight of the key, or sets out on one. -/
def look (ttl : Duration) (key : String) (now : Instant) (shared : Shared) : Phase × Shared :=
  if Plain.isFresh ttl shared.stored key now then (.finished Tally.zero.addCached, shared)
  else
    match shared.flights[key]? with
    | some flight => (.joining flight, shared)
    | none =>
      let flight := shared.results.size
      (.rendering flight,
        { shared with
          flights := shared.flights.insert key flight, results := shared.results.push none })

/-- Ends a flight: its result is there, and a content is stored. -/
def land (key : String) (flight : Nat) (result : Except RenderError String) (now : Instant)
    (shared : Shared) : Shared where
  stored := match result with
    | .ok _ => shared.stored.insert key now
    | .error _ => shared.stored
  flights := shared.flights.erase key
  results := shared.results.setIfInBounds flight (some result)

/-- The result of a flight, once there is one. -/
def Shared.result? (shared : Shared) (flight : Nat) : Option (Except RenderError String) :=
  shared.results[flight]?.join

def step (terms : Plain.Terms) (visit : Visit) (now : Instant) (shared : Shared) :
    Visit × Shared :=
  let { key, outcome } := visit.request
  match visit.phase with
  | .looking =>
    let (phase, shared) := look terms.ttl key now shared
    ({ visit with phase }, shared)
  | .rendering flight =>
    let result := render key outcome
    ({ visit with phase := .finished (outcomeOf Tally.zero.addProduction result) },
      land key flight result now shared)
  | .joining flight =>
    match shared.result? flight with
    | some result => ({ visit with phase := .finished (outcomeOf .zero result) }, shared)
    | none => (visit, shared)
  | .finished _ => (visit, shared)

/-- Whether a visit waits for a flight to end. -/
def isParked (visit : Visit) (shared : Shared) : Bool :=
  match visit.phase with
  | .joining flight => (shared.result? flight).isNone
  | .looking | .rendering _ | .finished _ => false

def cost (terms : Plain.Terms) (visit : Visit) : Duration :=
  match visit.phase with
  | .rendering _ => terms.produceTime
  | .looking | .joining _ | .finished _ => .zero

def ending? (visit : Visit) : Option VisitEnd :=
  match visit.phase with
  | .finished counted => some (.counted counted)
  | .looking | .rendering _ | .joining _ => none

/-- Requests as a service. A wait for a flight has no end. -/
def service (terms : Plain.Terms) : Service Shared Visit where
  enter _ request := ⟨request, .looking⟩
  step := step terms
  isParked := isParked
  expire visit := visit
  cost := cost terms
  patience := none
  ending? := ending?
  turns := 2

end SingleFlight.Simulation.Joined
