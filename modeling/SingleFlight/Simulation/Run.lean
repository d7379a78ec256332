import SingleFlight.Simulation.Guarded
import SingleFlight.Simulation.Joined
import SingleFlight.Simulation.Results
import SingleFlight.Simulation.Settings

namespace SingleFlight.Simulation

namespace Settings

/-- Breaks off where there is a fault. -/
def crashIf : Option CapacityFault → Except SimulationError Unit
  | some fault => .error (.capacity fault)
  | none => .ok ()

/-- The workers before their first request. -/
def workersOf {Visit : Type} (settings : Settings) :
    Except SimulationError (List (Worker Visit ChaCha.Source)) := do
  crashIf (Popularity.capacityFault? settings.keys)
  let popularity := Popularity.ofSkew settings.keys settings.skew
  return (List.range settings.workers).map fun number =>
    .ofWorkload
      (.ofSeed popularity settings.failureRate settings.abandonRate settings.seed number)
      settings.requests

/-- The result of a crew that is done. -/
def resultOf {Shared Visit : Type} (wallTime : Instant) (crew : Crew Shared Visit ChaCha.Source)
    (store : Option StoreSummary) : StrategyResult :=
  ⟨crew.tally, ⟨wallTime.nanos⟩, crew.latency, store⟩

/-- Why a simulation has no store. -/
def errorOf : StoreFault → SimulationError
  | .config error => .store error
  | .capacity fault => .capacity fault

/-- Runs the workers on a store of entries with a lock. -/
def runGuarded (settings : Settings) : Except SimulationError StrategyResult := do
  let store ← (Store.init settings.storeConfig (fun key => key.hash.toNat)).mapError errorOf
  let terms : Guarded.Terms := ⟨settings.ttl, settings.wait, settings.produceTime⟩
  let crew : Crew Guarded.Shared Guarded.Visit ChaCha.Source :=
    ⟨.start store settings.workers, ← settings.workersOf⟩
  let (wallTime, crew) := crew.run (Guarded.service terms)
  return resultOf wallTime crew (some crew.shared.summary)

/-- The bytes of a slot in the table of the plain cache. -/
def plainSlotBytes : Nat := 16

/-- Runs the workers on a plain cache. -/
def runPlain (settings : Settings) : Except SimulationError StrategyResult := do
  crashIf (CapacityFault.ofTable? plainSlotBytes settings.keys)
  let terms : Plain.Terms := ⟨settings.ttl, settings.produceTime⟩
  let crew : Crew Plain.Shared Plain.Visit ChaCha.Source := ⟨{}, ← settings.workersOf⟩
  let (wallTime, crew) := crew.run (Plain.service terms)
  return resultOf wallTime crew none

/-- The longest time to live of a joining cache: a thousand years. -/
def longestLife : Duration := .ofSeconds (1000 * 365 * 24 * 60 * 60)

/-- Runs the workers on a cache that joins misses. -/
def runJoined (settings : Settings) : Except SimulationError StrategyResult := do
  if longestLife < settings.ttl then throw .longLife
  let terms : Plain.Terms := ⟨settings.ttl, settings.produceTime⟩
  let crew : Crew Joined.Shared Joined.Visit ChaCha.Source := ⟨.start, ← settings.workersOf⟩
  let (wallTime, crew) := crew.run (Joined.service terms)
  return resultOf wallTime crew none

def runStrategy (settings : Settings) : Strategy → Except SimulationError StrategyResult
  | .fragment => settings.runGuarded
  | .naive => settings.runPlain
  | .moka => settings.runJoined

/-- What is shown before a strategy runs. -/
def announcement (strategy : Strategy) : String := "Running strategy: " ++ strategy.name

/-- Runs strategies one after the other, with what is shown meanwhile. -/
def runAll (settings : Settings) (results : Results) :
    List Strategy → List String × Except SimulationError Results
  | [] => ([], .ok results)
  | strategy :: rest =>
    match settings.runStrategy strategy with
    | .error error => ([announcement strategy], .error error)
    | .ok result =>
      let (lines, outcome) := settings.runAll (results.put strategy result) rest
      (announcement strategy :: lines, outcome)

/-- Runs a simulation, with the lines that are shown meanwhile. -/
def run (settings : Settings) : List String × Except SimulationError Results :=
  match settings.fault? with
  | some error => ([], .error error)
  | none => settings.runAll .none settings.strategies

end Settings

end SingleFlight.Simulation
