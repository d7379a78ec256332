import SingleFlight.Config
import SingleFlight.Simulation.Strategy

namespace SingleFlight.Simulation

structure Settings where
  workers : Nat
  /-- The requests of each worker. -/
  requests : Nat
  keys : Nat
  /-- The exponent of the law of popularity. -/
  skew : Float
  ttl : Duration
  /-- How long the backend takes. -/
  produceTime : Duration
  failureRate : Float
  /-- The share of producers that die. -/
  abandonRate : Float
  /-- How long a reader waits for a first content. -/
  wait : Duration
  /-- How long a lock may be held. -/
  lockHold : Duration
  sweepInterval : Duration
  strategies : List Strategy
  seed : UInt64

/-- Why a simulation cannot be run. -/
inductive SimulationError where
  | noWorker
  | noRequest
  | noKey
  | failureRate (given : Float)
  | abandonRate (given : Float)
  /-- Failures and deaths are more than all productions. -/
  | rateSum
  | noStrategy
  | store (error : ConfigError)
  /-- A strategy asks for more room than there can be. -/
  | capacity (fault : CapacityFault)
  /-- A cache that joins misses keeps nothing for longer than a thousand years. -/
  | longLife

def rateMessage (name : String) (given : Float) : String :=
  name ++ " must be between 0 and 1, got " ++ Decimal.Layout.plain.render (.ofFloat given)

def SimulationError.message : SimulationError → String
  | noWorker => "at least one worker thread is required"
  | noRequest => "at least one request per thread is required"
  | noKey => "at least one key is required"
  | failureRate given => rateMessage "failure rate" given
  | abandonRate given => rateMessage "abandon rate" given
  | rateSum => "failure rate and abandon rate must not add up to more than 1"
  | noStrategy => "no strategies selected"
  | store error => "failed to start fragment store: " ++ error.message
  | capacity fault => fault.message
  | longLife => "time_to_live is longer than 1000 years"

/-- Whether a simulation breaks off with a crash instead of a refusal. -/
def SimulationError.isCrash : SimulationError → Bool
  | capacity _ | longLife => true
  | noWorker | noRequest | noKey | failureRate _ | abandonRate _ | rateSum | noStrategy
  | store _ => false

namespace Settings

/-- Whether a number is a share of all. -/
def isRate (given : Float) : Bool := 0.0 ≤ given && given ≤ 1.0

/-- The first fault of the settings. -/
def fault? (settings : Settings) : Option SimulationError :=
  if settings.workers = 0 then some .noWorker
  else if settings.requests = 0 then some .noRequest
  else if settings.keys = 0 then some .noKey
  else if !isRate settings.failureRate then some (.failureRate settings.failureRate)
  else if !isRate settings.abandonRate then some (.abandonRate settings.abandonRate)
  else if 1.0 < settings.failureRate + settings.abandonRate then some .rateSum
  else if settings.strategies.isEmpty then some .noStrategy
  else none

/-- The requests of all workers. -/
def totalRequests (settings : Settings) : Nat := settings.workers * settings.requests

/-- The segments of the store that is put under load. -/
def segments : Nat := 16

/-- The configuration of the store that is put under load. -/
def storeConfig (settings : Settings) : Config :=
  { Config.standard segments with
    initialCapacity := settings.keys
    sweepInterval := some settings.sweepInterval
    maxLockHold := settings.lockHold }

end Settings

end SingleFlight.Simulation
