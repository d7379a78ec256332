import SingleFlight.Capacity
import SingleFlight.Error

namespace SingleFlight

/-- The settings of a store. -/
structure Config where
  initialCapacity : Nat
  loadFactor : Float32
  segments : Nat
  sweepInterval : Option Duration
  maxLockHold : Duration

namespace Config

/-- The default settings with a count of segments. -/
def standard (segments : Nat) : Config where
  initialCapacity := 10000
  loadFactor := 0.75
  segments := segments
  sweepInterval := some (.ofSeconds 30)
  maxLockHold := .ofSeconds 90

/-- One change to a configuration. -/
inductive Setting where
  | initialCapacity (count : Nat)
  | segments (count : Nat)
  | loadFactor (ratio : Float32)
  | sweepInterval (interval : Option Duration)
  | withoutReclaimer
  | maxLockHold (ceiling : Duration)

def apply (config : Config) : Setting → Config
  | .initialCapacity count => { config with initialCapacity := count }
  | .segments count => { config with segments := count }
  | .loadFactor ratio => { config with loadFactor := ratio }
  | .sweepInterval interval => { config with sweepInterval := interval }
  | .withoutReclaimer => { config with sweepInterval := none }
  | .maxLockHold ceiling => { config with maxLockHold := ceiling }

/-- The configurations from the first one on, one after each setting. -/
def history (config : Config) : List Setting → List Config
  | [] => [config]
  | setting :: rest => config :: (config.apply setting).history rest

/-- Equality of all settings; a load factor that is no number equals nothing. -/
def equals (a b : Config) : Bool :=
  a.initialCapacity == b.initialCapacity && a.loadFactor == b.loadFactor
    && a.segments == b.segments && a.sweepInterval == b.sweepInterval
    && a.maxLockHold == b.maxLockHold

/-- The first fault of a configuration. -/
def fault? (config : Config) : Option ConfigError :=
  if config.segments = 0 then some .zeroSegments
  else if !(0.0 < config.loadFactor && config.loadFactor ≤ 1.0) then
    some (.loadFactor config.loadFactor)
  else if config.sweepInterval = some .zero then some .zeroSweepInterval
  else if config.maxLockHold = .zero then some .zeroLockHold
  else none

/-- The entries that one segment has room for from the start. -/
def segmentCapacity (config : Config) : Nat :=
  let entries := config.initialCapacity.toUInt64.toFloat / config.loadFactor.toFloat
  (entries.ceil.toUInt64.toNat + config.segments - 1) / config.segments

/-- The bytes of a segment beside its slots. -/
def segmentBytes : Nat := 48

/-- The bytes of a slot in the table of a segment. -/
def slotBytes : Nat := 32

/-- The fault of a configuration that asks for too much room. -/
def capacityFault? (config : Config) : Option CapacityFault :=
  CapacityFault.ofList? segmentBytes config.segments
    <|> CapacityFault.ofTable? slotBytes config.segmentCapacity

def describe (config : Config) : String :=
  Text.record "FragmentStoreConfig"
    [("initial_capacity", toString config.initialCapacity),
      ("load_factor", Decimal.Layout.exact.render (.ofSingle config.loadFactor)),
      ("segments", toString config.segments),
      ("sweep_interval", Text.optional Duration.text config.sweepInterval),
      ("max_lock_hold", config.maxLockHold.text)]

end Config

end SingleFlight
