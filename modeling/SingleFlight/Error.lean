import SingleFlight.Time.Duration
import SingleFlight.Decimal.Notation
import SingleFlight.Text.Quoted

namespace SingleFlight

/-- A reader gave up before the first commit. -/
structure TimedOut where
  waited : Duration
  deriving DecidableEq, Repr

def TimedOut.message (error : TimedOut) : String :=
  "timed out after " ++ error.waited.text ++ " waiting for fragment content"

def TimedOut.describe (error : TimedOut) : String :=
  Text.record "TimedOut" [("waited", error.waited.text)]

/-- Why a configuration is refused. -/
inductive ConfigError where
  | zeroSegments
  | loadFactor (given : Float32)
  | zeroSweepInterval
  | zeroLockHold

def ConfigError.message : ConfigError → String
  | zeroSegments => "segment count must be greater than zero"
  | loadFactor given =>
    "load factor must be within (0, 1], got "
      ++ Decimal.Layout.plain.render (Decimal.Value.ofSingle given)
  | zeroSweepInterval => "sweep interval must be greater than zero"
  | zeroLockHold => "max lock hold must be greater than zero"

def ConfigError.describe : ConfigError → String
  | zeroSegments => "ZeroSegments"
  | loadFactor given =>
    Text.wrapped "LoadFactor" (Decimal.Layout.exact.render (Decimal.Value.ofSingle given))
  | zeroSweepInterval => "ZeroSweepInterval"
  | zeroLockHold => "ZeroLockHold"

/-- Why a store cannot be made or swept in the background. -/
inductive CacheError where
  | config (error : ConfigError)
  | spawn (reason : String)

def CacheError.message : CacheError → String
  | config error => error.message
  | spawn _ => "failed to spawn reclaimer thread"

/-- The exact form, where it does not depend on the system. -/
def CacheError.describe? : CacheError → Option String
  | config error => some (Text.wrapped "Config" error.describe)
  | spawn _ => none

def CacheError.source? : CacheError → Option String
  | config _ => none
  | spawn reason => some reason

/-- Why a name leads to no cache. -/
inductive RegistryError where
  | empty
  | unknownStrategy (name : String)
  deriving DecidableEq, Repr

def RegistryError.message : RegistryError → String
  | empty => "no fragment cache strategy registered"
  | unknownStrategy name => "unknown fragment cache strategy `" ++ name ++ "`"

def RegistryError.describe : RegistryError → String
  | empty => "Empty"
  | unknownStrategy name => Text.wrapped "UnknownStrategy" (Text.quoted name)

/-- Why a fetch has no content; `failure` is the producer's own error. -/
inductive FetchError (failure : Type) where
  | timedOut (error : TimedOut)
  | producer (error : failure)
  | strategy (error : RegistryError)
  deriving DecidableEq, Repr

def FetchError.message {failure : Type} : FetchError failure → String
  | timedOut error => error.message
  | producer _ => "fragment producer failed"
  | strategy error => error.message

def FetchError.describe {failure : Type} (inner : failure → String) :
    FetchError failure → String
  | timedOut error => Text.wrapped "TimedOut" error.describe
  | producer error => Text.wrapped "Producer" (inner error)
  | strategy error => Text.wrapped "Strategy" error.describe

def FetchError.source? {failure : Type} (inner : failure → String) :
    FetchError failure → Option String
  | producer error => some (inner error)
  | timedOut _ | strategy _ => none

end SingleFlight
