import SingleFlight.Time.Duration

namespace SingleFlight

/-- A monotonic time, in nanoseconds since the start of the clock. -/
structure Instant where
  nanos : Nat
  deriving DecidableEq, Repr, Inhabited

/-- The time from `earlier` to `later`, zero if `later` comes first. -/
def Instant.since (later earlier : Instant) : Duration := ⟨later.nanos - earlier.nanos⟩

/-- The first second that the platform's time types cannot hold. -/
def platformSeconds : Nat := Nat.pow 2 63

/-- The seconds that a machine is up when a clock starts on it. -/
def machineSeconds : Nat := 3600

/-- Whether the platform can hold an instant. -/
def Instant.isHeld (time : Instant) : Bool :=
  time.nanos / Duration.nanosPerSecond + machineSeconds < platformSeconds

/-- The instant that comes a duration later, if the platform can hold it. -/
def Instant.after? (now : Instant) (wait : Duration) : Option Instant :=
  let later : Instant := ⟨now.nanos + wait.nanos⟩
  if later.isHeld then some later else none

/-- A wall time, in nanoseconds since the start of 1970; negative before it. -/
structure WallTime where
  nanos : Int
  deriving DecidableEq, Repr, Inhabited

/-- Milliseconds since the start of 1970 as a floating-point number; zero before it. -/
def WallTime.epochMillis (time : WallTime) : Float :=
  if time.nanos < 0 then 0.0 else Duration.millisFloat ⟨time.nanos.toNat⟩

/-- Why a clock could not be read or moved. -/
inductive ClockFault where
  | instantBeyondPlatform
  | wallBeyondPlatform
  | offsetOverflow
  /-- A clock that is not one of ours fails in its own way. -/
  | foreign (message : String)
  deriving DecidableEq, Repr

def ClockFault.message : ClockFault → String
  | .instantBeyondPlatform => "overflow when adding duration to instant"
  | .wallBeyondPlatform => "overflow when adding duration to `SystemTime`"
  | .offsetOverflow => "overflow when adding durations"
  | .foreign message => message

/-- What reading the clock gives to the caller. -/
abbrev Reading := Except ClockFault Instant

/-- A clock that moves forward when it is told to, and not otherwise. -/
structure Clock where
  elapsed : Duration
  wallStart : WallTime
  deriving DecidableEq, Repr

namespace Clock

-- A failed reading unwinds its caller and leaves the clock as it was. The clock never goes back, so
-- all later readings fail too.

/-- The monotonic time shown now. -/
def now (clock : Clock) : Reading :=
  let shown : Instant := ⟨clock.elapsed.nanos⟩
  if shown.isHeld then .ok shown else .error .instantBeyondPlatform

/-- The wall time shown now. -/
def wall (clock : Clock) : Except ClockFault WallTime :=
  let nanos := clock.wallStart.nanos + clock.elapsed.nanos
  if nanos < (platformSeconds * Duration.nanosPerSecond : Nat) then .ok ⟨nanos⟩
  else .error .wallBeyondPlatform

/-- Moves the clock forward, unless it would leave the range of durations. -/
def advance (clock : Clock) (amount : Duration) : Except ClockFault Clock :=
  match clock.elapsed.add? amount with
  | some elapsed => .ok { clock with elapsed }
  | none => .error .offsetOverflow

/-- The name a hand-driven clock is shown under. -/
def describe (clock : Clock) : String :=
  "ManualClock \x7b elapsed: " ++ clock.elapsed.text ++ " \x7d"

end Clock

end SingleFlight
