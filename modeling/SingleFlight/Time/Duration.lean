import SingleFlight.Decimal.Fixed

namespace SingleFlight

/-- A length of time in whole nanoseconds. -/
structure Duration where
  nanos : Nat
  deriving DecidableEq, Repr, Inhabited

namespace Duration

def nanosPerSecond : Nat := 1000000000

/-- The seconds of a duration fill 64 bits. -/
def secondsLimit : Nat := UInt64.size

def zero : Duration := ⟨0⟩

/-- The longest duration is one nanosecond short of the limit on seconds. -/
def longest : Duration := ⟨secondsLimit * nanosPerSecond - 1⟩

def ofSeconds (count : Nat) : Duration := ⟨count * nanosPerSecond⟩

def ofMillis (count : Nat) : Duration := ⟨count * 1000000⟩

instance : LE Duration := ⟨fun a b => a.nanos ≤ b.nanos⟩

instance : LT Duration := ⟨fun a b => a.nanos < b.nanos⟩

instance (a b : Duration) : Decidable (a ≤ b) := inferInstanceAs (Decidable (a.nanos ≤ b.nanos))

instance (a b : Duration) : Decidable (a < b) := inferInstanceAs (Decidable (a.nanos < b.nanos))

theorem le_iff {a b : Duration} : a ≤ b ↔ a.nanos ≤ b.nanos := Iff.rfl

theorem nanos_pos {d : Duration} (nonzero : d ≠ .zero) : 0 < d.nanos :=
  Nat.pos_of_ne_zero fun none => nonzero (by cases d; exact congrArg mk none)

def isZero (d : Duration) : Bool := d.nanos == 0

/-- The whole seconds of a duration. -/
def seconds (d : Duration) : Nat := d.nanos / nanosPerSecond

/-- The nanoseconds beyond the whole seconds. -/
def subsecond (d : Duration) : Nat := d.nanos % nanosPerSecond

/-- The whole milliseconds of a duration. -/
def millis (d : Duration) : Nat := d.nanos / 1000000

/-- The sum, unless it lies beyond the longest duration. -/
def add? (a b : Duration) : Option Duration :=
  if a.nanos + b.nanos ≤ longest.nanos then some ⟨a.nanos + b.nanos⟩ else none

/-- The seconds as a floating-point number: whole seconds and fraction are converted apart. -/
def secondsFloat (d : Duration) : Float :=
  d.seconds.toUInt64.toFloat + d.subsecond.toUInt64.toFloat / 1000000000.0

/-- The milliseconds as a floating-point number. -/
def millisFloat (d : Duration) : Float := d.secondsFloat * 1000.0

/-- A unit of display: its nanoseconds, its decimal places, its sign. -/
structure DisplayUnit where
  nanos : Nat
  places : Nat
  symbol : String

/-- The units from the largest to the smallest. -/
def displayUnits : List DisplayUnit :=
  [⟨1000000000, 9, "s"⟩, ⟨1000000, 6, "ms"⟩, ⟨1000, 3, "µs"⟩]

/-- The largest unit that the duration fills once. -/
def displayUnit (d : Duration) : DisplayUnit :=
  (displayUnits.find? fun unit => unit.nanos ≤ d.nanos).getD ⟨1, 0, "ns"⟩

/-- A fraction behind a point without its trailing zeros; nothing if it is zero. -/
def fractionText (places part : Nat) : String :=
  let digits := (Text.zeroPadded places part).toList
  if part = 0 then ""
  else String.ofList ('.' :: (digits.reverse.dropWhile (· == '0')).reverse)

/-- The text of a duration in its own unit, such as `1.5s`. -/
def text (d : Duration) : String :=
  let unit := d.displayUnit
  toString (d.nanos / unit.nanos) ++ fractionText unit.places (d.nanos % unit.nanos) ++ unit.symbol

/-- The text of a duration with a set number of places. -/
def textTo (places : Nat) (d : Duration) : String :=
  let unit := d.displayUnit
  let scaled := Decimal.Ratio.rounded ⟨d.nanos * Nat.pow 10 places, unit.nanos⟩
  let fraction :=
    if places = 0 then "" else "." ++ Text.zeroPadded places (scaled % Nat.pow 10 places)
  toString (scaled / Nat.pow 10 places) ++ fraction ++ unit.symbol

end Duration

end SingleFlight
