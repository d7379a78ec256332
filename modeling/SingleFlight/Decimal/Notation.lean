import SingleFlight.Decimal.Shortest

namespace SingleFlight.Decimal

/-- The decisions of a layout. `place` is the power of ten above the number. -/
structure Layout where
  positional : Int → Bool
  keepsPoint : Bool
  /-- Which of two equally near numbers with the fewest digits is written. -/
  tie : Tie

namespace Layout

/-- Plain: always around the point, and no point in a whole number. -/
def plain : Layout := ⟨fun _ => true, false, .up⟩

/-- Exact: around the point from 0.0001 to below 10^16, whole numbers keep a zero. -/
def exact : Layout := ⟨fun place => -3 ≤ place && place ≤ 16, true, .up⟩

/-- Around the point from 0.00001 to below 10^16; ties go to even. -/
def tabular : Layout := ⟨fun place => -4 ≤ place && place ≤ 16, true, .toEven⟩

/-- The digits around the point. -/
def around (layout : Layout) (digits : String) (exponent : Int) : String :=
  let count := digits.length
  let wholeSuffix := if layout.keepsPoint then ".0" else ""
  if 0 ≤ exponent then
    digits ++ String.ofList (List.replicate exponent.toNat '0') ++ wholeSuffix
  else
    let behind := (-exponent).toNat
    if behind < count then
      String.ofList (digits.toList.take (count - behind)) ++ "."
        ++ String.ofList (digits.toList.drop (count - behind))
    else "0." ++ String.ofList (List.replicate (behind - count) '0') ++ digits

/-- One digit before the point, and a power of ten. -/
def withPower (digits : String) (exponent : Int) : String :=
  let power := exponent + (digits.length - 1 : Nat)
  let mark := if digits.length = 1 then digits
    else String.ofList (digits.toList.take 1) ++ "." ++ String.ofList (digits.toList.drop 1)
  mark ++ "e" ++ toString power

/-- The text of a magnitude. -/
def magnitude (layout : Layout) (b : Binary) : String :=
  let shown := (b.shortest layout.tie).stripped Binary.digitLimit
  let digits := toString shown.digits
  if shown.digits = 0 then layout.around "0" 0
  else if layout.positional (shown.exponent + digits.length) then
    layout.around digits shown.exponent
  else withPower digits shown.exponent

/-- The text of a number. -/
def render (layout : Layout) : Value → String
  | .notANumber => "NaN"
  | .infinite negative => (if negative then "-" else "") ++ "inf"
  | .finite negative b => (if negative then "-" else "") ++ layout.magnitude b

end Layout

end SingleFlight.Decimal
