import SingleFlight.Decimal.Shortest
import SingleFlight.Text.Column

namespace SingleFlight.Decimal

/-- The whole number nearest to a quotient, the even one on a tie. -/
def Ratio.rounded (r : Ratio) : Nat :=
  let whole := r.num / r.den
  let twice := 2 * (r.num % r.den)
  if twice > r.den || (twice == r.den && whole % 2 == 1) then whole + 1 else whole

/-- A magnitude in units of the last of `places` decimal places, rounded. -/
def Binary.inPlaces (b : Binary) (places : Nat) : Nat :=
  let unit := Ratio.powers b.exponent (-(places : Int))
  Ratio.rounded ⟨b.mantissa * unit.num, unit.den⟩

/-- The text of a number with `places` digits behind the point. -/
def fixed (places : Nat) : Value → String
  | .notANumber => "NaN"
  | .infinite negative => (if negative then "-" else "") ++ "inf"
  | .finite negative b =>
    let units := b.inPlaces places
    let fraction :=
      if places = 0 then "" else "." ++ Text.zeroPadded places (units % Nat.pow 10 places)
    (if negative then "-" else "") ++ toString (units / Nat.pow 10 places) ++ fraction

end SingleFlight.Decimal
