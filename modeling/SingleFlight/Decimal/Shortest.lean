import SingleFlight.Decimal.Binary

namespace SingleFlight.Decimal

/-- A decimal magnitude `digits * 10 ^ exponent`. -/
structure Digits where
  digits : Nat
  exponent : Int
  deriving DecidableEq, Repr

/-- Which of two neighbours to take for a number halfway between them. -/
inductive Tie where
  | up
  | toEven
  deriving DecidableEq, Repr

/-- A positive rational number as a quotient. -/
structure Ratio where
  num : Nat
  den : Nat

/-- The quotient of `2 ^ twos` and `10 ^ tens`. -/
def Ratio.powers (twos tens : Int) : Ratio :=
  ⟨Nat.pow 2 twos.toNat * Nat.pow 10 (-tens).toNat,
    Nat.pow 2 (-twos).toNat * Nat.pow 10 tens.toNat⟩

namespace Binary

/-- The number as a multiple of a quarter of its last place. -/
def quarters (b : Binary) : Nat := 4 * b.mantissa

def lowEnd (b : Binary) : Nat := 4 * b.mantissa - (if b.narrowBelow then 1 else 2)

def highEnd (b : Binary) : Nat := 4 * b.mantissa + 2

/-- A quarter of the last place, in units of the decimal grid. -/
def quarterOn (b : Binary) (grid : Int) : Ratio := Ratio.powers (b.exponent - 2) grid

/-- Whether a point of the grid rounds to the number. -/
def roundsTo (b : Binary) (grid : Int) (point : Nat) : Bool :=
  let quarter := b.quarterOn grid
  let scaled := point * quarter.den
  if b.mantissa % 2 = 0 then
    b.lowEnd * quarter.num ≤ scaled && scaled ≤ b.highEnd * quarter.num
  else
    b.lowEnd * quarter.num < scaled && scaled < b.highEnd * quarter.num

/-- The point of the grid at or below the number. -/
def floorOn (b : Binary) (grid : Int) : Nat :=
  let quarter := b.quarterOn grid
  b.quarters * quarter.num / quarter.den

/-- Whether to take the grid point above the number, not the one `below`. -/
def takesAbove (b : Binary) (tie : Tie) (grid : Int) (below : Nat) : Bool :=
  let quarter := b.quarterOn grid
  let halfway := (2 * below + 1) * quarter.den
  let number := 2 * b.quarters * quarter.num
  match tie with
  | .up => halfway ≤ number
  | .toEven => halfway < number || (halfway == number && below % 2 == 1)

/-- The point of a grid to show for the number, if one rounds to it. -/
def pointOn? (b : Binary) (tie : Tie) (grid : Int) : Option Digits :=
  let below := b.floorOn grid
  match b.roundsTo grid below, b.roundsTo grid (below + 1) with
  | true, true => some ⟨if b.takesAbove tie grid below then below + 1 else below, grid⟩
  | true, false => some ⟨below, grid⟩
  | false, true => some ⟨below + 1, grid⟩
  | false, false => none

/-- The least power of ten above a positive number. -/
def scale (b : Binary) : Int :=
  let estimate := Int.fdiv ((b.mantissa.log2 + b.exponent) * 30103) 100000
  let isAbove (power : Int) : Bool :=
    let unit := Ratio.powers b.exponent power
    b.mantissa * unit.num < unit.den
  ([estimate - 1, estimate, estimate + 1].find? isAbove).getD (estimate + 2)

/-- The most digits that are ever needed. -/
def digitLimit : Nat := 17

/-- The digits on the coarsest grid with a point, or all digits. -/
def shortest (b : Binary) (tie : Tie) : Digits :=
  if b.mantissa = 0 then ⟨0, 0⟩
  else
    let grids := (List.range digitLimit).map fun count => b.scale - (count + 1 : Nat)
    (grids.findSome? (b.pointOn? tie)).getD
      ⟨b.mantissa * Nat.pow 2 b.exponent.toNat * Nat.pow 5 (-b.exponent).toNat,
        min b.exponent 0⟩

end Binary

/-- Drops at most `fuel` trailing zeros of the digits. -/
def Digits.stripped : Nat → Digits → Digits
  | 0, d => d
  | fuel + 1, d =>
    if d.digits ≠ 0 && d.digits % 10 = 0 then stripped fuel ⟨d.digits / 10, d.exponent + 1⟩ else d

end SingleFlight.Decimal
