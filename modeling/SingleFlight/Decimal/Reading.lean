import SingleFlight.Decimal.Fixed

namespace SingleFlight.Decimal

/-- Why a text is no number. -/
inductive ReadError where
  | emptyCount
  | noDigit
  | tooLarge
  | emptyFloat
  | noFloat
  deriving DecidableEq, Repr

def ReadError.message : ReadError → String
  | emptyCount => "cannot parse integer from empty string"
  | noDigit => "invalid digit found in string"
  | tooLarge => "number too large to fit in target type"
  | emptyFloat => "cannot parse float from empty string"
  | noFloat => "invalid float literal"

def isDigit (c : Char) : Bool := '0' ≤ c && c ≤ '9'

def digitValue (c : Char) : Nat := c.toNat - '0'.toNat

/-- Reads digits onto a number; the first fault is the one reported. -/
def readDigits (limit : Nat) : Nat → List Char → Except ReadError Nat
  | value, [] => .ok value
  | value, c :: rest =>
    let next := value * 10 + digitValue c
    if !isDigit c then .error .noDigit
    else if limit < next then .error .tooLarge
    else readDigits limit next rest

/-- The largest whole number that is read. -/
def countLimit : Nat := UInt64.size - 1

/-- Reads a whole number of at most 64 bits. -/
def readCount (text : String) : Except ReadError Nat :=
  match text.toList with
  | [] => .error .emptyCount
  | ['+'] => .error .noDigit
  | '+' :: digits => readDigits countLimit 0 digits
  | digits => readDigits countLimit 0 digits

/-- The number that a list of digits writes. -/
def digitsValue (digits : List Char) : Nat :=
  digits.foldl (fun value c => value * 10 + digitValue c) 0

/-- A sign and what follows it. -/
def splitSign : List Char → Bool × List Char
  | '-' :: rest => (true, rest)
  | '+' :: rest => (false, rest)
  | rest => (false, rest)

/-- The power of ten at the end of a number, if there is one. -/
def readPower : List Char → Option Int
  | [] => some 0
  | c :: rest =>
    if c == 'e' || c == 'E' then
      let (negative, digits) := splitSign rest
      if digits.isEmpty || !digits.all isDigit then none
      else
        let value : Int := digitsValue digits
        some (if negative then -value else value)
    else none

/-- Reads digits with a point and a power of ten. -/
def readDecimal (text : List Char) : Option Digits :=
  let whole := text.takeWhile isDigit
  let behind := text.dropWhile isDigit
  let (fraction, rest) := match behind with
    | '.' :: tail => (tail.takeWhile isDigit, tail.dropWhile isDigit)
    | _ => ([], behind)
  if whole.isEmpty && fraction.isEmpty then none
  else
    (readPower rest).map fun power =>
      ⟨digitsValue (whole ++ fraction), power - fraction.length⟩

/-- The power of two of the last place of the nearest double. -/
def lastPlace (r : Ratio) : Int :=
  let place : Int := (r.num.log2 : Int) - r.den.log2 - 53
  let units := Ratio.powers (-place) 0
  let place := if Nat.pow 2 53 * (r.den * units.den) ≤ r.num * units.num then place + 1 else place
  max place Width.double.leastExponent

/-- The bits of infinity. -/
def infinityBits : Nat := 0x7FF * Nat.pow 2 52

/-- The bits of the double nearest to a quotient. -/
def nearestBits (r : Ratio) : Nat :=
  if r.num = 0 then 0
  else
    let place := lastPlace r
    let units := Ratio.powers (-place) 0
    let mantissa := Ratio.rounded ⟨r.num * units.num, r.den * units.den⟩
    min (mantissa + (place - Width.double.leastExponent).toNat * Nat.pow 2 52) infinityBits

/-- From here on powers of ten lead beyond all doubles. -/
def powerLimit : Int := 400

/-- The bits of the double nearest to a decimal magnitude. -/
def Digits.doubleBits (d : Digits) : Nat :=
  let top := d.exponent + (toString d.digits).length
  if d.digits = 0 || top < -powerLimit then 0
  else if powerLimit < top then infinityBits
  else
    let scale := Ratio.powers 0 (-d.exponent)
    nearestBits ⟨d.digits * scale.num, scale.den⟩

/-- The bits of a magnitude that has a name. -/
def namedBits? (name : String) : Option Nat :=
  if name = "inf" || name = "infinity" then some infinityBits
  else if name = "nan" then some (infinityBits + Nat.pow 2 51)
  else none

/-- Reads a floating-point number. -/
def readFloat (text : String) : Except ReadError Float :=
  let (negative, rest) := splitSign text.toList
  let name := String.ofList (rest.map Char.toLower)
  let bits := (namedBits? name).orElse fun _ => (readDecimal rest).map Digits.doubleBits
  if text.isEmpty then .error .emptyFloat
  else
    match bits with
    | none => .error .noFloat
    | some bits => .ok (Float.ofBits ((if negative then Nat.pow 2 63 else 0) + bits).toUInt64)

end SingleFlight.Decimal
