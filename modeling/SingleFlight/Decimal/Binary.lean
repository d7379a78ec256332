namespace SingleFlight.Decimal

/-- The widths of the two fields below the sign bit. -/
structure Width where
  mantissaBits : Nat
  exponentBits : Nat
  deriving DecidableEq, Repr

def Width.double : Width := ⟨52, 11⟩

def Width.single : Width := ⟨23, 8⟩

/-- The exponent of the last place of the numbers nearest to zero. -/
def Width.leastExponent (width : Width) : Int :=
  2 - (Nat.pow 2 (width.exponentBits - 1) : Nat) - width.mantissaBits

/-- A finite magnitude `mantissa * 2 ^ exponent`. -/
structure Binary where
  mantissa : Nat
  exponent : Int
  /-- The gap to the number below is half the gap to the number above. -/
  narrowBelow : Bool
  deriving DecidableEq, Repr

/-- What the bits of a floating-point number stand for. -/
inductive Value where
  | notANumber
  | infinite (negative : Bool)
  | finite (negative : Bool) (magnitude : Binary)
  deriving DecidableEq, Repr

/-- Reads the bits of a number of the given width. -/
def Value.ofBits (width : Width) (bits : Nat) : Value :=
  let fraction := bits % Nat.pow 2 width.mantissaBits
  let field := bits / Nat.pow 2 width.mantissaBits % Nat.pow 2 width.exponentBits
  let negative := bits / Nat.pow 2 (width.mantissaBits + width.exponentBits) % 2 == 1
  if field = Nat.pow 2 width.exponentBits - 1 then
    if fraction = 0 then .infinite negative else .notANumber
  else if field = 0 then
    .finite negative ⟨fraction, width.leastExponent, false⟩
  else
    .finite negative
      ⟨Nat.pow 2 width.mantissaBits + fraction, width.leastExponent + (field - 1 : Nat),
        fraction == 0 && field != 1⟩

def Value.ofFloat (x : Float) : Value := .ofBits .double x.toBits.toNat

def Value.ofSingle (x : Float32) : Value := .ofBits .single x.toBits.toNat

end SingleFlight.Decimal
