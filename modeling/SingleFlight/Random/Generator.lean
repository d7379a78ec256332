namespace SingleFlight

/-- A source of random words of 64 bits. -/
class Generator (Source : Type) where
  next : Source → UInt64 × Source

namespace Generator

variable {Source : Type} [Generator Source]

/-- A multiple of 2^-53 from zero to below one. -/
def unit (source : Source) : Float × Source :=
  let (word, rest) := next source
  ((word >>> 11).toFloat * Float.ofBits 0x3CA0000000000000, rest)

/-- The word scaled to the bound, rounded down. -/
def scaled (word : UInt64) (bound : Nat) : Nat := word.toNat * bound / UInt64.size

/-- What the scaling of a word leaves below 64 bits. -/
def remainder (word : UInt64) (bound : Nat) : Nat := word.toNat * bound % UInt64.size

/-- The largest remainder that is accepted. -/
def zone (bound : Nat) : Nat := bound * Nat.pow 2 (63 - bound.log2) - 1

/-- Draws words until one is accepted, after at most `tries` others. -/
def belowWithin : Nat → Nat → Source → Nat × Source
  | 0, bound, source =>
    let (word, rest) := next source
    (scaled word bound, rest)
  | tries + 1, bound, source =>
    let (word, rest) := next source
    if remainder word bound ≤ zone bound then (scaled word bound, rest)
    else belowWithin tries bound rest

/-- A whole number below a bound of 64 bits. -/
def below (bound : Nat) (source : Source) : Nat × Source := belowWithin 127 bound source

end Generator

/-- Words that are known beforehand; zeros follow them. -/
instance : Generator (List UInt64) where
  next
    | [] => (0, [])
    | word :: rest => (word, rest)

end SingleFlight
