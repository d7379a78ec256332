import SingleFlight.Text.Word

namespace SingleFlight.Simulation

inductive Strategy where
  | fragment
  | naive
  | moka
  deriving DecidableEq, Repr

namespace Strategy

def name : Strategy → String
  | fragment => "fragment"
  | naive => "naive"
  | moka => "moka"

/-- The exact form. -/
def describe : Strategy → String
  | fragment => "Fragment"
  | naive => "Naive"
  | moka => "Moka"

/-- All strategies in their order. -/
def all : List Strategy := [fragment, naive, moka]

/-- The strategy that a user names, in any case and with blanks around. -/
def ofName? (text : String) : Option Strategy :=
  match Text.word text with
  | "fragment" | "frag" => some fragment
  | "naive" | "lru" => some naive
  | "moka" => some moka
  | _ => none

/-- The place in the order of strategies. -/
def rank : Strategy → Nat
  | fragment => 0
  | naive => 1
  | moka => 2

/-- Strategies in their order. -/
def sorted (strategies : List Strategy) : List Strategy :=
  strategies.mergeSort fun a b => a.rank ≤ b.rank

end Strategy

end SingleFlight.Simulation
