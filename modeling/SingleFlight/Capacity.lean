namespace SingleFlight

/-- What asked for too much room. -/
inductive CapacityFault where
  | list
  | table
  deriving DecidableEq, Repr

namespace CapacityFault

def message : CapacityFault → String
  | .list => "capacity overflow"
  | .table => "Hash table capacity overflow"

/-- The number of bytes that no request for memory may reach. -/
def byteLimit : Nat := Nat.pow 2 63

/-- The fault of a list of a number of items of some bytes each. -/
def ofList? (itemBytes length : Nat) : Option CapacityFault :=
  if itemBytes * length < byteLimit then none else some .list

/-- The slots of a table that takes a number of entries before it grows. -/
def slotsFor (entries : Nat) : Nat := Nat.nextPowerOfTwo (8 * entries / 7)

/-- The fault of a table for a number of entries, with slots of some bytes. -/
def ofTable? (slotBytes entries : Nat) : Option CapacityFault :=
  if slotBytes * slotsFor entries < byteLimit then none else some .table

end CapacityFault

end SingleFlight
