namespace SingleFlight.Text

/-- A number in at least `width` digits. -/
def zeroPadded (width value : Nat) : String :=
  let digits := toString value
  String.ofList (List.replicate (width - digits.length) '0') ++ digits

/-- A cell whose text starts at the left edge. -/
def leftAligned (width : Nat) (text : String) : String :=
  text ++ String.ofList (List.replicate (width - text.length) ' ')

/-- A cell whose text ends at the right edge. -/
def rightAligned (width : Nat) (text : String) : String :=
  String.ofList (List.replicate (width - text.length) ' ') ++ text

/-- The texts with a separator between neighbours. -/
def separated (separator : String) (texts : List String) : String :=
  String.intercalate separator texts

end SingleFlight.Text
