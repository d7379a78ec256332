namespace SingleFlight.Text

/-- The text of lines, each with its end. -/
def ofLines (lines : List String) : String := String.join (lines.map (· ++ "\n"))

/-- A line that has ended, from its characters in reverse. -/
def endedLine (reversed : List Char) : String :=
  match reversed with
  | '\r' :: line => String.ofList line.reverse
  | line => String.ofList line.reverse

/-- The lines of a text behind the reversed beginning of one. -/
def linesFrom (reversed : List Char) : List Char → List String
  | [] => if reversed.isEmpty then [] else [String.ofList reversed.reverse]
  | '\n' :: rest => endedLine reversed :: linesFrom [] rest
  | c :: rest => linesFrom (c :: reversed) rest

/-- The lines of a text. -/
def lines (text : String) : List String := linesFrom [] text.toList

end SingleFlight.Text
