import SingleFlight.Text.Unseen

namespace SingleFlight.Text

/-- The lower-case hexadecimal digits of a number, at least one. -/
def hexDigits (value : Nat) : String := String.ofList (Nat.toDigits 16 value)

/-- The escape that names a character by its code point. -/
def codePointEscape (c : Char) : String := "\\u\x7b" ++ hexDigits c.toNat ++ "\x7d"

/-- Whether a character is written as its code point. -/
def needsCodePoint (c : Char) : Bool :=
  if c.toNat < 0x80 then c.toNat < 0x20 || c.toNat == 0x7f else isUnseen c

/-- A character as it stands between the quotes. -/
def escaped (c : Char) : String :=
  match c with
  | '"' => "\\\""
  | '\\' => "\\\\"
  | '\n' => "\\n"
  | '\t' => "\\t"
  | '\r' => "\\r"
  | '\x00' => "\\0"
  | c => if needsCodePoint c then codePointEscape c else c.toString

/-- A text between double quotes. -/
def quoted (text : String) : String :=
  "\"" ++ String.join (text.toList.map escaped) ++ "\""

/-- An optional value: `None`, or `Some` around the text of what is there. -/
def optional {α : Type} (inner : α → String) : Option α → String
  | none => "None"
  | some value => "Some(" ++ inner value ++ ")"

/-- A list in brackets. -/
def bracketed (items : List String) : String := "[" ++ String.intercalate ", " items ++ "]"

/-- A record: its name and its fields in braces. -/
def record (name : String) (fields : List (String × String)) : String :=
  name ++ " \x7b " ++ String.intercalate ", " (fields.map fun field => field.1 ++ ": " ++ field.2)
    ++ " \x7d"

/-- A named value around its content. -/
def wrapped (name inner : String) : String := name ++ "(" ++ inner ++ ")"

def flag (value : Bool) : String := if value then "true" else "false"

end SingleFlight.Text
