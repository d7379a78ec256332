namespace SingleFlight.Text

/-- White space in any script. -/
def isBlank (c : Char) : Bool :=
  let code := c.toNat
  (9 ≤ code && code ≤ 13) || code == 0x20 || code == 0x85 || code == 0xA0 || code == 0x1680
    || (0x2000 ≤ code && code ≤ 0x200A) || code == 0x2028 || code == 0x2029 || code == 0x202F
    || code == 0x205F || code == 0x3000

/-- The text without the blanks at both ends. -/
def trimmed (text : List Char) : List Char :=
  ((text.dropWhile isBlank).reverse.dropWhile isBlank).reverse

/-- The lower case of a letter, if it is basic Latin. -/
def basicLower (c : Char) : Char := if c.toNat == 0x212A then 'k' else c.toLower

/-- The word in a text, in lower case. -/
def word (text : String) : String := String.ofList ((trimmed text.toList).map basicLower)

end SingleFlight.Text
