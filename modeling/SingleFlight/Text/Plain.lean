namespace SingleFlight.Text

/-- What a terminal takes the next character of a text for. -/
inductive Passage where
  /-- A part of the text. -/
  | text
  /-- The kind of a sequence, right behind its escape character. -/
  | escape
  /-- The end of a short sequence, or one more sign before it. -/
  | shortSequence
  /-- A parameter of a sequence in a bracket, or its end. -/
  | sequence
  /-- The first parameter of a string for a device. -/
  | deviceStart
  /-- A further parameter of a string for a device. -/
  | deviceParameters
  /-- A sign behind the parameters of a string for a device. -/
  | deviceSigns
  /-- A part of a string that a terminator ends. -/
  | longString
  /-- A part of a command to the system, which a bell ends. -/
  | systemCommand
  deriving DecidableEq, Repr

namespace Passage

/-- What a printable character leads to behind an escape character. -/
def behindEscape (c : Char) : Passage :=
  match c with
  | '[' => .sequence
  | 'P' => .deviceStart
  | ']' => .systemCommand
  | 'X' | '^' | '_' => .longString
  | c => if c < '0' then .shortSequence else .text

/-- What a printable character of the first 128 leads to. -/
def behindPrintable (c : Char) : Passage → Passage
  | .escape => behindEscape c
  | .shortSequence => if c < '0' then .shortSequence else .text
  | .sequence => if c < '@' then .sequence else .text
  | .deviceStart =>
    if c < '0' then .deviceSigns else if c < '@' then .deviceParameters else .longString
  | .deviceParameters =>
    if c < '0' then .deviceSigns else if c < '<' then .deviceParameters else .longString
  | .deviceSigns => if c < '0' then .deviceSigns else .longString
  | passage => passage

/-- Whether a character is encoded with the byte that ends a long string. -/
def holdsTerminator (c : Char) : Bool := (String.utf8EncodeChar c).contains 0x9C

/-- What a character leads to; an escape begins a sequence anywhere. -/
def next (passage : Passage) (c : Char) : Passage :=
  if c = '\x1b' then .escape
  else if c = '\x18' ∨ c = '\x1a' then .text
  else if 0x80 ≤ c.toNat then
    if passage = .longString ∧ holdsTerminator c then .text else passage
  else if c.toNat < 0x20 ∨ c = '\x7f' then
    if passage = .systemCommand ∧ c = '\x07' then .text else passage
  else passage.behindPrintable c

/-- Whether a character is white space that a terminal obeys. -/
def isLayout (c : Char) : Bool := c = '\t' ∨ c = '\n' ∨ c = '\x0c' ∨ c = '\r'

/-- Whether a character is left in plain text. -/
def shows (passage : Passage) (c : Char) : Bool :=
  match passage with
  | .text => isLayout c || (0x20 ≤ c.toNat && c != '\x7f')
  | .escape | .shortSequence | .sequence => isLayout c
  | _ => false

end Passage

/-- How far a text is read, and whether the last character is shown. -/
structure PlainReader where
  passage : Passage
  afterShown : Bool
  deriving DecidableEq, Repr

namespace PlainReader

def start : PlainReader := ⟨.text, false⟩

/-- One character: how the reader goes on, and whether it is shown. -/
def step (reader : PlainReader) (c : Char) : PlainReader × Bool :=
  if reader.afterShown ∧ Passage.text.shows c then
    (⟨if 0x80 ≤ c.toNat then .text else reader.passage, true⟩, true)
  else
    let shown := reader.passage.shows c
    (⟨reader.passage.next c, shown⟩, shown)

end PlainReader

/-- The characters that a reader shows of a text. -/
def plainFrom (reader : PlainReader) : List Char → List Char
  | [] => []
  | c :: rest =>
    let (following, shown) := reader.step c
    if shown then c :: plainFrom following rest else plainFrom following rest

/-- The text without what a terminal would act on. -/
def plain (text : String) : String := String.ofList (plainFrom .start text.toList)

end SingleFlight.Text
