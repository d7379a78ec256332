import SingleFlight.Text.Quoted

namespace SingleFlight.Simulation

/-- Why a file is not written. -/
inductive FileError where
  /-- The system refuses, with a number, a name and a text. -/
  | system (code : Nat) (kind text : String)
  /-- No path holds the character of number zero. -/
  | zeroInPath
  deriving DecidableEq, Repr

namespace FileError

def notFound : FileError := .system 2 "NotFound" "No such file or directory"

def notDirectory : FileError := .system 20 "NotADirectory" "Not a directory"

def isDirectory : FileError := .system 21 "IsADirectory" "Is a directory"

def nameTooLong : FileError := .system 36 "InvalidFilename" "File name too long"

def denied : FileError := .system 13 "PermissionDenied" "Permission denied"

def noDevice : FileError := .system 6 "Uncategorized" "No such device or address"

def noSpace : FileError := .system 28 "StorageFull" "No space left on device"

/-- The name of the reason. -/
def kind : FileError → String
  | .system _ kind _ => kind
  | .zeroInPath => "InvalidInput"

def message : FileError → String
  | .system code _ text => text ++ " (os error " ++ toString code ++ ")"
  | .zeroInPath => "file name contained an unexpected NUL byte"

/-- The exact form of the reason. -/
def describe : FileError → String
  | .system code kind text =>
    Text.record "Os"
      [("code", toString code), ("kind", kind), ("message", Text.quoted text)]
  | .zeroInPath =>
    Text.record "Error"
      [("kind", kind .zeroInPath), ("message", Text.quoted (message .zeroInPath))]

end FileError

/-- What an export ends with that fails. -/
inductive ExportError where
  | opening (reason : FileError)
  | writing (reason : FileError)
  deriving DecidableEq, Repr

namespace ExportError

def reason : ExportError → FileError
  | opening reason | writing reason => reason

/-- The name of the reason, which a file that is not opened hides. -/
def kind : ExportError → String
  | opening _ => "Other"
  | writing reason => reason.kind

def message (error : ExportError) : String := error.reason.message

/-- The exact form of the error. -/
def describe : ExportError → String
  | opening reason =>
    Text.record "Custom"
      [("kind", "Other"), ("error", Text.wrapped "Error" (Text.wrapped "Io" reason.describe))]
  | writing reason => reason.describe

end ExportError

/-- The names on the way from the root to a place. -/
abbrev Place := List String

/-- What a file is written to. -/
inductive Destination where
  | file
  /-- A file that keeps nothing of what is written to it. -/
  | sink
  /-- A file that has room for nothing. -/
  | full
  /-- The output of the program. -/
  | output
  /-- The output of the program for errors. -/
  | errors
  deriving DecidableEq, Repr

/-- What is at a place. -/
inductive Node where
  /-- A directory, with what a new name in it leads to. -/
  | directory (fresh : Except FileError Destination)
  /-- Anything else, with what opening it leads to. -/
  | leaf (opened : Except FileError Destination)
  deriving Repr

/-- What is there beside the root, and the directory that the program runs in. -/
structure FileTree where
  nodes : List (Place × Node)
  home : Place
  deriving Repr

namespace FileTree

/-- The longest name, in bytes. -/
def nameLimit : Nat := 255

/-- The longest path, in bytes. -/
def pathLimit : Nat := 4095

def node? (tree : FileTree) (place : Place) : Option Node :=
  if place.isEmpty then some (.directory (.ok .file)) else tree.nodes.lookup place

/-- What a name that is not there leads to in a directory. -/
def fresh (tree : FileTree) (place : Place) : Except FileError Destination :=
  match tree.node? place with
  | some (.directory fresh) => fresh
  | some (.leaf _) | none => .error .notFound

/-- The place that a name leads to from a directory. -/
def follow (place : Place) (name : String) : Place :=
  if name = "." then place
  else if name = ".." then place.dropLast
  else place ++ [name]

/-- Enters the directory of a name. -/
def enter (tree : FileTree) (place : Place) (name : String) : Except FileError Place :=
  let next := follow place name
  match tree.node? next with
  | some (.directory _) => .ok next
  | some (.leaf _) => .error .notDirectory
  | none => .error (if nameLimit < name.utf8ByteSize then .nameTooLong else .notFound)

/-- Opens a name in a directory; a slash behind it asks for a directory. -/
def openName (tree : FileTree) (place : Place) (name : String) (slashBehind : Bool) :
    Except FileError Destination :=
  if slashBehind || name = "." || name = ".." then .error .isDirectory
  else
    match tree.node? (follow place name) with
    | some (.directory _) => .error .isDirectory
    | some (.leaf opened) => opened
    | none => if nameLimit < name.utf8ByteSize then .error .nameTooLong else tree.fresh place

/-- What a path leads to, or why nothing can be written there. -/
def resolve (tree : FileTree) (path : String) : Except FileError Destination :=
  if path.toList.contains '\x00' then .error .zeroInPath
  else if path.isEmpty then .error .notFound
  else if pathLimit < path.utf8ByteSize then .error .nameTooLong
  else
    let names := (path.splitOn "/").filter fun name => !name.isEmpty
    let start := if path.startsWith "/" then [] else tree.home
    match names.getLast? with
    | none => .error .isDirectory
    | some last => do
      let place ← names.dropLast.foldlM tree.enter start
      tree.openName place last (path.endsWith "/")

/-- Delivers a text to a path; gives what it is written to. -/
def deliver (tree : FileTree) (path text : String) : Except ExportError Destination := do
  let destination ← (tree.resolve path).mapError .opening
  if destination = .full ∧ !text.isEmpty then .error (.writing .noSpace)
  return destination

end FileTree

end SingleFlight.Simulation
