import SingleFlight.CommandLine.Usage

namespace SingleFlight.CommandLine

/-- What a word looks like. -/
inductive Shape where
  /-- Two dashes alone: no option follows. -/
  | divider
  /-- Two dashes and a name, with a value behind an equals sign. -/
  | long (name : String) (value : Option String)
  /-- One dash, a letter, and what stands behind it. -/
  | short (letter : Char) (rest : List Char)
  | value
  deriving DecidableEq, Repr

namespace Shape

/-- The parts of a word before and behind its first equals sign. -/
def splitEquals (text : List Char) : String × Option String :=
  let name := String.ofList (text.takeWhile (· != '='))
  match text.dropWhile (· != '=') with
  | _ :: behind => (name, some (String.ofList behind))
  | [] => (name, none)

def ofWord (word : String) : Shape :=
  match word.toList with
  | ['-', '-'] => .divider
  | '-' :: '-' :: rest =>
    let (name, attached) := splitEquals rest
    .long name attached
  | '-' :: letter :: rest => .short letter rest
  | _ => .value

/-- The value attached to a letter. An equals sign before it is dropped. -/
def attached : List Char → Option String
  | [] => none
  | '=' :: rest => some (String.ofList rest)
  | rest => some (String.ofList rest)

end Shape

/-- An option whose values are not looked at yet. -/
structure Pending where
  option : OptionName
  values : List String
  deriving DecidableEq, Repr

/-- Whether a further word would be a value of the option. -/
def Pending.takesMore (pending : Pending) : Bool :=
  pending.option.takesMany || pending.values.isEmpty

/-- What has been read of a command line. -/
structure Progress where
  options : Options
  given : List OptionName
  pending : Option Pending

namespace Progress

def start : Progress := ⟨.standard, [], none⟩

/-- The error of a value that does not fit. -/
def valueError (option : OptionName) (value : String) : Options.ValueError → UsageError
  | .missing => .missingValue option
  | .unreadable reason => .invalidValue value option reason

/-- Sets an option to values one after the other. -/
def setAll (option : OptionName) : List String → Options → Except UsageError Options
  | [], options => .ok options
  | value :: rest, options => do
    let options ← (options.set value option).mapError (valueError option value)
    setAll option rest options

/-- Gives an option its values. -/
def give (progress : Progress) (option : OptionName) (values : List String) :
    Except UsageError Progress :=
  if values.isEmpty then .error (.missingValue option)
  else if !option.takesMany && progress.given.contains option then .error (.repeated option)
  else
    (setAll option values progress.options).map fun options =>
      { progress with options, given := option :: progress.given }

/-- Looks at the values of the option that is still open. -/
def settle (progress : Progress) : Except UsageError Progress :=
  match progress.pending with
  | none => .ok progress
  | some ⟨option, values⟩ => give { progress with pending := none } option values

/-- An option with its attached value, or without one. -/
def begin (progress : Progress) (option : OptionName) (attached : Option String) :
    Except UsageError Progress := do
  let settled ← progress.settle
  match attached with
  | some value => settled.give option [value]
  | none => return { settled with pending := some ⟨option, []⟩ }

/-- A word that looks like no option. -/
def take (progress : Progress) (word : String) : Except UsageError Progress :=
  match progress.pending with
  | some pending =>
    if pending.takesMore then
      .ok { progress with
        pending := some { pending with values := pending.values ++ [word] } }
    else .error (.unexpected word)
  | none => .error (.unexpected word)

/-- The user asks for help, unless what comes before is at fault. -/
def askHelp (progress : Progress) : Stop :=
  match progress.settle with
  | .ok _ => .help
  | .error error => .usage error

/-- One word of the command line of a simulation. -/
def word (progress : Progress) (word : String) : Except Stop Progress :=
  match Shape.ofWord word with
  | .long "help" none => .error progress.askHelp
  | .long "help" (some value) => .error (.usage (.unexpectedValue value "--help"))
  | .long name attached =>
    match OptionName.ofWord? name with
    | some option => (progress.begin option attached).mapError .usage
    | none => .error (.usage (.unexpected ("--" ++ name)))
  | .short 'h' _ => .error progress.askHelp
  | .short 's' rest => (progress.begin .strategies (Shape.attached rest)).mapError .usage
  | .short letter _ => .error (.usage (.unexpected ("-" ++ letter.toString)))
  | .divider | .value => (progress.take word).mapError .usage

/-- The options of a simulation. Behind a divider no word has a place. -/
def finish (progress : Progress) : List String → Except Stop Options
  | [] => (progress.settle.map Progress.options).mapError .usage
  | "--" :: [] => (progress.settle.map Progress.options).mapError .usage
  | "--" :: word :: _ => .error (.usage (.unexpected word))
  | word :: rest => do
    let next ← progress.word word
    next.finish rest

end Progress

/-- The commands: a simulation, and help about commands. -/
def commands : List String := ["simulate", "help"]

/-- Help about a command. No command has commands of its own. -/
def helpFor : List String → Stop
  | [] => .help
  | name :: rest =>
    if commands.contains name then
      match rest with
      | [] => .help
      | next :: _ => .usage (.unknownCommand next)
    else .usage (.unknownCommand name)

/-- What a word leads to that stands in place of a command. -/
def strayWord (word : String) : Stop :=
  match Shape.ofWord word with
  | .long "help" none | .short 'h' _ => .help
  | .long "version" none | .short 'V' _ => .version
  | .long name value =>
    match value with
    | some value =>
      if name == "help" || name == "version" then
        .usage (.unexpectedValue value ("--" ++ name))
      else .usage (.unexpected ("--" ++ name))
    | none => .usage (.unexpected ("--" ++ name))
  | .short letter _ => .usage (.unexpected ("-" ++ letter.toString))
  | .divider | .value => .usage (.unknownCommand word)

/-- The options that a command line gives to a simulation. -/
def parse : List String → Except Stop Options
  | [] => .error .nothing
  | "simulate" :: rest => Progress.start.finish rest
  | "help" :: rest => .error (helpFor rest)
  | "--" :: [] => .error .nothing
  | "--" :: word :: _ =>
    .error (.usage (if commands.contains word then .unexpected word else .unknownCommand word))
  | word :: _ => .error (strayWord word)

end SingleFlight.CommandLine
