import SingleFlight.CommandLine.Options
import SingleFlight.Text.Plain

namespace SingleFlight.CommandLine

inductive UsageError where
  /-- A word that has no place on the command line. -/
  | unexpected (word : String)
  /-- A value for a switch that takes none. -/
  | unexpectedValue (value switch : String)
  | missingValue (option : OptionName)
  | invalidValue (value : String) (option : OptionName) (reason : Decimal.ReadError)
  | repeated (option : OptionName)
  | unknownCommand (name : String)
  deriving DecidableEq, Repr

def inQuotes (text : String) : String := "'" ++ Text.plain text ++ "'"

def UsageError.message : UsageError → String
  | unexpected word => "unexpected argument " ++ inQuotes word ++ " found"
  | unexpectedValue value switch =>
    "unexpected value " ++ inQuotes value ++ " for " ++ inQuotes switch
      ++ " found; no more were expected"
  | missingValue option =>
    "a value is required for " ++ inQuotes option.describe ++ " but none was supplied"
  | invalidValue value option reason =>
    "invalid value " ++ inQuotes value ++ " for " ++ inQuotes option.describe ++ ": "
      ++ reason.message
  | repeated option =>
    "the argument " ++ inQuotes option.describe ++ " cannot be used multiple times"
  | unknownCommand name => "unrecognized subcommand " ++ inQuotes name

/-- Why a command line leads to no simulation. -/
inductive Stop where
  /-- The user asks for help. -/
  | help
  /-- The user asks for the version. -/
  | version
  /-- Nothing was asked for. -/
  | nothing
  | usage (error : UsageError)
  deriving DecidableEq, Repr

end SingleFlight.CommandLine
