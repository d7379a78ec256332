import SingleFlight.CommandLine.Program

namespace SingleFlight.CommandLine

open SingleFlight.Simulation

/-- The system's reason for not writing a file. -/
def fileError : IO.Error → FileError
  | .noFileOrDirectory _ _ _ => .notFound
  | .noSuchThing _ code _ => if code = 6 then .noDevice else .notFound
  | .inappropriateType _ code _ => if code = 20 then .notDirectory else .isDirectory
  | .invalidArgument _ code text =>
    if code = 36 then .nameTooLong else .system code.toNat "InvalidInput" text
  | .permissionDenied _ code text => .system code.toNat "PermissionDenied" text
  | .resourceExhausted _ code text => .system code.toNat "StorageFull" text
  | error => .system 0 "Other" (toString error)

/-- Writes a file. -/
def writeOutput (output : Output) : IO (Except ExportError Destination) := do
  match ← (IO.FS.Handle.mk output.path .write).toBaseIO with
  | .error error => return .error (.opening (fileError error))
  | .ok file =>
    match ← (file.putStr output.text *> file.flush).toBaseIO with
    | .error error => return .error (.writing (fileError error))
    | .ok () => return .ok .file

/-- Answers a command line on both outputs, and gives the exit code. -/
def answer (arguments : List String) : IO UInt32 := do
  let asked := respond arguments
  let output ← IO.getStdout
  output.putStr (Text.ofLines asked.lines)
  output.flush
  let response ← match asked.output with
    | none => pure asked
    | some file => asked.conclude file <$> writeOutput file
  output.putStr (Text.ofLines (response.lines.drop asked.lines.length))
  (← IO.getStderr).putStr (Text.ofLines response.errorLines)
  return response.exitCode.toUInt32

end SingleFlight.CommandLine

def main (arguments : List String) : IO UInt32 := SingleFlight.CommandLine.answer arguments
