import SingleFlight.CommandLine.Parse
import SingleFlight.Simulation.Destination
import SingleFlight.Simulation.Export
import SingleFlight.Simulation.Run

namespace SingleFlight.CommandLine

open SingleFlight.Simulation

def programName : String := "stampede-simulator"

def programVersion : String := "0.1.0"

/-- What the program is for. -/
def purpose : String :=
  "Replays synthetic request bursts against fragment-cache and other caches to measure stampede "
    ++ "protection"

/-- What help shows. -/
def helpLines : List String :=
  [purpose, "", "Usage: " ++ programName ++ " simulate [OPTIONS]", "", "Options:"]
    ++ OptionName.all.map fun option => "  " ++ option.describe

/-- A file to write: its path and its lines. -/
structure Output where
  path : String
  lines : List String
  deriving DecidableEq, Repr

def Output.text (output : Output) : String := Text.ofLines output.lines

/-- What the program has done before it writes a file. -/
structure Response where
  lines : List String
  errorLines : List String
  exitCode : Nat
  output : Option Output
  deriving DecidableEq, Repr

/-- The strategies of some names, with a warning for each unknown one. -/
def selectNamed : List String → List String × List Strategy → List String × List Strategy
  | [], selection => selection
  | name :: rest, (warnings, selected) =>
    match Strategy.ofName? name with
    | none =>
      let warning := "Warning: Unknown strategy '" ++ name ++ "', skipping"
      selectNamed rest (warnings ++ [warning], selected)
    | some strategy =>
      selectNamed rest
        (warnings, if selected.contains strategy then selected else selected ++ [strategy])

/-- The strategies to run, all of them if no name leads to one. -/
def select (names : List String) : List String × List Strategy :=
  let (warnings, selected) := selectNamed names ([], [])
  if names.isEmpty then ([], Strategy.all)
  else if selected.isEmpty then
    (warnings ++ ["No valid strategies selected, using all available strategies"], Strategy.all)
  else (warnings, selected)

/-- The settings that options stand for. -/
def settingsOf (options : Options) (strategies : List Strategy) : Settings where
  workers := options.threads
  requests := options.requests
  keys := options.keys
  skew := options.skew
  ttl := options.ttl
  produceTime := options.produceTime
  failureRate := options.failureRate
  abandonRate := options.abandonRate
  wait := options.wait
  lockHold := options.lockHold
  sweepInterval := options.sweepInterval
  strategies := strategies
  seed := options.seed.toUInt64

/-- The settings as they are shown before a run. -/
def headerLines (settings : Settings) : List String :=
  let plain (value : Float) : String := Decimal.Layout.plain.render (.ofFloat value)
  ["Stampede Simulation", "===================",
    "Workers: " ++ toString settings.workers ++ " x " ++ toString settings.requests
      ++ " requests over " ++ toString settings.keys ++ " keys (skew "
      ++ plain settings.skew ++ ")",
    "TTL: " ++ settings.ttl.text ++ ", production: " ++ settings.produceTime.text
      ++ ", reader wait: " ++ settings.wait.text,
    "Failure rate: " ++ Report.fixedText 2 settings.failureRate ++ ", abandon rate: "
      ++ Report.fixedText 2 settings.abandonRate ++ ", lock hold: " ++ settings.lockHold.text
      ++ ", sweep: " ++ settings.sweepInterval.text,
    "Strategies: "
      ++ Text.bracketed (settings.strategies.map fun strategy => Text.quoted strategy.name),
    ""]

/-- The time that all strategies took together. -/
def totalTime (results : Results) : Duration :=
  ⟨results.toList.foldl (fun total (_, result) => total + result.wallTime.nanos) 0⟩

/-- The report of a simulation with the settings. -/
def reportOf (settings : Settings) (results : Results) : Report :=
  ⟨results, settings.totalRequests, settings.workers, settings.keys⟩

/-- The exit code of a run without a result, and what is said. -/
def failure (error : SimulationError) : Nat × List String :=
  if error.isCrash then (101, ["", error.message])
  else (1, ["Error: " ++ Text.quoted error.message])

/-- Runs a simulation with the options. -/
def simulate (options : Options) : Response :=
  let (warnings, strategies) := select options.strategies
  let settings := settingsOf options strategies
  let (announcements, result) := settings.run
  let before := warnings ++ headerLines settings ++ announcements
  match result with
  | .error error =>
    let (exitCode, reason) := failure error
    ⟨before, reason, exitCode, none⟩
  | .ok results =>
    let report := reportOf settings results
    let completed := "Simulation completed in " ++ (totalTime results).textTo 2
    ⟨before ++ ["", completed] ++ report.lines, [], 0,
      options.outputPath.map fun path => ⟨path, report.csvLines⟩⟩

/-- What a command line leads to that asks for no simulation. -/
def stopped : Stop → Response
  | .help => ⟨helpLines, [], 0, none⟩
  | .version => ⟨[programName ++ " " ++ programVersion], [], 0, none⟩
  | .nothing => ⟨[], helpLines, 2, none⟩
  | .usage error =>
    ⟨[], ["error: " ++ error.message, "", "For more information, try '--help'."], 2, none⟩

/-- What a command line leads to. -/
def respond (arguments : List String) : Response :=
  match parse arguments with
  | .error stop => stopped stop
  | .ok options => simulate options

/-- The response once its file is written, or is known to have failed. -/
def Response.conclude (response : Response) (output : Output)
    (written : Except ExportError Destination) : Response :=
  let farewell := ["", "Results exported to " ++ output.path]
  match written with
  | .ok .output => { response with lines := response.lines ++ output.lines ++ farewell }
  | .ok .errors =>
    { response with lines := response.lines ++ farewell, errorLines := output.lines }
  | .ok .file | .ok .sink | .ok .full => { response with lines := response.lines ++ farewell }
  | .error error => { response with errorLines := ["Error: " ++ error.describe], exitCode := 1 }

end SingleFlight.CommandLine
