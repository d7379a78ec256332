import SingleFlight.Decimal.Fixed
import SingleFlight.Simulation.Results

namespace SingleFlight.Simulation

/-- The results of a simulation and the size of its load. -/
structure Report where
  results : Results
  totalRequests : Nat
  workers : Nat
  keys : Nat

namespace Report

/-- A column of the table: its title and its width. -/
structure TableColumn where
  title : String
  width : Nat

def firstColumn : TableColumn := ⟨"Strategy", 9⟩

/-- The columns behind the first. -/
def columns : List TableColumn :=
  [⟨"Produced", 9⟩, ⟨"Cached%", 8⟩, ⟨"Timeout", 8⟩, ⟨"Failed", 8⟩, ⟨"Abandon", 8⟩, ⟨"Wall", 9⟩,
    ⟨"Req/sec", 10⟩, ⟨"Avg", 10⟩, ⟨"p50", 10⟩, ⟨"p90", 10⟩, ⟨"p99", 10⟩]

/-- A line of the table. -/
def tableLine (first : String) (rest : List String) : String :=
  Text.separated " " (Text.leftAligned firstColumn.width first :: rest)

/-- The titles of the table. -/
def titles : String :=
  tableLine firstColumn.title
    (columns.map fun column => Text.rightAligned column.width column.title)

/-- A number in a cell with its unit at the right edge. -/
def cell (width : Nat) (unit value : String) : String :=
  Text.rightAligned (width - unit.length) value ++ unit

/-- The text of a floating-point number with a set count of places. -/
def fixedText (places : Nat) (value : Float) : String := Decimal.fixed places (.ofFloat value)

/-- The line of a strategy. -/
def strategyLine (strategy : Strategy) (result : StrategyResult) : String :=
  let tally := result.tally
  let latency := result.latency
  let micros (nanos : Nat) : String := cell 10 "us" (toString (nanos / 1000))
  tableLine strategy.name
    [cell 9 "" (toString tally.productions), cell 8 "%" (fixedText 2 tally.cachedRate),
      cell 8 "" (toString tally.timeouts), cell 8 "" (toString tally.failures),
      cell 8 "" (toString tally.abandoned), cell 9 "s" (fixedText 3 result.wallTime.secondsFloat),
      cell 10 "" (fixedText 0 result.throughput),
      cell 10 "us" (fixedText 0 (latency.average / 1000.0)), micros latency.percentiles.p50,
      micros latency.percentiles.p90, micros latency.percentiles.p99]

/-- How the store stood at the end. -/
def storeLines (store : StoreSummary) : List String :=
  ["", "Fragment store at shutdown:",
    "  Entries cached:      " ++ toString store.finalSize,
    "  Entries created:     " ++ toString store.entriesCreated,
    "  Abandoned replaced:  " ++ toString store.abandonedReplaced,
    "  Evictions:           " ++ toString store.evictions,
    "  Sweeps run:          " ++ toString store.sweepsRun]

/-- How many times as much the plain cache has produced. -/
def comparison (fragment naive : StrategyResult) : List String :=
  if fragment.tally.productions = 0 then []
  else
    let ratio := naive.tally.productions.toUInt64.toFloat
      / fragment.tally.productions.toUInt64.toFloat
    ["", "Naive cache ran " ++ fixedText 1 ratio
      ++ "x as many productions as the fragment store."]

/-- The lines of the report. -/
def lines (report : Report) : List String :=
  ["", "Stampede Simulation Summary", "===========================",
    "Requests per strategy: " ++ toString report.totalRequests,
    "Worker threads: " ++ toString report.workers,
    "Distinct keys: " ++ toString report.keys,
    "", "Results by Strategy:", titles, String.ofList (List.replicate 124 '-')]
  ++ report.results.toList.map (fun (strategy, result) => strategyLine strategy result)
  ++ (match (report.results .fragment).bind StrategyResult.store with
      | some store => storeLines store
      | none => [])
  ++ (match report.results .fragment, report.results .naive with
      | some fragment, some naive => comparison fragment naive
      | _, _ => [])

end Report

end SingleFlight.Simulation
