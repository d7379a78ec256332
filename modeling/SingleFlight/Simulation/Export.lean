import SingleFlight.Decimal.Notation
import SingleFlight.Simulation.Report
import SingleFlight.Text.Lines

namespace SingleFlight.Simulation

/-- A floating-point number as it stands in a cell. -/
def cellFloat (value : Float) : String := Decimal.Layout.tabular.render (.ofFloat value)

/-- A column of the export: its name and its cells. -/
structure ExportColumn where
  name : String
  cell : Report → Strategy → StrategyResult → String

namespace ExportColumn

/-- A column of whole numbers. -/
def count (name : String) (value : StrategyResult → Nat) : ExportColumn :=
  ⟨name, fun _ _ result => toString (value result)⟩

def float (name : String) (value : StrategyResult → Float) : ExportColumn :=
  ⟨name, fun _ _ result => cellFloat (value result)⟩

/-- A column that is filled where a strategy has a store. -/
def ofStore (name : String) (value : StoreSummary → Nat) : ExportColumn :=
  ⟨name, fun _ _ result => (result.store.map fun store => toString (value store)).getD ""⟩

/-- The columns in their order. -/
def all : List ExportColumn :=
  [⟨"strategy", fun _ strategy _ => strategy.name⟩,
    ⟨"threads", fun report _ _ => toString report.workers⟩,
    ⟨"keys", fun report _ _ => toString report.keys⟩,
    count "requests" (·.tally.requests), count "productions" (·.tally.productions),
    count "cached" (·.tally.cached), float "cached_rate" (·.tally.cachedRate),
    count "timeouts" (·.tally.timeouts), count "failures" (·.tally.failures),
    count "abandoned" (·.tally.abandoned), count "wall_time_ms" (·.wallTime.millis),
    float "throughput" (·.throughput), float "avg_latency_ns" (·.latency.average),
    count "min_latency_ns" (·.latency.least), count "max_latency_ns" (·.latency.largest),
    count "p50_ns" (·.latency.percentiles.p50), count "p90_ns" (·.latency.percentiles.p90),
    count "p99_ns" (·.latency.percentiles.p99), ofStore "store_size" (·.finalSize),
    ofStore "entries_created" (·.entriesCreated),
    ofStore "abandoned_replaced" (·.abandonedReplaced),
    ofStore "evictions" (·.evictions), ofStore "sweeps_run" (·.sweepsRun)]

end ExportColumn

namespace Report

/-- The cells of the line of names. -/
def names : List String := ExportColumn.all.map ExportColumn.name

/-- The cells of each strategy. -/
def rows (report : Report) : List (List String) :=
  report.results.toList.map fun (strategy, result) =>
    ExportColumn.all.map fun column => column.cell report strategy result

/-- The lines of the export, each a list of cells. -/
def table (report : Report) : List (List String) :=
  if report.rows.isEmpty then [] else names :: report.rows

/-- The lines of the export as they are written. -/
def csvLines (report : Report) : List String := report.table.map (Text.separated ",")

/-- The text of the export. -/
def csv (report : Report) : String := Text.ofLines report.csvLines

end Report

end SingleFlight.Simulation
