import SingleFlight.Scenario.Calls.Guards
import SingleFlight.Scenario.Calls.Registries
import SingleFlight.Scenario.Calls.Threads

namespace SingleFlight.Scenario.Calls

/-- Carries out what concerns threads and the table of stores. -/
def table (context : Context) : TableCall → Flow Answer
  | .newStore name settings => newStore context name settings
  | .dropStore name => dropStore name
  | .join thread poll => join thread poll
  | .endThread thread => endThread context thread

/-- Carries out a call. -/
def perform (context : Context) : Call → Flow Answer
  | .store name erased call => store context name erased call
  | .entry handle call => entry context handle call
  | .guard name call => guard context name call
  | .registry call => registry call
  | .clock call => clock context call
  | .table call => table context call

end SingleFlight.Scenario.Calls
