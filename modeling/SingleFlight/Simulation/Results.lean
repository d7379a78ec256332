import SingleFlight.Simulation.Strategy
import SingleFlight.Simulation.Tally

namespace SingleFlight.Simulation

abbrev Results := Strategy → Option StrategyResult

namespace Results

def none : Results := fun _ => .none

/-- Puts the result of a strategy in place of an earlier one. -/
def put (results : Results) (strategy : Strategy) (result : StrategyResult) : Results :=
  fun asked => if asked = strategy then some result else results asked

/-- The strategies that have a result, in their order. -/
def toList (results : Results) : List (Strategy × StrategyResult) :=
  Strategy.all.filterMap fun strategy => (results strategy).map fun result => (strategy, result)

end Results

end SingleFlight.Simulation
