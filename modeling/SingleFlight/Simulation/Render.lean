import SingleFlight.Simulation.Workload

namespace SingleFlight.Simulation

/-- Why a fragment was not rendered. -/
inductive RenderError where
  | failed (key : String)
  | crashed (key : String)
  deriving DecidableEq, Repr

def RenderError.message : RenderError → String
  | failed key => "backend failed to render " ++ key
  | crashed key => "producer crashed while rendering " ++ key

/-- Renders the fragment of a key with the outcome that was drawn for it. -/
def render (key : String) : Outcome → Except RenderError String
  | .succeed => .ok ("<div id=\"" ++ key ++ "\"></div>")
  | .fail => .error (.failed key)
  | .crash => .error (.crashed key)

end SingleFlight.Simulation
