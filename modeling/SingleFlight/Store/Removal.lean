import SingleFlight.Store.Procedure

namespace SingleFlight

/-- What is removed: one key, or everything. -/
inductive Removal where
  | key (name : String)
  | all
  deriving DecidableEq, Repr

namespace Removal

/-- Where a removal stands. -/
inductive Phase where
  | taking (name : String)
  /-- Before the segments of the given numbers are emptied; `removed` entries are gone. -/
  | clearing (segments : List Nat) (removed : Nat)
  | counting (removed : Nat)
  | finished (removed : Nat)
  deriving DecidableEq, Repr

/-- The first phase, on a store of `count` segments. -/
def start (removal : Removal) (count : Nat) : Phase :=
  match removal with
  | .key name => .taking name
  | .all => .clearing (List.range count) 0

def step (phase : Phase) (cache : Cache) : Phase × Cache :=
  match phase with
  | .taking name =>
    let (taken, store) := cache.store.take name
    (if taken then .counting 1 else .finished 0, { cache with store })
  | .clearing [] removed => (.counting removed, cache)
  | .clearing (number :: rest) removed =>
    let gone := (cache.store.segments.tableAt number).length
    (.clearing rest (removed + gone),
      { cache with store.segments := cache.store.segments.clearAt number })
  | .counting removed =>
    (.finished removed, { cache with store := cache.store.countEvictions removed })
  | .finished removed => (.finished removed, cache)

def remaining : Phase → Nat
  | .taking _ => 2
  | .clearing segments _ => segments.length + 2
  | .counting _ => 1
  | .finished _ => 0

/-- A removal as a procedure; it never looks at the clock and reports nothing. -/
def procedure : Procedure Phase where
  clockUse _ _ := .unused
  step phase _ cache := ((step phase cache).1, (step phase cache).2, [])
  remaining := remaining

/-- Each step brings a removal nearer to its end. -/
theorem remaining_step (phase : Phase) (cache : Cache) (running : remaining phase ≠ 0) :
    remaining (step phase cache).1 < remaining phase := by
  cases phase with
  | taking name => simp only [step]; split <;> simp [remaining]
  | clearing segments removed => cases segments <;> simp [step, remaining]
  | counting removed => simp [step, remaining]
  | finished removed => simp [remaining] at running

/-- How many entries a removal that is over has taken out. -/
def Phase.removed : Phase → Nat
  | .finished removed | .counting removed | .clearing _ removed => removed
  | .taking _ => 0

end Removal

end SingleFlight
