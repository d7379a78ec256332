import SingleFlight.Fetch
import SingleFlight.Store.Removal

namespace SingleFlight.Simulation

/-- A burst: the keys of the callers and their common condition. -/
structure Burst where
  keys : List String
  condition : Option String
  deriving DecidableEq, Repr

/-- What came of a burst, with its entries and the size after it. -/
structure BurstOutcome where
  produced : Nat
  cached : Nat
  failed : Nat
  entries : List (String × Entry)
  size : Nat
  deriving Repr

/-- What came of all bursts, and whether the store could be cleared. -/
structure BurstReport where
  outcomes : List BurstOutcome
  created : Nat
  cleared : Bool
  deriving Repr

namespace Burst

/-- The content that is made of a key for a condition. -/
def content (key : String) (condition : Option String) : String :=
  key ++ "@" ++ condition.getD "-"

/-- The moment of all bursts. -/
def moment : Moment := ⟨.ok ⟨0⟩, .error .wallBeyondPlatform⟩

/-- What each caller fetches: the keys over and over. -/
def fetches (burst : Burst) (callers : Nat) : List Fetch :=
  (List.range callers).filterMap fun number =>
    burst.keys[number % burst.keys.length]?.map fun key =>
      ⟨⟨number⟩, key, { FetchOptions.standard (.ofSeconds 3600) with condition := burst.condition }⟩

/-- The fetch of one caller. -/
def fetchOne (burst : Burst) (cache : Cache) (fetch : Fetch) : Option Ending × Cache :=
  let made := Production.content (content fetch.key burst.condition)
  let (phase, cache, _) := fetch.undisturbed made moment cache
  (phase.ending?, cache)

/-- The fetches of callers one after the other. -/
def fetchAll (burst : Burst) : List Fetch → Cache → List (Option Ending) × Cache
  | [], cache => ([], cache)
  | fetch :: rest, cache =>
    let (ending, cache) := burst.fetchOne cache fetch
    let (endings, cache) := burst.fetchAll rest cache
    (ending :: endings, cache)

/-- Whether a fetch ended with the caller's own content. -/
def isProduced : Option Ending → Bool
  | some (.fetched (.produced _)) => true
  | _ => false

/-- Whether a fetch ended with a content that was there. -/
def isCached : Option Ending → Bool
  | some (.fetched (.cached _)) => true
  | _ => false

/-- One burst of callers. -/
def run (burst : Burst) (callers : Nat) (cache : Cache) : BurstOutcome × Cache :=
  let (endings, cache) := burst.fetchAll (burst.fetches callers) cache
  let entries := (burst.keys.take callers).filterMap fun key =>
    (cache.stored? key).map fun entry => (key, entry)
  ({ produced := endings.countP isProduced
     cached := endings.countP isCached
     failed := endings.countP fun ending => !isProduced ending && !isCached ending
     entries := entries
     size := cache.store.size }, cache)

/-- Bursts one after the other. -/
def runAll (callers : Nat) : List Burst → Cache → List BurstOutcome × Cache
  | [], cache => ([], cache)
  | burst :: rest, cache =>
    let (outcome, cache) := burst.run callers cache
    let (outcomes, cache) := runAll callers rest cache
    (outcome :: outcomes, cache)

/-- Bursts on an empty store, which is cleared at the end. -/
def report (callers : Nat) (bursts : List Burst) (store : Store) : BurstReport :=
  let (outcomes, cache) := runAll callers bursts ⟨.empty, store⟩
  let clearing := Removal.all.start cache.store.segments.count
  let (_, cleared, _) := Removal.procedure.undisturbed moment clearing cache
  ⟨outcomes, cache.store.created, cleared.store.isEmpty⟩

end Burst

end SingleFlight.Simulation
