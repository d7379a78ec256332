import SingleFlight.Scenario.Calls

namespace SingleFlight.Scenario

/-- The real time that a production takes beside its own steps. -/
def productionCost : Duration := ⟨100⟩

/-- The producer of a fetch: its own steps, and then its end. -/
def produce (inner : Flow (List Answer)) : Flow (List Answer × Duration) := do
  let begun := (← get).realTime
  let answers ← inner
  modify fun state => state.moveTo ⟨state.realTime.nanos + productionCost.nanos⟩
  return (answers, (← get).realTime.since begun)

/-- The answer of a fetch that is over. -/
def fetchAnswer (called : Bool) (inner : List Answer) (phase : Fetch.Phase) : Answer :=
  (phase.ending?.map fun ending => .fetch ending called inner).getD .nothing

/-- A fetch through a store, which stays alive until the fetch is over. -/
def fetchThrough (context : Context) (ref : StoreRef) (slot : Slot) (fetch : Fetch)
    (inner : Flow (List Answer)) (production : Production) : Flow Answer :=
  Flow.holding (.store ref) do
    let asked ← Calls.runOn context ref slot fetch.procedure Fetch.start
    match asked with
    | .producing _ =>
      let (answers, elapsed) ← produce inner
      let (produced, events) := fetch.afterProduction production elapsed asked
      Calls.log events
      fetchAnswer true answers <$> Calls.runOn context ref slot fetch.procedure produced
    | .waiting entry _ =>
      let isOpen ← Calls.awaitGate entry fetch.options.wait
      let woken := if isOpen then Fetch.notify asked else Fetch.expire asked
      fetchAnswer false [] <$> Calls.runOn context ref slot fetch.procedure woken
    | ended => return fetchAnswer false [] ended

/-- A fetch through the registry in use, which stays alive meanwhile. -/
def fetchByName (route : Route StoreRef) (inner : Flow (List Answer)) (production : Production)
    (through : StoreRef → FetchOptions → Flow Answer) : Flow Answer := do
  Flow.holding (.registry (← get).registryNumber) do
    match route with
    | .bypass =>
      let (answers, _) ← produce inner
      return .fetch (Registry.bypassEnding production) true answers
    | .refused error => return .fetch (.failed (.strategy error)) false []
    | .through ref options => through ref options

/-- A fetch through a store or through the registry. -/
def runFetch (context : Context) (target : FetchTarget) (key : String)
    (inner : Flow (List Answer)) (production : Production) : Flow Answer := do
  let state ← get
  let caller := state.idOf context.thread
  let through (ref : StoreRef) (options : FetchOptions) : Flow Answer :=
    match state.slot? ref with
    | some slot => fetchThrough context ref slot ⟨caller, key, options⟩ inner production
    | none => return .refused .noStore
  match target with
  | .store name options =>
    match state.stores.lookup name with
    | some ref => through ref options
    | none => return .refused .noStore
  | .registry name condition ttl forceRefresh =>
    fetchByName (state.registry.route name condition ttl forceRefresh) inner production through

mutual

/-- The flow of a step. -/
def Step.run (context : Context) : Step → Flow Answer
  | .call made => Calls.perform context made
  | .fetch target key inner production =>
    runFetch context target key (Step.runAll context inner) production
  | .block steps => Answer.several <$> Step.runAll context steps
  | .on thread detached step =>
    Calls.send context thread detached fun context => Step.run context step
  | .racing place steps step => do
    let race ← modifyGet State.newRace
    let reading := (← get).nextReading context.root + place
    let raced := context.withRace reading race fun context => Step.runAll context steps
    let answer ← Step.run raced step
    return .raced answer ((← get).raceAnswers race)

/-- The flow of steps one after the other, with their answers. -/
def Step.runAll (context : Context) : List Step → Flow (List Answer)
  | [] => return []
  | step :: rest => do
    let answer ← Step.run context step
    modify State.dropUnreachable
    return answer :: (← Step.runAll context rest)

end

end SingleFlight.Scenario
