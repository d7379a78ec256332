import SingleFlight.Scenario.Calls.Stores

namespace SingleFlight.Scenario.Calls

/-- Answers a store by its name. -/
def shownStore (ref : Option StoreRef) : Act Answer := do
  match ref with
  | some ref => return .store ((← get).nameOf ref)
  | none => return .nothing

/-- Changes the registry in use. -/
def modifyRegistry (change : Registry StoreRef → Registry StoreRef) : Act Unit :=
  modify (·.modifyRegistry change)

/-- Runs an action on every registered store, and sums up. -/
def onTargets (action : StoreRef → Slot → Flow Nat) : List StoreRef → Flow Nat
  | [] => return 0
  | ref :: rest => do
    let done ← match (← get).slot? ref with
      | some slot => action ref slot
      | none => pure 0
    return done + (← onTargets action rest)

/-- Carries out a call on the registry in use. -/
def registry (call : RegistryCall) : Flow Answer := do
  let state ← get
  let registry := state.registry
  match call with
  | .register name store =>
    match state.stores.lookup store with
    | none => return .refused .noStore
    | some ref =>
      let (old, next) := registry.register name ref
      modifyRegistry fun _ => next
      log [.strategyRegistered name]
      shownStore old
  | .strategy name => shownStore (registry.strategy name)
  | .defaultStrategy => shownStore registry.defaultStrategy
  | .resolve name =>
    match registry.resolve name with
    | .ok ref => shownStore (some ref)
    | .error error => return .registryRefused error
  | .defaultName => return .optionalText registry.defaultName
  | .setDefault name =>
    match registry.setDefault name with
    | .ok next =>
      modifyRegistry fun _ => next
      return .flag true
    | .error error => return .registryRefused error
  | .names => return .texts registry.names
  | .enable =>
    modifyRegistry Registry.enable
    log [.cachingEnabled]
    return .nothing
  | .disable =>
    modifyRegistry Registry.disable
    let cleared ← onTargets (fun ref slot => remove ref slot .all) registry.targets
    log [.cachingDisabled cleared]
    return .nothing
  | .isEnabled => return .flag registry.enabled
  | .timing => return .timing registry.requestTimeout registry.warningDuration
  | .setRequestTimeout timeout =>
    modifyRegistry (·.setRequestTimeout timeout)
    return .nothing
  | .setWarningDuration duration =>
    modifyRegistry (·.setWarningDuration duration)
    return .nothing
  | .destroy =>
    let _ ← onTargets (fun ref slot => do destroy ref slot; return 0) registry.targets
    log [.registryDestroyed]
    return .nothing
  | .describe => return .text registry.describe
  | .renew =>
    modify fun state => { state with registries := state.registries.push .empty }
    return .nothing

end SingleFlight.Scenario.Calls
