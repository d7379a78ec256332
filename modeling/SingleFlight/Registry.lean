import SingleFlight.Fetch

namespace SingleFlight

/-- Named caches. The names are in order and each stands once. -/
structure Registry (Target : Type) where
  caches : List (String × Target)
  defaultName : Option String
  enabled : Bool
  requestTimeout : Duration
  warningDuration : Duration

/-- Which way a fetch through the registry goes. -/
inductive Route (Target : Type) where
  /-- The caller's producer runs and nothing is stored. -/
  | bypass
  | refused (error : RegistryError)
  | through (cache : Target) (options : FetchOptions)

namespace Registry

variable {Target : Type}

/-- A registry without caches that is turned off. -/
def empty : Registry Target where
  caches := []
  defaultName := none
  enabled := false
  requestTimeout := .ofSeconds 20
  warningDuration := .ofSeconds 10

/-- Puts a named cache in its place in the order of names. -/
def insert (name : String) (cache : Target) : List (String × Target) → List (String × Target)
  | [] => [(name, cache)]
  | slot :: rest =>
    if name < slot.1 then (name, cache) :: slot :: rest
    else if slot.1 = name then (name, cache) :: rest
    else slot :: insert name cache rest

/-- The cache of a name. -/
def strategy (registry : Registry Target) (name : String) : Option Target :=
  registry.caches.lookup name

/-- Names a cache and gives back the one that had the name. -/
def register (registry : Registry Target) (name : String) (cache : Target) :
    Option Target × Registry Target :=
  (registry.strategy name,
    { registry with
      caches := insert name cache registry.caches
      defaultName := registry.defaultName <|> some name })

/-- The default cache. -/
def defaultStrategy (registry : Registry Target) : Option Target :=
  registry.defaultName.bind registry.strategy

/-- Makes a registered name the default. -/
def setDefault (registry : Registry Target) (name : String) :
    Except RegistryError (Registry Target) :=
  if (registry.strategy name).isSome then .ok { registry with defaultName := some name }
  else .error (.unknownStrategy name)

/-- The cache of a name, or the default one where no name is given. -/
def resolve (registry : Registry Target) (name : Option String) : Except RegistryError Target :=
  match name with
  | some name =>
    match registry.strategy name with
    | some cache => .ok cache
    | none => .error (.unknownStrategy name)
  | none =>
    match registry.defaultStrategy with
    | some cache => .ok cache
    | none => .error .empty

def names (registry : Registry Target) : List String := registry.caches.map Prod.fst

/-- The registered caches in the order of their names. -/
def targets (registry : Registry Target) : List Target := registry.caches.map Prod.snd

def enable (registry : Registry Target) : Registry Target := { registry with enabled := true }

/-- Turns caching off. The caches are cleared after that, one by one. -/
def disable (registry : Registry Target) : Registry Target := { registry with enabled := false }

def setRequestTimeout (registry : Registry Target) (timeout : Duration) : Registry Target :=
  { registry with requestTimeout := timeout }

def setWarningDuration (registry : Registry Target) (duration : Duration) : Registry Target :=
  { registry with warningDuration := duration }

/-- The way of a fetch, as the registry stands when the fetch begins. -/
def route (registry : Registry Target) (name : Option String) (condition : Option String)
    (ttl : Duration) (forceRefresh : Bool) : Route Target :=
  if !registry.enabled then .bypass
  else
    match registry.resolve name with
    | .error error => .refused error
    | .ok cache => .through cache {
        condition := condition
        ttl := ttl
        wait := registry.requestTimeout
        forceRefresh := forceRefresh
        slowThreshold := registry.warningDuration }

/-- How a fetch ends whose production was not cached. -/
def bypassEnding : Production → Ending
  | .content text => .fetched (.uncached text)
  | .failure error => .failed (.producer error)
  | .crash message => .crashed message

def describe (registry : Registry Target) : String :=
  Text.record "FragmentCacheRegistry"
    [("enabled", Text.flag registry.enabled),
      ("strategies", Text.bracketed (registry.names.map Text.quoted)),
      ("default", Text.optional Text.quoted registry.defaultName)]

end Registry

end SingleFlight
