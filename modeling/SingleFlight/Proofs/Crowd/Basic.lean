import Mathlib.Data.Finset.Card
import SingleFlight.Fetch
import SingleFlight.Proofs.Traffic.Basic

namespace SingleFlight

/-- Whether a content for a tag has to be made: no entry, or a stale one. -/
def Cache.lacks (cache : Cache) (key : String) (tag : Option Tag) (now : Instant) : Bool :=
  match cache.stored? key with
  | some entry => entry.isStale tag now
  | none => true

/-- Whether a gate that nobody opens hides a fresh content. -/
def Entry.isMute (entry : Entry) (tag : Option Tag) (now : Instant) : Bool :=
  !entry.gateOpen && !entry.isStale tag now

/-- Distinct threads that fetch contents for one tag at one time. -/
structure Rush where
  start : Cache
  visitors : List Fetch
  tag : Option Tag
  now : Instant
  /-- The content that every producer of a key makes. -/
  produce : String → String
  reachable : start.Reachable
  unlocked : ∀ key entry, start.stored? key = some entry → entry.hold = none
  lasting : ∀ key entry, start.stored? key = some entry → entry.ttl ≠ .zero
  distinct : (visitors.map Fetch.caller).Nodup
  unforced : ∀ fetch ∈ visitors, fetch.options.forceRefresh = false
  common : ∀ fetch ∈ visitors, fetch.options.tag = tag
  renewing : ∀ fetch ∈ visitors, fetch.options.ttl ≠ .zero

/-- A cache, where each visitor stands, and the keys whose producers have run. -/
structure Crowd where
  cache : Cache
  phase : Fetch → Fetch.Phase
  rendered : List String

/-- Whether a visitor is neither in the wait nor through. -/
def Fetch.Phase.isBusy : Fetch.Phase → Bool
  | .waiting _ .parked | .finished _ => false
  | _ => true

namespace Crowd

/-- A crowd before its first turn. -/
def gathered (cache : Cache) : Crowd := ⟨cache, fun _ => Fetch.start, []⟩

/-- A visitor is at another phase. -/
def enter (crowd : Crowd) (fetch : Fetch) (next : Fetch.Phase) : Crowd :=
  { crowd with phase := fun other => if other = fetch then next else crowd.phase other }

/-- A visitor that waits at the gate of an entry wakes up at the signal. -/
def wake (signal : Option EntryId) (phase : Fetch.Phase) : Fetch.Phase :=
  match phase with
  | .waiting entry _ => if signal = some entry then Fetch.notify phase else phase
  | _ => phase

/-- A step changes the cache and wakes those who wait for its signal. -/
def turnTo (crowd : Crowd) (cache : Cache) (signal : Option EntryId) : Crowd :=
  { crowd with cache, phase := fun other => wake signal (crowd.phase other) }

@[simp] theorem enter_self (crowd : Crowd) (fetch : Fetch) (next : Fetch.Phase) :
    (crowd.enter fetch next).phase fetch = next := if_pos rfl

theorem enter_of_ne (crowd : Crowd) {fetch other : Fetch} (apart : other ≠ fetch)
    (next : Fetch.Phase) : (crowd.enter fetch next).phase other = crowd.phase other :=
  if_neg apart

@[simp] theorem enter_cache (crowd : Crowd) (fetch : Fetch) (next : Fetch.Phase) :
    (crowd.enter fetch next).cache = crowd.cache := rfl

@[simp] theorem enter_rendered (crowd : Crowd) (fetch : Fetch) (next : Fetch.Phase) :
    (crowd.enter fetch next).rendered = crowd.rendered := rfl

/-- The entry that a key maps to. -/
def lookup (crowd : Crowd) (key : String) : Option EntryId := crowd.cache.store.lookup key

/-- The state of an entry. -/
def state (crowd : Crowd) (entry : EntryId) : Entry := crowd.cache.heap.get entry

end Crowd

namespace Rush
variable (rush : Rush)

/-- What the clock shows as long as a rush lasts. -/
def moment : Moment := ⟨.ok rush.now, .ok ⟨0⟩⟩

-- The clock stands still while a rush lasts, so no wait runs out.

/-- One turn of a visitor. -/
def turn (crowd : Crowd) (fetch : Fetch) : Crowd :=
  match crowd.phase fetch with
  | .producing entry =>
    let production := .content (rush.produce fetch.key)
    let (next, _) := fetch.afterProduction production .zero (.producing entry)
    { crowd.enter fetch next with rendered := crowd.rendered ++ [fetch.key] }
  | phase =>
    let (next, cache, _) := fetch.step phase rush.moment crowd.cache
    (crowd.turnTo cache (fetch.signal? phase rush.moment crowd.cache)).enter fetch next

/-- Turns one after the other. -/
def play (crowd : Crowd) (turns : List Fetch) : Crowd := turns.foldl rush.turn crowd

/-- The crowd before the first turn. -/
def gathered : Crowd := .gathered rush.start

/-- Turns of visitors that can make a step. -/
def Busy : Crowd → List Fetch → Prop
  | _, [] => True
  | crowd, fetch :: rest =>
    (fetch ∈ rush.visitors ∧ (crowd.phase fetch).isBusy = true) ∧ Busy (rush.turn crowd fetch) rest

/-- A rush is over when no visitor can make a step. -/
def Settled (crowd : Crowd) : Prop :=
  ∀ fetch ∈ rush.visitors, (crowd.phase fetch).isBusy = false

/-- The keys that are asked for. -/
def keys : Finset String := (rush.visitors.map Fetch.key).toFinset

/-- The keys asked for that have no entry at the start. -/
def missing : Finset String := rush.keys.filter fun key => rush.start.store.lookup key = none

/-- A visitor may return its own content, or that of its key's entry. -/
def Returns (fetch : Fetch) (result : Fetched) : Prop :=
  result = .produced (rush.produce fetch.key) ∨
    ∃ text, result = .cached text ∧ (text = rush.produce fetch.key ∨
      ∃ entry, rush.start.stored? fetch.key = some entry ∧ entry.content = some text)

/-- The entry a fetched key ends with: that of the start, or one with new content. -/
def Ends (key : String) (entry : Entry) : Prop :=
  entry.hold = none ∧
    if rush.start.lacks key rush.tag rush.now then
      entry.content = some (rush.produce key) ∧ entry.tag = rush.tag ∧ entry.updated = rush.now ∧
        entry.gateOpen = true
    else rush.start.stored? key = some entry

/-- How a rush is to end, in what is returned, what is produced and what is stored. -/
structure Outcome (ended : Crowd) : Prop where
  returned : ∀ fetch ∈ rush.visitors, ∃ result,
    ended.phase fetch = .finished (.fetched result) ∧ rush.Returns fetch result
  rendered : ∀ key, ended.rendered.count key =
    if key ∈ rush.keys ∧ rush.start.lacks key rush.tag rush.now then 1 else 0
  entries : ∀ key ∈ rush.keys, ∃ entry, ended.cache.stored? key = some entry ∧ rush.Ends key entry
  others : ∀ key, key ∉ rush.keys → ended.cache.stored? key = rush.start.stored? key
  created : ended.cache.store.created = rush.start.store.created + rush.missing.card
  size : ended.cache.store.size = rush.start.store.size + rush.missing.card
  counters : ended.cache.store.replaced = rush.start.store.replaced ∧
    ended.cache.store.evictions = rush.start.store.evictions ∧
    ended.cache.store.sweeps = rush.start.store.sweeps ∧
    ended.cache.store.lastSweep = rush.start.store.lastSweep

end Rush

end SingleFlight
