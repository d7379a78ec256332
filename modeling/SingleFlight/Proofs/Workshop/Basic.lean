import SingleFlight.Fetch
import SingleFlight.Proofs.Traffic.Steps

namespace SingleFlight

namespace Fetch.Phase

/-- The entry that the lookup of a fetch has handed to it. -/
def handed? : Fetch.Phase → Option EntryId
  | .acquiring entry | .waiting entry _ | .producing entry | .committing entry _
  | .releasing entry _ => some entry
  | .looking _ | .finished _ => none

/-- The entry whose lock the guard of a fetch stands for. -/
def guarded? : Fetch.Phase → Option EntryId
  | .producing entry | .committing entry _ | .releasing entry _ => some entry
  | .looking _ | .acquiring _ | .waiting _ _ | .finished _ => none

/-- Whether a thread is in its fetch, and not in its producer. -/
def isInside : Fetch.Phase → Bool
  | .producing _ | .finished _ => false
  | _ => true

end Fetch.Phase

/-- The lock operation that a fetch makes next, if any. -/
def Fetch.lockAction? (fetch : Fetch) : Fetch.Phase → Option Action
  | .acquiring entry => some (.acquire fetch.caller entry fetch.options.request)
  | .committing entry content => some (.commit fetch.caller entry content fetch.options.tag)
  | .releasing entry _ => some (.release fetch.caller entry)
  | .looking _ | .waiting _ _ | .producing _ | .finished _ => none

/-- Who may have a lock to give back: a guard, or a fetch at its phase. -/
inductive Keeper where
  | guard (live : Guard)
  /-- A guard that was committed, aborted or dropped. -/
  | spent
  | fetch (asked : Fetch) (phase : Fetch.Phase)

/-- What the thread of a guard or a fetch does with it. -/
inductive Handling where
  | commit (content : String) (tag : Option Tag)
  /-- A guard is dropped. An abort comes to the same. -/
  | drop
  | step
  | produce (production : Production) (elapsed : Duration)
  | notify
  | expire

namespace Keeper

/-- The live guard, which may be the one that a fetch has. -/
def guard? : Keeper → Option Guard
  | .guard live => some live
  | .spent => none
  | .fetch asked phase => phase.guarded?.map fun entry => ⟨asked.caller, entry⟩

def owner? : Keeper → Option ThreadId
  | .guard live => some live.owner
  | .spent => none
  | .fetch asked _ => some asked.caller

/-- The entry that a fetch has made and means to put in place. -/
def candidate? : Keeper → Option EntryId
  | .fetch asked (.looking inner) => (Call.lookup asked.lookup inner).candidate?
  | _ => none

/-- Whether a thread is inside of a fetch, and not in its producer. -/
def occupies (keeper : Keeper) (thread : ThreadId) : Bool :=
  match keeper with
  | .fetch asked phase => asked.caller = thread && phase.isInside
  | .guard _ | .spent => false

def handle (keeper : Keeper) (handling : Handling) (moment : Moment) (cache : Cache) :
    Keeper × Cache :=
  match keeper, handling with
  | .guard live, .commit content tag =>
    let (_, heap, _) := live.commit content tag moment.monotonic cache.heap
    (.spent, { cache with heap })
  | .guard live, .drop => (.spent, { cache with heap := live.drop cache.heap })
  | .fetch asked phase, .step =>
    let (next, cache, _) := asked.step phase moment cache
    (.fetch asked next, cache)
  | .fetch asked phase, .produce production elapsed =>
    (.fetch asked (asked.afterProduction production elapsed phase).1, cache)
  | .fetch asked phase, .notify => (.fetch asked (Fetch.notify phase), cache)
  | .fetch asked phase, .expire => (.fetch asked (Fetch.expire phase), cache)
  | keeper, _ => (keeper, cache)

/-- The lock operation that a handling is, if it is one. -/
def lockAction? (keeper : Keeper) (handling : Handling) : Option Action :=
  match keeper, handling with
  | .guard live, .commit content tag => some (.commit live.owner live.entry content tag)
  | .guard live, .drop => some (.release live.owner live.entry)
  | .fetch asked phase, .step => asked.lockAction? phase
  | _, _ => none

end Keeper

namespace Action

/-- The thread that makes a lock operation. -/
def caller? : Action → Option ThreadId
  | .acquire caller _ _ | .commit caller _ _ _ | .release caller _ => some caller
  | .begin _ | .proceed _ | .evict _ _ => none

/-- The entry of which an action needs a handle. -/
def operand? : Action → Option EntryId
  | .acquire _ entry _ | .commit _ entry _ _ | .release _ entry | .evict _ entry => some entry
  | .begin (.copying asked) => some asked.source
  | .begin _ | .proceed _ => none

end Action

/-- A cache, the calls on it, and the guards and fetches, oldest first. -/
structure Workshop where
  traffic : Traffic
  keepers : List Keeper

namespace Workshop

-- What a producer does are turns like all others, made while its fetch is at the producer.

/-- What can be done in one atomic step. -/
inductive Act where
  /-- A lock operation without a guard, or a step of a call. -/
  | plain (action : Action)
  | guard (caller : ThreadId) (entry : EntryId) (request : Request)
  | fetch (asked : Fetch)
  /-- Something is done with the guard or the fetch of a number. -/
  | handle (number : Nat) (handling : Handling)

/-- The guard or the fetch that an act is about. -/
def Act.number? : Act → Option Nat
  | .handle number _ => some number
  | .plain _ | .guard _ _ _ | .fetch _ => none

/-- An act, and what the clock shows at it. -/
structure Turn where
  act : Act
  moment : Moment

/-- An act at a time of a clock that can be read. -/
def Turn.timed (nanos : Nat) (act : Act) : Turn := ⟨act, ⟨.ok ⟨nanos⟩, .ok ⟨0⟩⟩⟩

/-- An empty store of which nobody makes use. -/
def opened (hash : String → Nat) (count : Nat) (positive : 0 < count) (ceiling : Duration) :
    Workshop := ⟨.opened hash count positive ceiling, []⟩

def state (workshop : Workshop) (entry : EntryId) : Entry := workshop.traffic.state entry

/-- Whether a thread can have a handle of an entry. -/
def isShown (workshop : Workshop) (entry : EntryId) : Bool :=
  workshop.traffic.isShown entry
    && !workshop.keepers.any fun keeper => keeper.candidate? == some entry

/-- The thread of an act; a call may be of any thread. -/
def actor? (workshop : Workshop) : Act → Option ThreadId
  | .plain action => action.caller?
  | .guard caller _ _ => some caller
  | .fetch asked => some asked.caller
  | .handle number _ => workshop.keepers[number]?.bind Keeper.owner?

/-- Whether a thread is inside of a fetch of another number. -/
def isAway (workshop : Workshop) (thread : ThreadId) (number? : Option Nat) : Bool :=
  workshop.keepers.zipIdx.any fun (keeper, place) =>
    some place != number? && keeper.occupies thread

/-- Whether the thread of an act is free for it. -/
def admits (workshop : Workshop) (act : Act) : Bool :=
  match workshop.actor? act with
  | some thread => !workshop.isAway thread act.number?
  | none => true

def perform (workshop : Workshop) (act : Act) (moment : Moment) : Workshop :=
  let cache := workshop.traffic.cache
  match act with
  | .plain action =>
    if action.operand?.all workshop.isShown then
      { workshop with traffic := workshop.traffic.take ⟨action, moment⟩ }
    else workshop
  | .guard caller entry request =>
    if workshop.isShown entry then
      let (outcome, next) := (cache.heap.get entry).acquire caller request moment.monotonic
      let made := outcome.toOption.bind (Guard.ofAcquisition? caller entry)
      { traffic := { workshop.traffic with cache := cache.setEntry entry next }
        keepers := workshop.keepers ++ made.toList.map .guard }
    else workshop
  | .fetch asked => { workshop with keepers := workshop.keepers ++ [.fetch asked Fetch.start] }
  | .handle number handling =>
    match workshop.keepers[number]? with
    | none => workshop
    | some keeper =>
      let (next, cache) := keeper.handle handling moment cache
      { traffic := { workshop.traffic with cache }
        keepers := workshop.keepers.set number next }

/-- One turn, or none if its thread is not free for it. -/
def take (workshop : Workshop) (turn : Turn) : Workshop :=
  if workshop.admits turn.act then workshop.perform turn.act turn.moment else workshop

/-- Turns one after the other. -/
def run (workshop : Workshop) (turns : List Turn) : Workshop := turns.foldl take workshop

@[simp] theorem run_nil (workshop : Workshop) : workshop.run [] = workshop := rfl

@[simp] theorem run_concat (workshop : Workshop) (turns : List Turn) (turn : Turn) :
    workshop.run (turns ++ [turn]) = (workshop.run turns).take turn := by
  simp [run]

/-- The move on a lock that a turn comes to, if any. -/
def move? (workshop : Workshop) (turn : Turn) : Option Move :=
  if workshop.admits turn.act then
    match turn.act with
    | .plain action =>
      if action.operand?.all workshop.isShown then some ⟨action, turn.moment⟩ else none
    | .guard caller entry request =>
      if workshop.isShown entry then some ⟨.acquire caller entry request, turn.moment⟩ else none
    | .fetch _ => none
    | .handle number handling =>
      (workshop.keepers[number]?.bind (·.lockAction? handling)).map (⟨·, turn.moment⟩)
  else none

/-- The live guard of a number. -/
def Guarded (workshop : Workshop) (number : Nat) (guard : Guard) : Prop :=
  workshop.keepers[number]?.bind Keeper.guard? = some guard

/-- The fetch of a number stands at a phase. -/
def Stands (workshop : Workshop) (number : Nat) (asked : Fetch) (phase : Fetch.Phase) : Prop :=
  workshop.keepers[number]? = some (.fetch asked phase)

end Workshop

end SingleFlight
