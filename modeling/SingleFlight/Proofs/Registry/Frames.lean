import SingleFlight.Proofs.Fetch.Phases
import SingleFlight.Proofs.Registry.Bureau

namespace SingleFlight

/-- Whether an ending is an error of the registry. -/
def Ending.isRefused : Ending → Bool
  | .failed (.strategy _) => true
  | _ => false

/-- Whether a fetch ends, or is about to, with a registry error. -/
def Fetch.Phase.isRefused : Fetch.Phase → Bool
  | .releasing _ ending | .finished ending => ending.isRefused
  | _ => false

/-- Whether the lookup of a fetch is over. -/
def Fetch.Phase.isPast : Fetch.Phase → Bool
  | .looking _ => false
  | _ => true

namespace Fetch.Phase
variable {phase next : Fetch.Phase}

/-- A fetch through a store meets no error of the registry. -/
theorem Follows.not_refused (follows : phase.Follows next) (honest : phase.isRefused = false) :
    next.isRefused = false := by
  cases follows with
  | leads leads =>
      cases leads with
      | rests | released => exact honest
      | _ => rfl
  | produced | failed | died => rfl

/-- A fetch whose lookup is over does not go back to it. -/
theorem Follows.past (follows : phase.Follows next) (past : phase.isPast = true) : next.isPast = true := by
  cases follows with
  | leads leads =>
      cases leads with
      | rests | looked => exact past
      | _ => rfl
  | produced | failed | died => rfl

end Fetch.Phase

/-- Only the lookup of a fetch changes its store. -/
theorem Fetch.store_step_of_past (fetch : Fetch) {phase : Fetch.Phase} (past : phase.isPast = true)
    (moment : Moment) (cache : Cache) : (fetch.step phase moment cache).2.1.store = cache.store := by
  cases phase with
  | looking lookup => cases past
  | acquiring entry =>
      simp only [Fetch.step, Fetch.acquire]
      split <;> rfl
  | waiting entry reader | producing entry | committing entry content | releasing entry ending
  | finished ending => rfl

/-- Whether the lookup of a fetch is over, or not made at all. -/
def Frame.isPast : Frame → Bool
  | .bypass => true
  | .through _ _ phase => phase.isPast

/-- Whether a fetch ends with an error of the registry. -/
def Frame.isRefused : Frame → Bool
  | .bypass => false
  | .through _ _ phase => phase.isRefused

theorem Frame.isPast_of_isProducing {frame : Frame} (producing : frame.isProducing = true) :
    frame.isPast = true := by
  unfold Frame.isProducing at producing
  split at producing
  · rfl
  · rfl
  · cases producing

/-- What a move can do to the fetches under way. -/
inductive FrameChange (caching : Bool) (frames : List Frame) : List Frame → Prop where
  | same : FrameChange caching frames frames
  | pushed (frame : Frame) (calling : frames.head?.all Frame.isProducing = true)
    (fresh : frame = .bypass ∨
      caching = true ∧ ∃ number fetch, frame = .through number fetch Fetch.start) :
    FrameChange caching frames (frame :: frames)
  | moved {number : Nat} {fetch : Fetch} {phase next : Fetch.Phase} {rest : List Frame}
    (stack : frames = .through number fetch phase :: rest) (follows : phase.Follows next) :
    FrameChange caching frames (.through number fetch next :: rest)
  | popped {top : Frame} {rest : List Frame} (stack : frames = top :: rest) :
    FrameChange caching frames rest

namespace Bureau

/-- What a move can do; most change nothing but the fetches. -/
inductive Effect (bureau : Bureau) : BureauMove → Bureau → Prop where
  | registered {name : String} {store : Nat} (known : store < bureau.stores.length) :
    Effect bureau (.register name store)
      { bureau with registry := (bureau.registry.register name store).2 }
  | redirected {name : String} {next : Registry Nat} (set : bureau.registry.setDefault name = .ok next) :
    Effect bureau (.setDefault name) { bureau with registry := next }
  | enabled : Effect bureau .enable { bureau with registry := bureau.registry.enable }
  | disabled : Effect bureau .disable { bureau with
      registry := bureau.registry.disable
      stores := clearedAmong bureau.stores bureau.registry.targets }
  | cleared : Effect bureau .destroy { bureau with
      stores := clearedAmong bureau.stores bureau.registry.targets }
  | framed {move : BureauMove} {frames : List Frame} (plain : ∀ name store, move ≠ .register name store)
    (change : FrameChange bureau.registry.enabled bureau.frames frames) :
    Effect bureau move { bureau with frames }
  /-- The fetch on top makes a step with its store. -/
  | stepped {number : Nat} {fetch : Fetch} {phase : Fetch.Phase} {rest : List Frame} {store : Store}
    {moment : Moment} (stack : bureau.frames = .through number fetch phase :: rest)
    (found : bureau.stores[number]? = some store) :
    Effect bureau (.proceed moment) { bureau with
      heap := (fetch.step phase moment ⟨bureau.heap, store⟩).2.1.heap
      stores := bureau.stores.set number (fetch.step phase moment ⟨bureau.heap, store⟩).2.1.store
      frames := .through number fetch (fetch.step phase moment ⟨bureau.heap, store⟩).1 :: rest }

variable {bureau after : Bureau} {move : BureauMove}

/-- A fetch goes through a store only where caching is on. -/
theorem enabled_of_through {asked : Inquiry} {number : Nat} {options : FetchOptions}
    (way : bureau.route asked = .through number options) : bureau.registry.enabled = true := by
  cases caching : bureau.registry.enabled with
  | true => rfl
  | false => simp [route, Registry.route, caching] at way

/-- A move that leaves everything as it is. -/
theorem Effect.same (plain : ∀ name store, move ≠ .register name store) : Effect bureau move bureau :=
  .framed plain .same

theorem effect_take (admitted : bureau.admits move = true) : Effect bureau move (bureau.take move) := by
  cases move with
  | register name store =>
      simp only [admits, Bool.and_eq_true, decide_eq_true_eq] at admitted
      exact .registered admitted.2
  | setDefault name =>
      rw [take]
      split
      · next set => exact .redirected set
      · exact .same nofun
  | resolve => exact .same nofun
  | enable => exact .enabled
  | disable =>
      rw [take, clearAll_eq]
      exact .disabled
  | destroy =>
      rw [take, clearAll_eq]
      exact .cleared
  | fetch asked =>
      rw [take, begin]
      split
      · exact .framed nofun (.pushed _ admitted (.inl rfl))
      · exact .same nofun
      · next way => exact .framed nofun (.pushed _ admitted (.inr ⟨enabled_of_through way, _, _, rfl⟩))
  | proceed moment =>
      rw [take, proceed]
      split
      · next stack => exact .framed nofun (.popped stack)
      · next _ stack =>
          split
          · exact .same nofun
          · next found => exact .stepped stack found
      · exact .same nofun
  | expire =>
      rw [take, Bureau.expire]
      split
      · next stack => exact .framed nofun (.moved stack (.leads (.of_expire _)))
      · exact .same nofun
  | produced production elapsed =>
      rw [take, Bureau.produced]
      split
      · next stack => exact .framed nofun (.moved stack (.of_production _ _ _ _))
      · next stack => exact .framed nofun (.popped stack)
      · exact .same nofun

namespace Effect

theorem frames (effect : Effect bureau move after) :
    FrameChange bureau.registry.enabled bureau.frames after.frames := by
  cases effect with
  | registered | redirected | enabled | disabled | cleared => exact .same
  | framed plain change => exact change
  | stepped stack found => exact .moved stack (.leads (.of_step _ _ _ _))

/-- No store comes or goes. -/
theorem length_stores (effect : Effect bureau move after) :
    after.stores.length = bureau.stores.length := by
  cases effect with
  | registered | redirected | enabled | framed => rfl
  | disabled | cleared => exact length_clearedAmong _ _
  | stepped => exact List.length_set

end Effect

end Bureau

end SingleFlight
