import SingleFlight.Proofs.Traffic.Sound
import SingleFlight.Proofs.Workshop.Basic

namespace SingleFlight

namespace Keeper

/-- What a handling does: the keeper, its lock operation, and what is left. -/
inductive Effect (moment : Moment) (cache : Cache) :
    Keeper → Option Action → Keeper → Cache → Prop where
  | nothing {keeper : Keeper} : Effect moment cache keeper none keeper cache
  | committed {live : Guard} {content : String} {tag : Option Tag} :
      Effect moment cache (.guard live) (some (.commit live.owner live.entry content tag)) .spent
        (cache.setEntry live.entry
          ((cache.heap.get live.entry).commit live.owner content tag moment.monotonic).2)
  | dropped {live : Guard} :
      Effect moment cache (.guard live) (some (.release live.owner live.entry)) .spent
        (cache.setEntry live.entry ((cache.heap.get live.entry).release live.owner))
  /-- The lookup of a fetch goes on. -/
  | looked {asked : Fetch} {inner next : Lookup.Phase}
      (goes : (asked.lookup.step inner moment cache).1 = next) :
      Effect moment cache (.fetch asked (.looking inner)) none (.fetch asked (.looking next))
        (asked.lookup.step inner moment cache).2.1
  /-- The lookup of a fetch hands an entry to it. -/
  | handed {asked : Fetch} {inner : Lookup.Phase} {entry : EntryId}
      (found : (asked.lookup.step inner moment cache).1 = .finished (.ok entry)) :
      Effect moment cache (.fetch asked (.looking inner)) none (.fetch asked (.acquiring entry))
        (asked.lookup.step inner moment cache).2.1
  /-- The lookup of a fetch could not read the clock. -/
  | missed {asked : Fetch} {inner : Lookup.Phase} {fault : ClockFault}
      (fails : (asked.lookup.step inner moment cache).1 = .finished (.error fault)) :
      Effect moment cache (.fetch asked (.looking inner)) none
        (.fetch asked (.finished (.crashed fault.message)))
        (asked.lookup.step inner moment cache).2.1
  /-- A fetch has the lock and goes to its producer. -/
  | granted {asked : Fetch} {entry : EntryId}
      (held : ((cache.heap.get entry).acquire asked.caller asked.options.request
        moment.monotonic).1.map Acquisition.held = .ok true) :
      Effect moment cache (.fetch asked (.acquiring entry))
        (some (.acquire asked.caller entry asked.options.request))
        (.fetch asked (.producing entry))
        (cache.setEntry entry ((cache.heap.get entry).acquire asked.caller asked.options.request
          moment.monotonic).2)
  /-- A fetch is denied the lock and goes to the gate. -/
  | denied {asked : Fetch} {entry : EntryId}
      (refused : ((cache.heap.get entry).acquire asked.caller asked.options.request
        moment.monotonic).1.map Acquisition.held = .ok false) :
      Effect moment cache (.fetch asked (.acquiring entry))
        (some (.acquire asked.caller entry asked.options.request))
        (.fetch asked (.waiting entry .arriving))
        (cache.setEntry entry ((cache.heap.get entry).acquire asked.caller asked.options.request
          moment.monotonic).2)
  /-- An acquisition that could not read the clock. -/
  | refused {asked : Fetch} {entry : EntryId} {fault : ClockFault}
      (fails : ((cache.heap.get entry).acquire asked.caller asked.options.request
        moment.monotonic).1 = .error fault) :
      Effect moment cache (.fetch asked (.acquiring entry))
        (some (.acquire asked.caller entry asked.options.request))
        (.fetch asked (.finished (.crashed fault.message)))
        (cache.setEntry entry ((cache.heap.get entry).acquire asked.caller asked.options.request
          moment.monotonic).2)
  /-- A fetch stays at the gate. -/
  | waited {asked : Fetch} {entry : EntryId} {reader next : Reader} :
      Effect moment cache (.fetch asked (.waiting entry reader)) none
        (.fetch asked (.waiting entry next)) cache
  /-- A fetch leaves the gate with what it did not make. -/
  | served {asked : Fetch} {entry : EntryId} {reader : Reader} {ending : Ending}
      (foreign : ∀ content, ending ≠ .fetched (.produced content)) :
      Effect moment cache (.fetch asked (.waiting entry reader)) none
        (.fetch asked (.finished ending)) cache
  | produced {asked : Fetch} {entry : EntryId} {content : String} :
      Effect moment cache (.fetch asked (.producing entry)) none
        (.fetch asked (.committing entry content)) cache
  /-- A producer that brought no content. -/
  | failed {asked : Fetch} {entry : EntryId} {ending : Ending}
      (foreign : ∀ content, ending ≠ .fetched (.produced content)) :
      Effect moment cache (.fetch asked (.producing entry)) none
        (.fetch asked (.releasing entry ending)) cache
  /-- A commit of a fetch that returned, whatever it returned. -/
  | completed {asked : Fetch} {entry : EntryId} {content : String} {outcome : Bool}
      (returns : ((cache.heap.get entry).commit asked.caller content asked.options.tag
        moment.monotonic).1 = .ok outcome) :
      Effect moment cache (.fetch asked (.committing entry content))
        (some (.commit asked.caller entry content asked.options.tag))
        (.fetch asked (.finished (.fetched (.produced content))))
        (cache.setEntry entry ((cache.heap.get entry).commit asked.caller content
          asked.options.tag moment.monotonic).2)
  /-- A commit of a fetch that could not read the clock. -/
  | broken {asked : Fetch} {entry : EntryId} {content : String} {fault : ClockFault}
      (fails : ((cache.heap.get entry).commit asked.caller content asked.options.tag
        moment.monotonic).1 = .error fault) :
      Effect moment cache (.fetch asked (.committing entry content))
        (some (.commit asked.caller entry content asked.options.tag))
        (.fetch asked (.finished (.crashed fault.message)))
        (cache.setEntry entry ((cache.heap.get entry).commit asked.caller content
          asked.options.tag moment.monotonic).2)
  | released {asked : Fetch} {entry : EntryId} {ending : Ending} :
      Effect moment cache (.fetch asked (.releasing entry ending))
        (some (.release asked.caller entry)) (.fetch asked (.finished ending))
        (cache.setEntry entry ((cache.heap.get entry).release asked.caller))

variable (moment : Moment) (cache : Cache)

theorem effect_looking (asked : Fetch) (inner : Lookup.Phase) :
    Effect moment cache (.fetch asked (.looking inner)) none
      (handle (.fetch asked (.looking inner)) .step moment cache).1
      (handle (.fetch asked (.looking inner)) .step moment cache).2 := by
  simp only [handle, Fetch.step]
  cases goes : (asked.lookup.step inner moment cache).1 with
  | finished outcome =>
      cases outcome with
      | ok entry => exact .handed goes
      | error fault => exact .missed goes
  | _ => exact .looked goes

/-- A look at the gate keeps a fetch there or ends it. -/
theorem effect_waiting (asked : Fetch) (entry : EntryId) (reader next : Reader) :
    Effect moment cache (.fetch asked (.waiting entry reader)) none
      (.fetch asked (Fetch.afterLook entry next)) cache := by
  cases next with
  | returned result =>
      cases result with
      | ok content => exact .served (by simp)
      | error error => exact .served (by simp)
  | _ => exact .waited

theorem effect_acquiring (asked : Fetch) (entry : EntryId) :
    Effect moment cache (.fetch asked (.acquiring entry))
      (some (.acquire asked.caller entry asked.options.request))
      (handle (.fetch asked (.acquiring entry)) .step moment cache).1
      (handle (.fetch asked (.acquiring entry)) .step moment cache).2 := by
  simp only [handle, Fetch.step, Fetch.acquire]
  split
  · next fault fails => exact .refused fails
  · next outcome returns =>
      cases held : outcome.held with
      | true => exact .granted (by simp [returns, Except.map, held])
      | false => exact .denied (by simp [returns, Except.map, held])

theorem effect_committing (asked : Fetch) (entry : EntryId) (content : String) :
    Effect moment cache (.fetch asked (.committing entry content))
      (some (.commit asked.caller entry content asked.options.tag))
      (handle (.fetch asked (.committing entry content)) .step moment cache).1
      (handle (.fetch asked (.committing entry content)) .step moment cache).2 := by
  simp only [handle, Fetch.step, Fetch.commit, Guard.commit]
  split
  · next outcome returns => exact .completed returns
  · next fault fails => exact .broken fails

/-- The next step of a fetch has one of the effects. -/
theorem effect_step (asked : Fetch) (phase : Fetch.Phase) :
    Effect moment cache (.fetch asked phase) (asked.lockAction? phase)
      (handle (.fetch asked phase) .step moment cache).1
      (handle (.fetch asked phase) .step moment cache).2 := by
  cases phase with
  | looking inner => exact effect_looking moment cache asked inner
  | acquiring entry => exact effect_acquiring moment cache asked entry
  | waiting entry reader => exact effect_waiting moment cache asked entry reader _
  | producing entry => exact .nothing
  | committing entry content => exact effect_committing moment cache asked entry content
  | releasing entry ending => exact .released
  | finished ending => exact .nothing

/-- Every handling has one of the effects. -/
theorem effect_handle (keeper : Keeper) (handling : Handling) :
    Effect moment cache keeper (keeper.lockAction? handling) (keeper.handle handling moment cache).1
      (keeper.handle handling moment cache).2 := by
  cases keeper with
  | guard live =>
      cases handling with
      | commit content tag => exact .committed
      | drop => exact .dropped
      | _ => exact .nothing
  | spent => cases handling <;> exact .nothing
  | fetch asked phase =>
      cases handling with
      | step => exact effect_step moment cache asked phase
      | produce production elapsed =>
          cases phase with
          | producing entry =>
              cases production with
              | content text => exact .produced
              | failure error => exact .failed (by simp)
              | crash message => exact .failed (by simp)
          | _ => exact .nothing
      | notify =>
          cases phase with
          | waiting entry reader => exact .waited
          | _ => exact .nothing
      | expire =>
          cases phase with
          | waiting entry reader => exact .waited
          | _ => exact .nothing
      | _ => exact .nothing

/-- A handling makes a lookup's step, or a lock operation, or nothing. -/
theorem Effect.cache_cases {moment : Moment} {cache after : Cache} {keeper next : Keeper}
    {lock : Option Action} (effect : Effect moment cache keeper lock next after) :
    (lock = none ∧ after = cache) ∨
    (lock = none ∧ ∃ asked inner, keeper = .fetch asked (.looking inner) ∧
      after = (asked.lookup.step inner moment cache).2.1) ∨
    ∃ action entry, lock = some action ∧ Move.target? ⟨action, moment⟩ = some entry ∧
      after = cache.setEntry entry (Move.applied ⟨action, moment⟩ (cache.heap.get entry)) := by
  cases effect with
  | looked => exact .inr (.inl ⟨rfl, _, _, rfl, rfl⟩)
  | handed => exact .inr (.inl ⟨rfl, _, _, rfl, rfl⟩)
  | missed => exact .inr (.inl ⟨rfl, _, _, rfl, rfl⟩)
  | committed => exact .inr (.inr ⟨_, _, rfl, rfl, rfl⟩)
  | dropped => exact .inr (.inr ⟨_, _, rfl, rfl, rfl⟩)
  | granted => exact .inr (.inr ⟨_, _, rfl, rfl, rfl⟩)
  | denied => exact .inr (.inr ⟨_, _, rfl, rfl, rfl⟩)
  | refused => exact .inr (.inr ⟨_, _, rfl, rfl, rfl⟩)
  | completed => exact .inr (.inr ⟨_, _, rfl, rfl, rfl⟩)
  | broken => exact .inr (.inr ⟨_, _, rfl, rfl, rfl⟩)
  | released => exact .inr (.inr ⟨_, _, rfl, rfl, rfl⟩)
  | _ => exact .inl ⟨rfl, rfl⟩

end Keeper

namespace Workshop

/-- What a turn can make of a workshop. -/
inductive Change (workshop : Workshop) (turn : Turn) : Option Move → Workshop → Prop where
  | nothing : Change workshop turn none workshop
  | plain {action : Action} (acts : turn.act = .plain action)
      (free : workshop.admits turn.act = true)
      (shown : action.operand?.all workshop.isShown = true) :
      Change workshop turn (some ⟨action, turn.moment⟩)
        { workshop with traffic := workshop.traffic.take ⟨action, turn.moment⟩ }
  /-- An acquisition has given a guard. -/
  | guarded {caller : ThreadId} {entry : EntryId} {request : Request}
      (acts : turn.act = .guard caller entry request) (free : workshop.admits turn.act = true)
      (shown : workshop.isShown entry = true)
      (held : ((workshop.state entry).acquire caller request turn.moment.monotonic).1.map
        Acquisition.held = .ok true) :
      Change workshop turn (some ⟨.acquire caller entry request, turn.moment⟩)
        { traffic := { workshop.traffic with
            cache := workshop.traffic.cache.setEntry entry
              ((workshop.state entry).acquire caller request turn.moment.monotonic).2 }
          keepers := workshop.keepers ++ [.guard ⟨caller, entry⟩] }
  /-- An acquisition has given no guard. -/
  | denied {caller : ThreadId} {entry : EntryId} {request : Request}
      (acts : turn.act = .guard caller entry request) (free : workshop.admits turn.act = true)
      (shown : workshop.isShown entry = true)
      (refused : ((workshop.state entry).acquire caller request turn.moment.monotonic).1.map
        Acquisition.held ≠ .ok true) :
      Change workshop turn (some ⟨.acquire caller entry request, turn.moment⟩)
        { workshop with
          traffic := { workshop.traffic with
            cache := workshop.traffic.cache.setEntry entry
              ((workshop.state entry).acquire caller request turn.moment.monotonic).2 } }
  | begun {asked : Fetch} (acts : turn.act = .fetch asked)
      (free : workshop.admits turn.act = true) :
      Change workshop turn none
        { workshop with keepers := workshop.keepers ++ [.fetch asked Fetch.start] }
  | handled {number : Nat} {handling : Handling} {keeper next : Keeper} {lock : Option Action}
      {cache : Cache} (acts : turn.act = .handle number handling)
      (free : workshop.admits turn.act = true) (place : workshop.keepers[number]? = some keeper)
      (effect : keeper.Effect turn.moment workshop.traffic.cache lock next cache) :
      Change workshop turn (lock.map (⟨·, turn.moment⟩))
        { traffic := { workshop.traffic with cache }
          keepers := workshop.keepers.set number next }

variable {workshop : Workshop} {turn : Turn}

/-- An acquisition gives a guard exactly if its caller then holds the lock. -/
theorem change_guard {caller : ThreadId} {entry : EntryId} {request : Request}
    (acts : turn.act = .guard caller entry request) (free : workshop.admits turn.act = true)
    (shown : workshop.isShown entry = true) :
    workshop.Change turn (some ⟨.acquire caller entry request, turn.moment⟩)
      (workshop.perform (.guard caller entry request) turn.moment) := by
  have denied := Change.denied acts free shown
  have guarded := Change.guarded acts free shown
  unfold perform
  simp only [shown, if_true]
  show workshop.Change turn _ ⟨⟨workshop.traffic.cache.setEntry entry ((workshop.state entry).acquire
    caller request turn.moment.monotonic).2, _⟩, workshop.keepers ++ (((workshop.state entry).acquire
      caller request turn.moment.monotonic).1.toOption.bind _).toList.map .guard⟩
  generalize ((workshop.state entry).acquire caller request turn.moment.monotonic) = result
    at denied guarded ⊢
  obtain ⟨outcome, next⟩ := result
  cases outcome with
  | error fault => simpa [Except.toOption] using denied (by simp [Except.map])
  | ok outcome =>
      cases held : outcome.held with
      | true =>
          simpa [Except.toOption, Guard.ofAcquisition?, held] using
            guarded (by simp [Except.map, held])
      | false =>
          simpa [Except.toOption, Guard.ofAcquisition?, held] using
            denied (by simp [Except.map, held])

/-- Every turn makes one of the changes. -/
theorem change_take (workshop : Workshop) (turn : Turn) :
    workshop.Change turn (workshop.move? turn) (workshop.take turn) := by
  unfold move? take
  split
  · next free =>
      cases acts : turn.act with
      | plain action =>
          simp only [perform]
          split
          · next shown => exact .plain acts free shown
          · exact .nothing
      | guard caller entry request =>
          by_cases shown : workshop.isShown entry = true
          · simp only [shown, if_true]
            exact change_guard acts free shown
          · simp only [perform, shown]
            exact .nothing
      | fetch asked => exact .begun acts free
      | handle number handling =>
          cases place : workshop.keepers[number]? with
          | none => simpa [perform, place] using Change.nothing
          | some keeper =>
              have effect := keeper.effect_handle turn.moment workshop.traffic.cache handling
              simpa [perform, place] using Change.handled acts free place effect
  · exact .nothing

/-- The handle a move operates on is one its action needs. -/
theorem operand?_of_target {move : Move} {entry : EntryId} (target : move.target? = some entry) :
    move.action.operand? = some entry := by
  obtain ⟨action, moment⟩ := move
  cases action <;> first | exact target | cases target

/-- An entry that threads can see has been made. -/
theorem holds_of_isShown {entry : EntryId} (shown : workshop.isShown entry = true) :
    workshop.traffic.isShown entry = true ∧ workshop.traffic.cache.heap.holds entry = true := by
  rw [isShown, Bool.and_eq_true] at shown
  exact ⟨shown.1, Traffic.holds_of_isShown shown.1⟩

namespace Change
variable {move? : Option Move} {after : Workshop}

/-- Only moves on its lock change an entry that is there. -/
theorem state_cases (change : workshop.Change turn move? after) {entry : EntryId}
    (known : workshop.traffic.cache.heap.holds entry = true) :
    (∃ move, move? = some move ∧ move.target? = some entry ∧
      after.state entry = move.applied (workshop.state entry)) ∨
    ((∀ move, move? = some move → move.target? ≠ some entry) ∧
      after.state entry = workshop.state entry) := by
  -- Every lock operation but a plain one sets the entry that it is about.
  have operated (move : Move) {target : EntryId} (about : move.target? = some target) :
      (∃ same, some move = some same ∧ same.target? = some entry ∧
        (workshop.traffic.cache.setEntry target
          (move.applied (workshop.state target))).heap.get entry =
            same.applied (workshop.state entry)) ∨
      ((∀ same, some move = some same → same.target? ≠ some entry) ∧
        (workshop.traffic.cache.setEntry target
          (move.applied (workshop.state target))).heap.get entry = workshop.state entry) := by
    by_cases same : target = entry
    · subst same
      exact .inl ⟨move, rfl, about, Heap.get_set_self known _⟩
    · right
      refine ⟨?_, Heap.get_set_of_ne (Ne.symm same) _⟩
      rintro _ ⟨⟩ other
      rw [about] at other
      exact same (Option.some.inj other)
  cases change with
  | nothing => exact .inr ⟨by simp, rfl⟩
  | @plain action acts free shown =>
      generalize moved : (⟨action, turn.moment⟩ : Move) = move
      cases about : move.target? with
      | none =>
          right
          refine ⟨?_, Traffic.state_take_of_aside about known⟩
          rintro _ ⟨⟩ target
          rw [about] at target
          cases target
      | some target =>
          have needs : action.operand? = some target := by
            have needs := operand?_of_target about
            rwa [← moved] at needs
          rw [needs] at shown
          have seen : workshop.isShown target = true := shown
          have states : (workshop.traffic.take move).state entry = _ :=
            Traffic.state_take_of_target about entry
          by_cases same : entry = target
          · subst same
            left
            exact ⟨move, rfl, about, states.trans (if_pos ⟨(holds_of_isShown seen).1, rfl⟩)⟩
          · right
            refine ⟨?_, states.trans (if_neg fun both => same both.2)⟩
            rintro _ ⟨⟩ other
            rw [about] at other
            exact same (Option.some.inj other).symm
  | @guarded caller target request =>
      exact operated ⟨.acquire caller target request, turn.moment⟩ rfl
  | @denied caller target request =>
      exact operated ⟨.acquire caller target request, turn.moment⟩ rfl
  | begun => exact .inr ⟨by simp, rfl⟩
  | @handled number handling keeper next lock cache acts free place effect =>
      rcases effect.cache_cases with ⟨rfl, rfl⟩ | ⟨rfl, asked, inner, -, rfl⟩ |
        ⟨action, target, rfl, about, rfl⟩
      · exact .inr ⟨by simp, rfl⟩
      · have kept := (Call.effect_step turn.moment workshop.traffic.cache
          (.lookup asked.lookup inner)).keeps known
        exact .inr ⟨by simp, kept.2⟩
      · exact operated _ about

/-- A keeper after a turn was kept, or made, or handled by it. -/
theorem keepers_cases (change : workshop.Change turn move? after) {number : Nat} {keeper : Keeper}
    (there : after.keepers[number]? = some keeper) :
    (workshop.keepers[number]? = some keeper ∧ (turn.act.number? = some number → after = workshop)) ∨
    (∃ live request, keeper = .guard live ∧ workshop.isShown live.entry = true ∧
      move? = some ⟨.acquire live.owner live.entry request, turn.moment⟩ ∧
      ((workshop.state live.entry).acquire live.owner request turn.moment.monotonic).1.map
        Acquisition.held = .ok true) ∨
    (∃ asked, keeper = .fetch asked Fetch.start) ∨
    (∃ old lock, workshop.keepers[number]? = some old ∧ turn.act.number? = some number ∧
      move? = lock.map (⟨·, turn.moment⟩) ∧
      old.Effect turn.moment workshop.traffic.cache lock keeper after.traffic.cache) := by
  cases change with
  | nothing => exact .inl ⟨there, fun _ => rfl⟩
  | plain acts => exact .inl ⟨there, by simp [acts, Act.number?]⟩
  | guarded acts free shown held =>
      rw [List.getElem?_append] at there
      split at there
      · exact .inl ⟨there, by simp [acts, Act.number?]⟩
      · obtain rfl := List.mem_singleton.mp (List.mem_of_getElem? there)
        exact .inr (.inl ⟨_, _, rfl, shown, rfl, held⟩)
  | denied acts => exact .inl ⟨there, by simp [acts, Act.number?]⟩
  | begun acts =>
      rw [List.getElem?_append] at there
      split at there
      · exact .inl ⟨there, by simp [acts, Act.number?]⟩
      · obtain rfl := List.mem_singleton.mp (List.mem_of_getElem? there)
        exact .inr (.inr (.inl ⟨_, rfl⟩))
  | @handled place handling old next lock cache acts free known effect =>
      have about : turn.act.number? = some place := by rw [acts]; rfl
      by_cases same : place = number
      · subst same
        have bound : place < workshop.keepers.length := (List.getElem?_eq_some_iff.mp known).1
        rw [List.getElem?_set_self bound] at there
        obtain rfl := Option.some.inj there
        exact .inr (.inr (.inr ⟨old, lock, known, about, rfl, effect⟩))
      · rw [List.getElem?_set_ne same] at there
        refine .inl ⟨there, ?_⟩
        rw [about]
        exact fun other => absurd (Option.some.inj other) same

/-- A thread inside a fetch operates on locks by that fetch alone. -/
theorem number_of_occupies {move : Move} (change : workshop.Change turn (some move) after)
    {thread : ThreadId} (caller : move.action.caller? = some thread) {number : Nat} {keeper : Keeper}
    (there : workshop.keepers[number]? = some keeper) (inside : keeper.occupies thread = true) :
    turn.act.number? = some number := by
  have apart (free : workshop.admits turn.act = true)
      (actor : workshop.actor? turn.act = some thread) : turn.act.number? = some number := by
    rw [admits, actor] at free
    by_contra other
    have away : workshop.isAway thread turn.act.number? = true := by
      refine List.any_eq_true.mpr ⟨(keeper, number), ?_, ?_⟩
      · exact List.mem_zipIdx_iff_getElem?.mpr there
      · simp [inside, Ne.symm other]
    simp [away] at free
  generalize moved : some move = move? at change
  cases change with
  | nothing => cases moved
  | plain acts free =>
      obtain rfl := Option.some.inj moved
      exact apart free (by rw [acts]; exact caller)
  | guarded acts free =>
      obtain rfl := Option.some.inj moved
      exact apart free (by rw [acts]; exact caller)
  | denied acts free =>
      obtain rfl := Option.some.inj moved
      exact apart free (by rw [acts]; exact caller)
  | begun => cases moved
  | @handled place handling old next lock cache acts free known effect =>
      have owner : old.owner? = some thread := by
        cases effect <;> cases moved <;> exact caller
      exact apart free (by rw [acts]; simp [actor?, known, owner])

end Change

end Workshop

end SingleFlight
