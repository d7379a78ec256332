import SingleFlight.Proofs.Entry.Cases
import SingleFlight.Proofs.Traffic.Steps

namespace SingleFlight

namespace Heap
variable (heap : Heap)

@[simp] theorem holds_set (id other : EntryId) (entry : Entry) :
    (heap.set id entry).holds other = heap.holds other := by
  simp [holds, set]

/-- Putting the state of an entry in its own place changes nothing. -/
@[simp] theorem set_get (id : EntryId) : heap.set id (heap.get id) = heap := by
  obtain ⟨entries⟩ := heap
  by_cases inside : id.index < entries.size
  · simp [set, get, inside, Array.setIfInBounds]
  · simp [set, Array.setIfInBounds, inside]

/-- Of two states put in place of an entry the last counts. -/
@[simp] theorem set_set (id : EntryId) (first second : Entry) :
    (heap.set id first).set id second = heap.set id second := by
  simp [set]

/-- Behind an identity that was not given out stands nothing. -/
theorem get_of_not_holds {heap : Heap} {id : EntryId} (unknown : heap.holds id = false) :
    heap.get id = blank := by
  have beyond : heap.entries.size ≤ id.index := by simpa [holds] using unknown
  simp [get, beyond]

theorem holds_add_iff (entry : Entry) (id : EntryId) :
    (heap.add entry).holds id = true ↔ heap.holds id = true ∨ id = heap.next := by
  obtain ⟨index⟩ := id
  simp only [holds, add, next, Array.size_push, decide_eq_true_eq, EntryId.mk.injEq]
  omega

/-- An identity that was given out is not the next one. -/
theorem ne_next_of_holds {id : EntryId} (known : heap.holds id = true) : id ≠ heap.next := by
  rintro rfl
  simp [holds, next] at known

/-- A new entry leaves those that are there as they are. -/
theorem get_add_of_holds {id : EntryId} (known : heap.holds id = true) (entry : Entry) :
    (heap.add entry).get id = heap.get id :=
  get_add_of_ne (heap.ne_next_of_holds known) entry

end Heap

namespace Entry
variable (entry : Entry)

/-- The ceiling is fixed at construction, and what is served stays in place. -/
structure Continues (after : Entry) : Prop where
  ceiling : after.maxLockHold = entry.maxLockHold
  served : (entry.gateOpen = true → entry.content ≠ none) →
    after.gateOpen = true → after.content ≠ none

theorem continues_acquire (caller : ThreadId) (request : Request) (reading : Reading) :
    entry.Continues (entry.acquire caller request reading).2 := by
  unfold acquire
  repeat' split
  all_goals exact ⟨rfl, id⟩

theorem continues_commit (caller : ThreadId) (content : String) (tag : Option Tag)
    (reading : Reading) : entry.Continues (entry.commit caller content tag reading).2 := by
  rw [commit_eq]
  split
  · cases reading <;> exact ⟨rfl, by simp⟩
  · exact ⟨rfl, id⟩

theorem continues_release (caller : ThreadId) : entry.Continues (entry.release caller) := by
  unfold release
  split <;> exact ⟨rfl, id⟩

end Entry

theorem Move.continues_applied (move : Move) (entry : Entry) :
    entry.Continues (move.applied entry) := by
  unfold applied
  split
  · exact entry.continues_acquire _ _ _
  · exact entry.continues_commit _ _ _ _
  · exact entry.continues_release _
  all_goals exact ⟨rfl, id⟩

namespace Call.Effect
variable {call next : Call} {moment : Moment} {cache after : Cache}

/-- No step of a call changes an entry that is there. -/
theorem keeps (effect : call.Effect moment cache next after) {entry : EntryId}
    (known : cache.heap.holds entry = true) :
    after.heap.holds entry = true ∧ after.heap.get entry = cache.heap.get entry := by
  cases effect with
  | quiet => exact ⟨known, rfl⟩
  | created =>
      exact ⟨(Heap.holds_add_iff _ _ _).mpr (.inl known), Heap.get_add_of_holds _ known _⟩
  | stamped =>
      exact ⟨(Heap.holds_add_iff _ _ _).mpr (.inl known), Heap.get_add_of_holds _ known _⟩
  | copied =>
      exact ⟨(Heap.holds_add_iff _ _ _).mpr (.inl known), Heap.get_add_of_holds _ known _⟩
  | replaced => exact ⟨known, rfl⟩
  | evicted => exact ⟨known, rfl⟩
  | removed => exact ⟨known, rfl⟩

/-- A candidate is new when a call gets it, and unlocked. -/
theorem candidate_eq (effect : call.Effect moment cache next after) {entry : EntryId}
    (known : next.candidate? = some entry) :
    entry = cache.heap.next ∧ after.heap.holds entry = true ∧
      (after.heap.get entry).hold = none := by
  cases effect with
  | quiet _ _ none => rw [none] at known; cases known
  | stamped =>
      obtain rfl : cache.heap.next = entry := by simpa [candidate?] using known
      exact ⟨rfl, (Heap.holds_add_iff _ _ _).mpr (.inr rfl), by simp [Entry.seeded]⟩
  | _ => cases known

/-- A call keeps its entry, or works on one that is mapped. -/
theorem found_cases (effect : call.Effect moment cache next after) {entry : EntryId}
    (known : next.found? = some entry) :
    call.found? = some entry ∨ ∃ key, cache.store.lookup key = some entry := by
  cases effect with
  | quiet _ _ _ found => exact found entry known
  | stamped starts =>
      subst starts
      exact .inl known
  | _ => cases known

/-- A key keeps its entry, or alone gets a new one or a candidate. -/
theorem lookup_cases (effect : call.Effect moment cache next after) {key : String}
    {entry : EntryId} (maps : after.store.lookup key = some entry) :
    cache.store.lookup key = some entry ∨
      (next.candidate? = none ∧
        (entry = cache.heap.next ∧ after.heap.holds entry = true ∨
          call.candidate? = some entry) ∧
        ∀ other, other ≠ key → after.store.lookup other = cache.store.lookup other) := by
  cases effect with
  | quiet mapping => exact .inl (by rw [← mapping]; exact maps)
  | @created asked now starts absent read =>
      rw [Store.lookup_create] at maps
      split at maps
      · next same =>
          obtain rfl := Option.some.inj maps
          refine .inr ⟨rfl, .inl ⟨rfl, (Heap.holds_add_iff _ _ _).mpr (.inr rfl)⟩, ?_⟩
          intro other apart
          rw [Store.lookup_create, if_neg (by rwa [← same])]
      · exact .inl maps
  | stamped => exact .inl maps
  | copied => exact .inl maps
  | @replaced asked found candidate starts vacant =>
      rw [Store.lookup_replace] at maps
      split at maps
      · next same =>
          obtain rfl := Option.some.inj maps
          refine .inr ⟨rfl, .inr (by rw [starts]; rfl), ?_⟩
          intro other apart
          rw [Store.lookup_replace, if_neg (by rwa [← same])]
      · exact .inl maps
  | evicted starts current =>
      rw [Store.lookup_evict] at maps
      split at maps
      · cases maps
      · exact .inl maps
  | removed starts mapping =>
      rcases mapping key with same | gone
      · exact .inl (by rw [← same]; exact maps)
      · rw [gone] at maps; cases maps

/-- The ceiling of a store never changes. -/
theorem ceiling_eq (effect : call.Effect moment cache next after) :
    after.store.maxLockHold = cache.store.maxLockHold := by
  cases effect with
  | quiet _ ceiling => exact ceiling
  | removed _ _ ceiling => exact ceiling
  | evicted => exact Store.maxLockHold_evict _ _ _
  | _ => rfl

/-- A new entry has its ceiling, and its gate open over content. -/
theorem state_cases (effect : call.Effect moment cache next after) (entry : EntryId) :
    (after.heap.get entry = cache.heap.get entry ∧
      (after.heap.holds entry = true → cache.heap.holds entry = true)) ∨
    (((after.heap.get entry).maxLockHold = cache.store.maxLockHold ∨
        ∃ found, call.found? = some found ∧
          (after.heap.get entry).maxLockHold = (cache.heap.get found).maxLockHold) ∧
      (after.heap.get entry).gateOpen = (after.heap.get entry).content.isSome) := by
  by_cases new : entry = cache.heap.next
  · subst new
    cases effect with
    | created =>
        rw [Heap.get_add_next]
        exact .inr ⟨.inl rfl, rfl⟩
    | @stamped asked found content now starts read =>
        rw [Heap.get_add_next]
        exact .inr ⟨.inr ⟨found, by rw [starts]; rfl, rfl⟩, rfl⟩
    | @copied asked content now starts read =>
        rw [Heap.get_add_next]
        exact .inr ⟨.inr ⟨asked.source, by rw [starts]; rfl, rfl⟩, rfl⟩
    | _ => exact .inl ⟨rfl, id⟩
  · have old (state : Entry) : (cache.heap.add state).get entry = cache.heap.get entry ∧
        ((cache.heap.add state).holds entry = true → cache.heap.holds entry = true) :=
      ⟨Heap.get_add_of_ne new state, fun known =>
        ((Heap.holds_add_iff _ _ _).mp known).resolve_right new⟩
    cases effect with
    | created => exact .inl (old _)
    | stamped => exact .inl (old _)
    | copied => exact .inl (old _)
    | _ => exact .inl ⟨rfl, id⟩

end Call.Effect

namespace Traffic

theorem isShown_iff (traffic : Traffic) (entry : EntryId) :
    traffic.isShown entry = true ↔ traffic.cache.heap.holds entry = true ∧
      ∀ call ∈ traffic.calls, call.candidate? ≠ some entry := by
  simp [isShown]

theorem holds_of_isShown {traffic : Traffic} {entry : EntryId}
    (shown : traffic.isShown entry = true) : traffic.cache.heap.holds entry = true :=
  ((traffic.isShown_iff entry).mp shown).1

/-- What holds of the traffic after every run. -/
structure Sound (traffic : Traffic) : Prop where
  mapped : ∀ key entry, traffic.lookup key = some entry → traffic.isShown entry = true
  injective : ∀ key other entry,
    traffic.lookup key = some entry → traffic.lookup other = some entry → key = other
  found : ∀ call ∈ traffic.calls, ∀ entry, call.found? = some entry →
    traffic.isShown entry = true
  hidden : ∀ call ∈ traffic.calls, ∀ entry, call.candidate? = some entry →
    traffic.cache.heap.holds entry = true ∧ (traffic.state entry).hold = none
  single : ∀ number other : Nat, ∀ one two, traffic.calls[number]? = some one →
    traffic.calls[other]? = some two → ∀ entry, one.candidate? = some entry →
      two.candidate? = some entry → number = other
  ceiling : ∀ entry, traffic.cache.heap.holds entry = true →
    (traffic.state entry).maxLockHold = traffic.cache.store.maxLockHold
  served : ∀ entry, (traffic.state entry).gateOpen = true → (traffic.state entry).content ≠ none

variable {traffic after : Traffic} {move : Move}

/-- After a call's step the calls are that one and the others. -/
theorem set_calls_cases {number place : Nat} {next other : Call}
    (there : (traffic.calls.set number next)[place]? = some other) :
    place = number ∧ other = next ∨ place ≠ number ∧ traffic.calls[place]? = some other := by
  by_cases same : place = number
  · subst same
    rw [List.getElem?_set_self'] at there
    obtain ⟨old, -, rfl⟩ := Option.map_eq_some_iff.mp there
    exact .inl ⟨rfl, rfl⟩
  · rw [List.getElem?_set_ne (Ne.symm same)] at there
    exact .inr ⟨same, there⟩

/-- After a step of a call each call is that one or another. -/
theorem mem_set_calls {number : Nat} {next other : Call}
    (inside : other ∈ traffic.calls.set number next) :
    other = next ∨ ∃ place, place ≠ number ∧ traffic.calls[place]? = some other := by
  obtain ⟨place, there⟩ := List.mem_iff_getElem?.mp inside
  rcases set_calls_cases there with ⟨-, same⟩ | ⟨apart, old⟩
  · exact .inl same
  · exact .inr ⟨place, apart, old⟩

/-- An entry that threads can see stays in their sight. -/
theorem Change.shown (change : traffic.Change move after) {entry : EntryId}
    (shown : traffic.isShown entry = true) : after.isShown entry = true := by
  obtain ⟨known, apart⟩ := (traffic.isShown_iff entry).mp shown
  cases change with
  | nothing => exact shown
  | begun _ candidate =>
      refine (isShown_iff _ _).mpr ⟨known, fun other inside => ?_⟩
      rcases List.mem_append.mp inside with old | new
      · exact apart other old
      · simp [List.mem_singleton.mp new, candidate]
  | proceeded place effect kind =>
      refine (isShown_iff _ _).mpr ⟨(effect.keeps known).1, fun other inside => ?_⟩
      rcases mem_set_calls inside with rfl | ⟨place, -, old⟩
      · intro same
        exact Heap.ne_next_of_holds _ known (effect.candidate_eq same).1
      · exact apart other (List.mem_of_getElem? old)
  | operated => exact (isShown_iff _ _).mpr ⟨by simpa [Cache.setEntry] using known, apart⟩
  | evicted => exact (isShown_iff _ _).mpr ⟨known, apart⟩

/-- An entry that has been made stays made. -/
theorem holds_take {entry : EntryId} (move : Move)
    (known : traffic.cache.heap.holds entry = true) :
    (traffic.take move).cache.heap.holds entry = true := by
  have change := traffic.change_take move
  generalize traffic.take move = after at change ⊢
  cases change with
  | proceeded place effect kind => exact (effect.keeps known).1
  | operated => exact (Heap.holds_set _ _ _ _).trans known
  | _ => exact known

/-- An entry that has been made stays made on every run. -/
theorem holds_run {entry : EntryId} (known : traffic.cache.heap.holds entry = true)
    (moves : List Move) : (traffic.run moves).cache.heap.holds entry = true := by
  induction moves generalizing traffic with
  | nil => exact known
  | cons move rest ih => exact ih (holds_take move known)

/-- An entry that threads can see stays in their sight on every run. -/
theorem isShown_run {entry : EntryId} (shown : traffic.isShown entry = true) (moves : List Move) :
    (traffic.run moves).isShown entry = true := by
  induction moves generalizing traffic with
  | nil => exact shown
  | cons move rest ih => exact ih ((traffic.change_take move).shown shown)

/-- A lock operation changes one entry. -/
theorem Change.state_operated (traffic : Traffic) {entry : EntryId} (state : Entry)
    (known : traffic.cache.heap.holds entry = true) (other : EntryId) :
    (traffic.cache.setEntry entry state).heap.get other =
      if other = entry then state else traffic.state other := by
  split
  · next same => rw [same]; exact Heap.get_set_self known state
  · next apart => exact Heap.get_set_of_ne apart state

/-- A lock operation changes its entry if there is a handle. -/
theorem state_onEntry (traffic : Traffic) (target entry : EntryId) (change : Entry → Entry) :
    (traffic.onEntry target change).state entry =
      if traffic.isShown target = true ∧ entry = target then change (traffic.state target)
      else traffic.state entry := by
  unfold onEntry
  by_cases shown : traffic.isShown target = true
  · have known := holds_of_isShown shown
    simp only [shown, if_true, true_and]
    exact Change.state_operated traffic (change (traffic.state target)) known entry
  · simp [shown]

/-- A move about an entry changes it by its handle, and no other. -/
theorem state_take_of_target {entry : EntryId} (target : move.target? = some entry)
    (other : EntryId) :
    (traffic.take move).state other =
      if traffic.isShown entry = true ∧ other = entry then move.applied (traffic.state entry)
      else traffic.state other := by
  obtain ⟨action, moment⟩ := move
  cases action with
  | acquire caller name request =>
      obtain rfl : name = entry := by simpa [Move.target?] using target
      exact traffic.state_onEntry name other _
  | commit caller name content tag =>
      obtain rfl : name = entry := by simpa [Move.target?] using target
      exact traffic.state_onEntry name other _
  | release caller name =>
      obtain rfl : name = entry := by simpa [Move.target?] using target
      exact traffic.state_onEntry name other _
  | _ => cases target

/-- A move that is about no entry changes none that is there. -/
theorem state_take_of_aside (aside : move.target? = none) {entry : EntryId}
    (known : traffic.cache.heap.holds entry = true) :
    (traffic.take move).state entry = traffic.state entry := by
  have change := traffic.change_take move
  generalize traffic.take move = after at change ⊢
  cases change with
  | nothing => rfl
  | begun => rfl
  | proceeded place effect kind => exact (effect.keeps known).2
  | operated target => rw [aside] at target; cases target
  | evicted => rfl

namespace Sound

/-- A candidate is not in the sight of threads. -/
theorem ne_of_shown {call : Call} (inside : call ∈ traffic.calls) {entry candidate : EntryId}
    (made : call.candidate? = some candidate) (shown : traffic.isShown entry = true) :
    candidate ≠ entry := by
  rintro rfl
  exact ((traffic.isShown_iff candidate).mp shown).2 call inside made

theorem begun (sound : traffic.Sound) {call : Call}
    (found : ∀ entry, call.found? = some entry → traffic.isShown entry = true)
    (candidate : call.candidate? = none)
    (shown : ∀ entry, traffic.isShown entry = true →
      (⟨traffic.cache, traffic.calls ++ [call]⟩ : Traffic).isShown entry = true) :
    (⟨traffic.cache, traffic.calls ++ [call]⟩ : Traffic).Sound where
  mapped key entry maps := shown entry (sound.mapped key entry maps)
  injective := sound.injective
  found other inside entry known := by
    rcases List.mem_append.mp inside with old | new
    · exact shown entry (sound.found other old entry known)
    · rw [List.mem_singleton.mp new] at known
      exact shown entry (found entry known)
  hidden other inside entry known := by
    rcases List.mem_append.mp inside with old | new
    · exact sound.hidden other old entry known
    · rw [List.mem_singleton.mp new, candidate] at known
      cases known
  single number other one two first second entry known same := by
    have old (place : Nat) (either : Call)
        (there : (traffic.calls ++ [call])[place]? = some either)
        (known : either.candidate? = some entry) : traffic.calls[place]? = some either := by
      rw [List.getElem?_append] at there
      split at there
      · exact there
      · obtain rfl := List.mem_singleton.mp (List.mem_of_getElem? there)
        rw [candidate] at known
        cases known
    exact sound.single number other one two (old number one first known)
      (old other two second same) entry known same
  ceiling := sound.ceiling
  served := sound.served

theorem proceeded (sound : traffic.Sound) {number : Nat} {call next : Call} {cache : Cache}
    (known : traffic.calls[number]? = some call)
    (effect : call.Effect move.moment traffic.cache next cache)
    (shown : ∀ entry, traffic.isShown entry = true →
      (⟨cache, traffic.calls.set number next⟩ : Traffic).isShown entry = true) :
    (⟨cache, traffic.calls.set number next⟩ : Traffic).Sound where
  mapped key entry maps := by
    rcases effect.lookup_cases maps with old | ⟨none, placed, -⟩
    · exact shown entry (sound.mapped key entry old)
    · refine (isShown_iff _ _).mpr ⟨?_, fun other inside same => ?_⟩
      · rcases placed with ⟨-, there⟩ | candidate
        · exact there
        · exact (effect.keeps (sound.hidden call (List.mem_of_getElem? known) _ candidate).1).1
      · rcases mem_set_calls inside with rfl | ⟨place, apart, old⟩
        · rw [none] at same
          cases same
        · rcases placed with ⟨rfl, -⟩ | candidate
          · have there := (sound.hidden other (List.mem_of_getElem? old) _ same).1
            exact Heap.ne_next_of_holds _ there rfl
          · exact apart (sound.single place number other call old known entry same candidate)
  injective key other entry first second := by
    by_contra apart
    have hidden (name : String) (old : traffic.cache.store.lookup name = some entry)
        (placed : entry = traffic.cache.heap.next ∧ cache.heap.holds entry = true ∨
          call.candidate? = some entry) : False := by
      have seen := sound.mapped name entry old
      rcases placed with ⟨new, -⟩ | candidate
      · exact Heap.ne_next_of_holds _ (holds_of_isShown seen) new
      · exact ne_of_shown (List.mem_of_getElem? known) candidate seen rfl
    rcases effect.lookup_cases first with one | ⟨-, placed, elsewhere⟩
    · rcases effect.lookup_cases second with two | ⟨-, placed, -⟩
      · exact apart (sound.injective key other entry one two)
      · exact hidden key one placed
    · have same := elsewhere other (Ne.symm apart)
      exact hidden other (same ▸ second) placed
  found other inside entry works := by
    rcases mem_set_calls inside with rfl | ⟨place, -, old⟩
    · rcases effect.found_cases works with before | ⟨key, maps⟩
      · exact shown entry (sound.found call (List.mem_of_getElem? known) entry before)
      · exact shown entry (sound.mapped key entry maps)
    · exact shown entry (sound.found other (List.mem_of_getElem? old) entry works)
  hidden other inside entry made := by
    rcases mem_set_calls inside with rfl | ⟨place, -, old⟩
    · exact (effect.candidate_eq made).2
    · have before := sound.hidden other (List.mem_of_getElem? old) entry made
      have kept := effect.keeps before.1
      exact ⟨kept.1, (congrArg Entry.hold kept.2).trans before.2⟩
  single place other one two first second entry made same := by
    have new (place : Nat) (either : Call) (old : traffic.calls[place]? = some either)
        (made : either.candidate? = some entry) (also : next.candidate? = some entry) : False := by
      have there := (sound.hidden either (List.mem_of_getElem? old) entry made).1
      exact Heap.ne_next_of_holds _ there (effect.candidate_eq also).1
    rcases set_calls_cases first with ⟨here, rfl⟩ | ⟨-, one⟩
    · rcases set_calls_cases second with ⟨also, -⟩ | ⟨-, two⟩
      · rw [here, also]
      · exact (new other _ two same made).elim
    · rcases set_calls_cases second with ⟨-, rfl⟩ | ⟨-, two⟩
      · exact (new place _ one made same).elim
      · exact sound.single place other _ _ one two entry made same
  ceiling entry there := by
    show (cache.heap.get entry).maxLockHold = cache.store.maxLockHold
    rw [effect.ceiling_eq]
    rcases effect.state_cases entry with ⟨same, old⟩ | ⟨stored | ⟨source, works, copied⟩, -⟩
    · rw [same]
      exact sound.ceiling entry (old there)
    · exact stored
    · rw [copied]
      have seen := sound.found call (List.mem_of_getElem? known) source works
      exact sound.ceiling source (holds_of_isShown seen)
  served entry isOpen := by
    have state : (cache.heap.get entry).gateOpen = true := isOpen
    show (cache.heap.get entry).content ≠ none
    rcases effect.state_cases entry with ⟨same, -⟩ | ⟨-, gate⟩
    · rw [same] at state ⊢
      exact sound.served entry state
    · rw [state] at gate
      exact Option.isSome_iff_ne_none.mp gate.symm

theorem operated (sound : traffic.Sound) {entry : EntryId}
    (shown : traffic.isShown entry = true) :
    (⟨traffic.cache.setEntry entry (move.applied (traffic.state entry)), traffic.calls⟩ :
      Traffic).Sound := by
  have known := holds_of_isShown shown
  have state := Change.state_operated traffic (move.applied (traffic.state entry)) known
  have continues := move.continues_applied (traffic.state entry)
  have seen (other : EntryId) (old : traffic.isShown other = true) :
      (⟨traffic.cache.setEntry entry (move.applied (traffic.state entry)), traffic.calls⟩ :
        Traffic).isShown other = true := by
    have parts := (traffic.isShown_iff other).mp old
    exact (isShown_iff _ _).mpr ⟨by simpa [Cache.setEntry] using parts.1, parts.2⟩
  exact {
    mapped := fun key other maps => seen other (sound.mapped key other maps)
    injective := sound.injective
    found := fun call inside other works => seen other (sound.found call inside other works)
    hidden := by
      intro call inside other made
      have before := sound.hidden call inside other made
      refine ⟨by simpa [Cache.setEntry] using before.1, ?_⟩
      show ((traffic.cache.setEntry entry _).heap.get other).hold = none
      have mine : call ∈ traffic.calls := inside
      rw [state other, if_neg (ne_of_shown mine made shown)]
      exact before.2
    single := sound.single
    ceiling := by
      intro other there
      have held : traffic.cache.heap.holds other = true := by simpa [Cache.setEntry] using there
      show ((traffic.cache.setEntry entry _).heap.get other).maxLockHold = _
      rw [state other]
      split
      · rw [continues.ceiling]
        exact sound.ceiling entry known
      · exact sound.ceiling other held
    served := by
      intro other
      show ((traffic.cache.setEntry entry _).heap.get other).gateOpen = true →
        ((traffic.cache.setEntry entry _).heap.get other).content ≠ none
      rw [state other]
      split
      · exact continues.served (sound.served entry)
      · exact sound.served other }

theorem evicted (sound : traffic.Sound) (key : String) (entry : EntryId) :
    (⟨⟨traffic.cache.heap, (traffic.cache.store.evict key entry).2⟩, traffic.calls⟩ :
      Traffic).Sound := by
  have old (name : String) (other : EntryId)
      (maps : (traffic.cache.store.evict key entry).2.lookup name = some other) :
      traffic.lookup name = some other := by
    rw [Store.lookup_evict] at maps
    split at maps
    · cases maps
    · exact maps
  have ceiling := traffic.cache.store.maxLockHold_evict key entry
  exact {
    mapped := fun name other maps => sound.mapped name other (old name other maps)
    injective := fun name also other first second =>
      sound.injective name also other (old name other first) (old also other second)
    found := sound.found
    hidden := sound.hidden
    single := sound.single
    ceiling := fun other there => (sound.ceiling other there).trans ceiling.symm
    served := sound.served }

/-- Every move keeps the traffic sound. -/
theorem take (sound : traffic.Sound) (move : Move) : (traffic.take move).Sound := by
  have change := traffic.change_take move
  have shown : ∀ entry, traffic.isShown entry = true → (traffic.take move).isShown entry = true :=
    fun _ => change.shown
  generalize traffic.take move = after at change shown
  cases change with
  | nothing => exact sound
  | begun found candidate => exact sound.begun found candidate shown
  | proceeded known effect => exact sound.proceeded known effect shown
  | operated target seen => exact sound.operated seen
  | evicted => exact sound.evicted _ _

/-- Every run keeps the traffic sound. -/
theorem run (sound : traffic.Sound) (moves : List Move) : (traffic.run moves).Sound := by
  induction moves generalizing traffic with
  | nil => exact sound
  | cons move rest ih => exact ih (sound.take move)

end Sound

/-- No run changes the ceiling of the store. -/
theorem ceiling_run (traffic : Traffic) (moves : List Move) :
    (traffic.run moves).cache.store.maxLockHold = traffic.cache.store.maxLockHold := by
  induction moves generalizing traffic with
  | nil => rfl
  | cons move rest ih =>
      have change := traffic.change_take move
      have first : (traffic.take move).cache.store.maxLockHold =
          traffic.cache.store.maxLockHold := by
        generalize traffic.take move = after at change
        cases change with
        | proceeded _ effect => exact effect.ceiling_eq
        | evicted => exact Store.maxLockHold_evict _ _ _
        | _ => rfl
      rw [run_cons, ih, first]

/-- An empty store has no keys. -/
theorem lookup_opened (hash : String → Nat) (count : Nat) (positive : 0 < count)
    (ceiling : Duration) (key : String) :
    (opened hash count positive ceiling).lookup key = none := by
  simp [opened, lookup, Store.lookup, Segments.lookup, Segments.table, Segments.empty]

/-- No entry of an empty store was ever given out. -/
theorem state_opened (hash : String → Nat) (count : Nat) (positive : 0 < count) (ceiling : Duration)
    (entry : EntryId) : (opened hash count positive ceiling).state entry = Heap.blank :=
  Heap.get_of_not_holds (by simp [opened, Heap.holds, Heap.empty])

/-- The traffic on an empty store is sound. -/
theorem sound_opened (hash : String → Nat) (count : Nat) (positive : 0 < count)
    (ceiling : Duration) : (opened hash count positive ceiling).Sound := by
  have nothing := lookup_opened hash count positive ceiling
  exact {
    mapped := fun key entry maps => by rw [nothing key] at maps; cases maps
    injective := fun key other entry maps _ => by rw [nothing key] at maps; cases maps
    found := fun call inside => by cases inside
    hidden := fun call inside => by cases inside
    single := fun number other one two first => by simp [opened] at first
    ceiling := fun entry there => by simp [opened, Heap.holds, Heap.empty] at there
    served := fun entry isOpen => by rw [state_opened] at isOpen; cases isOpen }

/-- Everything that any run brings about on an empty store is sound. -/
theorem sound_run_opened (hash : String → Nat) (count : Nat) (positive : 0 < count)
    (ceiling : Duration) (moves : List Move) :
    ((opened hash count positive ceiling).run moves).Sound :=
  (sound_opened hash count positive ceiling).run moves

end Traffic

/-- A cache that traffic has left behind is in order. -/
structure Cache.InOrder (cache : Cache) : Prop where
  known : ∀ key entry, cache.store.lookup key = some entry → cache.heap.holds entry = true
  injective : ∀ key other entry, cache.store.lookup key = some entry →
    cache.store.lookup other = some entry → key = other
  bounded : cache.store.maxLockHold ≠ .zero
  ceiling : ∀ key entry, cache.store.lookup key = some entry →
    (cache.heap.get entry).maxLockHold = cache.store.maxLockHold
  served : ∀ entry, (cache.heap.get entry).gateOpen = true → (cache.heap.get entry).content ≠ none

theorem Cache.Reachable.inOrder {cache : Cache} (reachable : cache.Reachable) : cache.InOrder := by
  obtain ⟨hash, count, positive, ceiling, nonzero, moves, rfl⟩ := reachable
  have sound := Traffic.sound_run_opened hash count positive ceiling moves
  have held (key : String) (entry : EntryId)
      (maps : ((Traffic.opened hash count positive ceiling).run moves).lookup key = some entry) :
      ((Traffic.opened hash count positive ceiling).run moves).cache.heap.holds entry = true :=
    Traffic.holds_of_isShown (sound.mapped key entry maps)
  have same := Traffic.ceiling_run (Traffic.opened hash count positive ceiling) moves
  exact {
    known := held
    injective := sound.injective
    bounded := by rw [same]; exact nonzero
    ceiling := fun key entry maps => sound.ceiling entry (held key entry maps)
    served := sound.served }

/-- There is no entry of a key if the key is absent. -/
theorem Cache.stored?_eq_none_iff (cache : Cache) (key : String) :
    cache.stored? key = none ↔ cache.store.lookup key = none := by
  unfold stored?
  simp

end SingleFlight
