import SingleFlight.Proofs.Traffic.Sound

namespace SingleFlight

/-- The time from which on a lock counts as abandoned. -/
def Hold.deadline (hold : Hold) (ceiling : Duration) : Instant :=
  ⟨hold.since.nanos + ceiling.nanos⟩

/-- A lock's deadline comes after the time it was taken. -/
theorem Hold.since_lt_deadline (hold : Hold) {ceiling : Duration} (nonzero : ceiling ≠ .zero) :
    hold.since.nanos < (hold.deadline ceiling).nanos := by
  have longer := Duration.nanos_pos nonzero
  simp only [deadline]
  omega

/-- An entry that a thread holds is locked. -/
theorem Entry.isLocked_of_isHeldBy {entry : Entry} {holder : ThreadId}
    (held : entry.isHeldBy holder = true) : entry.isLocked = true := by
  cases hold : entry.hold <;> simp_all [isHeldBy, isLocked]

/-- A held lock may be disposed of only from its deadline on. -/
theorem Entry.deadline_le_of_isDisposable {entry : Entry} {hold : Hold} {now : Instant}
    (held : entry.hold = some hold) (nonzero : entry.maxLockHold ≠ .zero)
    (disposable : entry.isDisposable now = true) :
    (hold.deadline entry.maxLockHold).nanos ≤ now.nanos := by
  have abandoned : entry.maxLockHold.nanos ≤ now.nanos - hold.since.nanos := by
    simpa [isDisposable, isLocked, isAbandoned, held, Instant.since, Duration.le_iff] using disposable
  have after := hold.since_lt_deadline nonzero
  simp only [Hold.deadline] at after ⊢
  omega

/-- A lock that stays held has its thread and time. -/
theorem Move.hold_applied (move : Move) {entry : Entry} {hold : Hold} (held : entry.hold = some hold)
    (still : (move.applied entry).isLocked = true) : (move.applied entry).hold = some hold := by
  unfold applied at still ⊢
  split
  · simp [Entry.acquire, held]
  · next asks =>
      rw [asks] at still
      simp only [Entry.commit_eq, Entry.isLocked] at still ⊢
      split
      · next owned =>
          rw [if_pos owned] at still
          cases read : move.moment.monotonic <;> simp_all
      · exact held
  · next asks =>
      rw [asks] at still
      simp only [Entry.release, Entry.isLocked] at still ⊢
      split
      · next owned => rw [if_pos owned] at still; cases still
      · exact held
  all_goals exact held

/-- A move makes no lock operation and begins no explicit removal. -/
structure Move.Aside (move : Move) (moment : Moment) : Prop where
  shown : move.moment = moment
  target : move.target? = none
  removes : move.removes = false

namespace Forward

/-- On a clock that goes forward the last reading is the latest. -/
theorem le_last {moves : List Move} {last : Move} (clock : Forward (moves ++ [last]))
    {move : Move} (inside : move ∈ moves) {now time : Instant} (read : move.instant? = some now)
    (end_ : last.instant? = some time) : now.nanos ≤ time.nanos := by
  unfold Forward at clock
  rw [List.filterMap_append, List.pairwise_append] at clock
  refine clock.2.2 now (List.mem_filterMap.mpr ⟨move, inside, read⟩) time ?_
  exact List.mem_filterMap.mpr ⟨last, List.mem_singleton_self last, end_⟩

/-- A clock that goes forward may stand still. -/
theorem stand {moves rest : List Move} {last : Move} (clock : Forward (moves ++ [last]))
    {time : Instant} (end_ : last.instant? = some time)
    (still : ∀ move ∈ rest, move.instant? = some time) : Forward (moves ++ [last] ++ rest) := by
  have later (now : Instant) (inside : now ∈ rest.filterMap Move.instant?) : now = time := by
    obtain ⟨move, there, read⟩ := List.mem_filterMap.mp inside
    exact Option.some.inj (read.symm.trans (still move there))
  unfold Forward at clock ⊢
  rw [List.filterMap_append, List.pairwise_append]
  refine ⟨clock, ?_, ?_⟩
  · apply List.pairwise_iff_forall_sublist.mpr
    intro earlier now sub
    have inside := sub.subset
    have same : earlier = now :=
      (later earlier (inside (by simp))).trans (later now (inside (by simp))).symm
    exact Nat.le_of_eq (congrArg Instant.nanos same)
  · intro earlier before now inside
    rw [later now inside]
    obtain ⟨move, there, read⟩ := List.mem_filterMap.mp before
    rcases List.mem_append.mp there with old | new
    · exact le_last clock old read end_
    · rw [List.mem_singleton.mp new, end_] at read
      exact Nat.le_of_eq (congrArg Instant.nanos (Option.some.inj read).symm)

end Forward

namespace Call.Effect
variable {call next : Call} {moment : Moment} {cache after : Cache}

/-- The reading of a call is the one at which it was made. -/
theorem reading_eq (effect : call.Effect moment cache next after) {now : Instant}
    (known : next.reading? = some now) : moment.monotonic = .ok now := by
  cases effect with
  | quiet _ _ _ _ reading => exact reading now known
  | _ => cases known

/-- A call condemns an entry when it judges it, and not later. -/
theorem condemned_cases (effect : call.Effect moment cache next after) {key : String}
    {entry : EntryId} (known : next.condemned? = some (key, entry)) :
    call.condemned? = some (key, entry) ∨
      ∃ now, call.reading? = some now ∧ (cache.heap.get entry).isDisposable now = true := by
  cases effect with
  | quiet _ _ _ _ _ _ condemned => exact condemned key entry known
  | stamped starts =>
      subst starts
      exact .inl known
  | _ => cases known

/-- Only a call that has condemned an entry, or a removal, takes it out. -/
theorem lookup_kept (effect : call.Effect moment cache next after) {key : String}
    {entry : EntryId} (maps : cache.store.lookup key = some entry) :
    after.store.lookup key = some entry ∨ call.condemned? = some (key, entry) ∨
      call.isRemoval = true := by
  cases effect with
  | quiet mapping => exact .inl ((mapping key).trans maps)
  | created starts absent =>
      rw [Store.lookup_create]
      split
      · next same => rw [same, absent] at maps; cases maps
      · exact .inl maps
  | stamped => exact .inl maps
  | copied => exact .inl maps
  | replaced starts vacant =>
      rw [Store.lookup_replace]
      split
      · next same =>
          subst same
          rw [maps] at vacant
          obtain rfl := Option.some.inj (vacant.resolve_right (by simp))
          exact .inr (.inl (by rw [starts]; rfl))
      · exact .inl maps
  | evicted starts current =>
      rw [Store.lookup_evict]
      split
      · next same =>
          obtain ⟨rfl, -⟩ := same
          obtain rfl := Option.some.inj (current.symm.trans maps)
          exact .inr (.inl (by rw [starts]; rfl))
      · exact .inl maps
  | removed starts => exact .inr (.inr (by rw [starts]; rfl))

end Call.Effect

namespace Traffic

/-- What holds now holds after every move of a run as well. -/
def Throughout (traffic : Traffic) (moves : List Move) (holds : Traffic → Prop) : Prop :=
  ∀ passed, passed <+: moves → holds (traffic.run passed)

theorem throughout_cons {traffic : Traffic} {move : Move} {rest : List Move}
    {holds : Traffic → Prop} (throughout : traffic.Throughout (move :: rest) holds) :
    holds traffic ∧ (traffic.take move).Throughout rest holds := by
  refine ⟨throughout [] (List.nil_prefix), fun passed inside => ?_⟩
  exact throughout (move :: passed) ((List.prefix_cons_inj move).mpr inside)

/-- What is true of a call comes from the start or from a move. -/
theorem origin_of_run (isSo : Call → Prop) (brings : Move → Prop)
    (step : ∀ (traffic : Traffic) (move : Move), ∀ call ∈ (traffic.take move).calls, isSo call →
      (∃ old ∈ traffic.calls, isSo old) ∨ brings move)
    (traffic : Traffic) (moves : List Move) :
    ∀ call ∈ (traffic.run moves).calls, isSo call →
      (∃ old ∈ traffic.calls, isSo old) ∨ ∃ move ∈ moves, brings move := by
  induction moves generalizing traffic with
  | nil => exact fun call inside known => .inl ⟨call, inside, known⟩
  | cons move rest ih =>
      intro call inside known
      rcases ih (traffic.take move) call inside known with ⟨old, there, same⟩ | ⟨later, there, so⟩
      · rcases step traffic move old there same with before | now
        · exact .inl before
        · exact .inr ⟨move, List.mem_cons_self, now⟩
      · exact .inr ⟨later, List.mem_cons_of_mem move there, so⟩

/-- A call about to judge has made its reading at some move. -/
theorem reading_origin {now : Instant} (traffic : Traffic) (move : Move) :
    ∀ call ∈ (traffic.take move).calls, call.reading? = some now →
      (∃ old ∈ traffic.calls, old.reading? = some now) ∨ move.instant? = some now := by
  intro call inside known
  have change := traffic.change_take move
  generalize traffic.take move = after at change inside
  cases change with
  | begun _ _ reading =>
      rcases List.mem_append.mp inside with old | new
      · exact .inl ⟨call, old, known⟩
      · rw [List.mem_singleton.mp new, reading] at known
        cases known
  | proceeded place effect =>
      rcases mem_set_calls inside with rfl | ⟨other, -, old⟩
      · exact .inr (Move.instant?_of_read (effect.reading_eq known))
      · exact .inl ⟨call, List.mem_of_getElem? old, known⟩
  | _ => exact .inl ⟨call, inside, known⟩

/-- Only a move that removes begins an explicit removal. -/
theorem removal_origin (traffic : Traffic) (move : Move) :
    ∀ call ∈ (traffic.take move).calls, call.isRemoval = true →
      (∃ old ∈ traffic.calls, old.isRemoval = true) ∨ move.removes = true := by
  intro call inside known
  have change := traffic.change_take move
  generalize traffic.take move = after at change inside
  cases change with
  | begun _ _ _ _ _ removal =>
      rcases List.mem_append.mp inside with old | new
      · exact .inl ⟨call, old, known⟩
      · rw [List.mem_singleton.mp new] at known
        exact .inr (removal known)
  | proceeded place effect kind =>
      rcases mem_set_calls inside with rfl | ⟨other, -, old⟩
      · exact .inl ⟨_, List.mem_of_getElem? place, kind ▸ known⟩
      · exact .inl ⟨call, List.mem_of_getElem? old, known⟩
  | _ => exact .inl ⟨call, inside, known⟩

variable {traffic : Traffic} {key : String} {entry : EntryId} {moment : Moment}

/-- Without lock operations no entry changes. -/
theorem state_run_aside (known : traffic.cache.heap.holds entry = true) {moves : List Move}
    (aside : ∀ move ∈ moves, move.Aside moment) :
    (traffic.run moves).state entry = traffic.state entry := by
  induction moves generalizing traffic with
  | nil => rfl
  | cons move rest ih =>
      have change := traffic.change_take move
      have first : (traffic.take move).cache.heap.holds entry = true ∧
          (traffic.take move).state entry = traffic.state entry := by
        generalize traffic.take move = after at change
        cases change with
        | proceeded _ effect => exact effect.keeps known
        | operated target =>
            rw [(aside move List.mem_cons_self).target] at target
            cases target
        | _ => exact ⟨known, rfl⟩
      rw [run_cons, ih first.1 fun other there => aside other (List.mem_cons_of_mem move there)]
      exact first.2

/-- Moves aside make a key map to an unlocked entry. -/
def TakenOver (traffic : Traffic) (key : String) (moment : Moment) : Prop :=
  ∃ moves, (∀ move ∈ moves, Move.Aside move moment) ∧ ∃ other,
    (traffic.run moves).lookup key = some other ∧ ((traffic.run moves).state other).hold = none

theorem TakenOver.cons {move : Move} (aside : move.Aside moment)
    (taken : (traffic.take move).TakenOver key moment) :
    traffic.TakenOver key moment := by
  obtain ⟨moves, rest, taken⟩ := taken
  exact ⟨move :: moves, List.forall_mem_cons.mpr ⟨aside, rest⟩, taken⟩

theorem take_proceed {number : Nat} {call : Call} (place : traffic.calls[number]? = some call)
    (moment : Moment) :
    traffic.take ⟨.proceed number, moment⟩ =
      ⟨(call.step moment traffic.cache).2,
        traffic.calls.set number (call.step moment traffic.cache).1⟩ := by
  simp [take, place]

/-- The next step of a call is a move aside. -/
theorem aside_proceed (number : Nat) (moment : Moment) :
    Move.Aside ⟨.proceed number, moment⟩ moment := ⟨rfl, rfl, rfl⟩

/-- A lookup that still finds the entry copies its content. -/
theorem take_copying {number : Nat} {asked : Lookup}
    (place : traffic.calls[number]? = some (.lookup asked (.copying entry))) (moment : Moment) :
    traffic.take ⟨.proceed number, moment⟩ =
      ⟨traffic.cache,
        traffic.calls.set number (.lookup asked (.stamping entry (traffic.state entry).content))⟩ :=
  take_proceed place moment

/-- A lookup that has copied a content makes a hidden entry of it. -/
theorem take_stamping {number : Nat} {asked : Lookup} {content : Option String}
    (place : traffic.calls[number]? = some (.lookup asked (.stamping entry content)))
    {now : Instant} (read : moment.monotonic = .ok now) :
    traffic.take ⟨.proceed number, moment⟩ =
      ⟨⟨traffic.cache.heap.add (Entry.seeded content asked.tag asked.ttl
          (traffic.state entry).maxLockHold now), traffic.cache.store⟩,
        traffic.calls.set number (.lookup asked (.swapping entry traffic.cache.heap.next))⟩ := by
  rw [take_proceed place]
  simp [Call.step, Lookup.step, read, state]

/-- A lookup that has made its copy puts it in place. -/
theorem take_swapping {number : Nat} {asked : Lookup} {candidate : EntryId}
    (place : traffic.calls[number]? = some (.lookup asked (.swapping entry candidate)))
    (maps : traffic.lookup asked.key = some entry) (moment : Moment) :
    traffic.take ⟨.proceed number, moment⟩ =
      ⟨⟨traffic.cache.heap, traffic.cache.store.replace asked.key candidate⟩,
        traffic.calls.set number (.lookup asked (.finished (.ok candidate)))⟩ := by
  rw [take_proceed place]
  rw [lookup] at maps
  simp [Call.step, Lookup.step, Lookup.swap, maps]

/-- A lookup at its swap takes over the key. -/
theorem takenOver_of_swapping (sound : traffic.Sound) {number : Nat} {asked : Lookup}
    {candidate : EntryId}
    (place : traffic.calls[number]? = some (.lookup asked (.swapping entry candidate)))
    (maps : traffic.lookup asked.key = some entry) :
    traffic.TakenOver asked.key moment := by
  have swapped := take_swapping place maps moment
  have inside := List.mem_of_getElem? place
  refine ⟨[⟨.proceed number, moment⟩], by simp [aside_proceed], candidate, ?_, ?_⟩
  · simp [swapped, lookup, Store.lookup_replace]
  · have unlocked := (sound.hidden _ inside candidate rfl).2
    simpa [swapped, state] using unlocked

/-- So does a lookup that is going to make its copy. -/
theorem takenOver_of_stamping (sound : traffic.Sound) {number : Nat} {asked : Lookup}
    {content : Option String} {now : Instant} (read : moment.monotonic = .ok now)
    (place : traffic.calls[number]? = some (.lookup asked (.stamping entry content)))
    (maps : traffic.lookup asked.key = some entry) :
    traffic.TakenOver asked.key moment := by
  have inside := (List.getElem?_eq_some_iff.mp place).1
  have stamped := take_stamping place read
  have made : (traffic.take ⟨.proceed number, moment⟩).calls[number]? =
      some (.lookup asked (.swapping entry traffic.cache.heap.next)) := by
    simp [stamped, inside]
  refine .cons (aside_proceed number moment) (takenOver_of_swapping (sound.take _) made ?_)
  simpa [stamped, lookup] using maps

/-- So does a lookup that is going to copy the content. -/
theorem takenOver_of_copying (sound : traffic.Sound) {number : Nat} {asked : Lookup}
    {now : Instant} (read : moment.monotonic = .ok now)
    (place : traffic.calls[number]? = some (.lookup asked (.copying entry)))
    (maps : traffic.lookup asked.key = some entry) :
    traffic.TakenOver asked.key moment := by
  have inside := (List.getElem?_eq_some_iff.mp place).1
  have copied := take_copying place moment
  have carries : (traffic.take ⟨.proceed number, moment⟩).calls[number]? =
      some (.lookup asked (.stamping entry (traffic.state entry).content)) := by
    simp [copied, inside]
  refine .cons (aside_proceed number moment) (takenOver_of_stamping (sound.take _) read carries ?_)
  simpa [copied, lookup] using maps

/-- Any thread can take over a key that is absent. -/
theorem takenOver_of_absent {now : Instant} (read : moment.monotonic = .ok now)
    (absent : traffic.lookup key = none) :
    traffic.TakenOver key moment := by
  let asked : Lookup := ⟨key, none, .zero⟩
  rw [lookup] at absent
  refine ⟨[⟨.begin (.lookup asked), moment⟩, ⟨.proceed traffic.calls.length, moment⟩], ?_,
    traffic.cache.heap.next, ?_, ?_⟩
  · intro move inside
    rcases List.mem_pair.mp inside with rfl | rfl <;> exact ⟨rfl, rfl, rfl⟩
  · simp [take, admits, Task.start, Call.step, Lookup.step, Lookup.find, asked, absent, read,
      lookup, Store.lookup_create]
  · simp [take, admits, Task.start, Call.step, Lookup.step, Lookup.find, asked, absent, read,
      state, Entry.fresh, Entry.seeded]

/-- A sweep that drops an entry lets any thread take over its key. -/
theorem takenOver_of_removing {number : Nat} {progress : Sweep.Progress}
    {rest : List String} {now : Instant} (read : moment.monotonic = .ok now)
    (place : traffic.calls[number]? = some (.sweep (.removing progress key entry rest)))
    (maps : traffic.lookup key = some entry) : traffic.TakenOver key moment := by
  rw [lookup] at maps
  refine .cons (aside_proceed number moment) (takenOver_of_absent read ?_)
  simp [take_proceed place, Call.step, Sweep.step, lookup, Store.lookup_evict, maps]

/-- A call that has condemned an entry lets its key be taken over. -/
theorem takenOver_of_condemned (sound : traffic.Sound) {call : Call}
    (inside : call ∈ traffic.calls) (condemned : call.condemned? = some (key, entry))
    (maps : traffic.lookup key = some entry) {now : Instant} (read : moment.monotonic = .ok now) :
    traffic.TakenOver key moment := by
  obtain ⟨number, place⟩ := List.mem_iff_getElem?.mp inside
  unfold Call.condemned? at condemned
  split at condemned
  · obtain ⟨rfl, rfl⟩ := Prod.mk.inj (Option.some.inj condemned)
    exact takenOver_of_copying sound read place maps
  · obtain ⟨rfl, rfl⟩ := Prod.mk.inj (Option.some.inj condemned)
    exact takenOver_of_stamping sound read place maps
  · obtain ⟨rfl, rfl⟩ := Prod.mk.inj (Option.some.inj condemned)
    exact takenOver_of_swapping sound place maps
  · obtain ⟨rfl, rfl⟩ := Prod.mk.inj (Option.some.inj condemned)
    exact takenOver_of_removing read place maps
  · cases condemned

end Traffic

end SingleFlight
