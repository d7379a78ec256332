import SingleFlight.Proofs.Store.Mapping
import SingleFlight.Proofs.Traffic.Basic

namespace SingleFlight

/-- An abandoned entry may be dropped. -/
theorem Entry.isDisposable_of_isAbandoned {entry : Entry} {now : Instant}
    (abandoned : entry.isAbandoned now = true) : entry.isDisposable now = true := by
  cases held : entry.hold with
  | none => simp [isAbandoned, held] at abandoned
  | some hold => simpa [isDisposable, isLocked, held] using abandoned

namespace Call

/-- What a lookup is about to put in place of an entry. -/
def carried? (call : Call) (heap : Heap) : Option (String × EntryId × Option String) :=
  match call with
  | .lookup asked (.stamping found content) => some (asked.key, found, content)
  | .lookup asked (.swapping found candidate) =>
    some (asked.key, found, (heap.get candidate).content)
  | _ => none

/-- The entry a call has judged and is about to take out. -/
def condemned? : Call → Option (String × EntryId)
  | .lookup asked (.copying found) | .lookup asked (.stamping found _)
  | .lookup asked (.swapping found _) => some (asked.key, found)
  | .sweep (.removing _ key found _) => some (key, found)
  | _ => none

/-- The effect of one step of a call. -/
inductive Effect (call : Call) (moment : Moment) (cache : Cache) : Call → Cache → Prop where
  /-- No key and no entry changes; counters and the report may. -/
  | quiet {next : Call} {store : Store}
      (mapping : ∀ key, store.lookup key = cache.store.lookup key)
      (ceiling : store.maxLockHold = cache.store.maxLockHold)
      (candidate : next.candidate? = none)
      (found : ∀ entry, next.found? = some entry →
        call.found? = some entry ∨ ∃ key, cache.store.lookup key = some entry)
      (reading : ∀ now, next.reading? = some now → moment.monotonic = .ok now)
      (carried : ∀ key entry content, next.carried? cache.heap = some (key, entry, content) →
        content = (cache.heap.get entry).content)
      (condemned : ∀ key entry, next.condemned? = some (key, entry) →
        call.condemned? = some (key, entry) ∨
          ∃ now, call.reading? = some now ∧ (cache.heap.get entry).isDisposable now = true) :
      Effect call moment cache next ⟨cache.heap, store⟩
  /-- A lookup that found nothing has made an entry. -/
  | created {asked : Lookup} {now : Instant} (starts : call = .lookup asked .finding)
      (absent : cache.store.lookup asked.key = none) (read : moment.monotonic = .ok now) :
      Effect call moment cache (.lookup asked (.finished (.ok cache.heap.next)))
        ⟨cache.heap.add (Entry.fresh asked.tag asked.ttl cache.store.maxLockHold now),
          cache.store.create asked.key cache.heap.next⟩
  /-- A lookup has made a copy that is not in place yet. -/
  | stamped {asked : Lookup} {found : EntryId} {content : Option String} {now : Instant}
      (starts : call = .lookup asked (.stamping found content))
      (read : moment.monotonic = .ok now) :
      Effect call moment cache (.lookup asked (.swapping found cache.heap.next))
        ⟨cache.heap.add (Entry.seeded content asked.tag asked.ttl
          (cache.heap.get found).maxLockHold now), cache.store⟩
  /-- A caller has a copy of its own. -/
  | copied {asked : Copying} {content : Option String} {now : Instant}
      (starts : call = .copying asked (.stamping content)) (read : moment.monotonic = .ok now) :
      Effect call moment cache (.copying asked (.finished (.ok cache.heap.next)))
        ⟨cache.heap.add (Entry.seeded content asked.tag asked.ttl
          (cache.heap.get asked.source).maxLockHold now), cache.store⟩
  /-- A lookup has put its copy in place. -/
  | replaced {asked : Lookup} {found candidate : EntryId}
      (starts : call = .lookup asked (.swapping found candidate))
      (vacant : cache.store.lookup asked.key = some found ∨ cache.store.lookup asked.key = none) :
      Effect call moment cache (.lookup asked (.finished (.ok candidate)))
        ⟨cache.heap, cache.store.replace asked.key candidate⟩
  /-- A sweep has taken an entry out. -/
  | evicted {progress : Sweep.Progress} {key : String} {found : EntryId} {rest : List String}
      (starts : call = .sweep (.removing progress key found rest))
      (current : cache.store.lookup key = some found) :
      Effect call moment cache (.sweep (.visiting (progress.count true) rest))
        ⟨cache.heap, (cache.store.evict key found).2⟩
  /-- An explicit removal has taken entries out. -/
  | removed {phase next : Removal.Phase} {store : Store} (starts : call = .removal phase)
      (mapping : ∀ key, store.lookup key = cache.store.lookup key ∨ store.lookup key = none)
      (ceiling : store.maxLockHold = cache.store.maxLockHold) :
      Effect call moment cache (.removal next) ⟨cache.heap, store⟩

/-- A call that works on no entry carries and condemns nothing. -/
theorem nothing_of_found?_none {call : Call} (unused : call.found? = none) (heap : Heap) :
    call.candidate? = none ∧ call.reading? = none ∧ call.carried? heap = none ∧
      call.condemned? = none := by
  unfold found? at unused
  split at unused <;> simp_all [candidate?, reading?, carried?, condemned?]

/-- A step that moves no entry and leaves the call without one. -/
theorem Effect.over {call next : Call} {moment : Moment} {cache : Cache} {store : Store}
    (mapping : ∀ key, store.lookup key = cache.store.lookup key)
    (ceiling : store.maxLockHold = cache.store.maxLockHold) (unused : next.found? = none) :
    Effect call moment cache next ⟨cache.heap, store⟩ := by
  obtain ⟨candidate, reading, carried, condemned⟩ := nothing_of_found?_none unused cache.heap
  exact .quiet mapping ceiling candidate (by simp [unused]) (by simp [reading])
    (by simp [carried]) (by simp [condemned])

variable (moment : Moment) (cache : Cache)

theorem lookup_effect (asked : Lookup) (phase : Lookup.Phase) :
    Effect (.lookup asked phase) moment cache (step (.lookup asked phase) moment cache).1
      (step (.lookup asked phase) moment cache).2 := by
  cases phase with
  | finding =>
      simp only [step, Lookup.step, Lookup.find]
      split
      · next found there =>
          refine .quiet (fun _ => rfl) rfl rfl ?_ (by simp [reading?]) (by simp [carried?])
            (by simp [condemned?])
          intro entry known
          exact .inr ⟨asked.key, by simpa [found?, there] using known⟩
      · next absent =>
          cases read : moment.monotonic with
          | error fault => exact .over (fun _ => rfl) rfl rfl
          | ok now => exact .created rfl absent read
  | timing found =>
      simp only [step, Lookup.step]
      cases read : moment.monotonic with
      | error fault => exact .over (fun _ => rfl) rfl rfl
      | ok now =>
          exact .quiet (fun _ => rfl) rfl rfl (by simp [found?]) (by simp [reading?, read])
            (by simp [carried?]) (by simp [condemned?])
  | judging found now =>
      simp only [step, Lookup.step]
      split
      · next abandoned =>
          refine .quiet (fun _ => rfl) rfl rfl (by simp [found?]) (by simp [reading?])
            (by simp [carried?]) ?_
          intro key entry known
          obtain ⟨-, rfl⟩ : asked.key = key ∧ found = entry := by simpa [condemned?] using known
          exact .inr ⟨now, rfl, Entry.isDisposable_of_isAbandoned abandoned⟩
      · exact .over (fun _ => rfl) rfl rfl
  | copying found =>
      simp only [step, Lookup.step]
      exact .quiet (fun _ => rfl) rfl rfl (by simp [found?]) (by simp [reading?])
        (by simp +contextual [carried?]) (by simp [condemned?])
  | stamping found content =>
      simp only [step, Lookup.step]
      cases read : moment.monotonic with
      | error fault => exact .over (fun _ => rfl) rfl rfl
      | ok now => exact .stamped rfl read
  | swapping found candidate =>
      simp only [step, Lookup.step, Lookup.swap]
      split
      · next current there =>
          split
          · next same => subst same; exact .replaced rfl (.inl there)
          · exact .over (fun _ => rfl) rfl rfl
      · next absent => exact .replaced rfl (.inr absent)
  | finished outcome =>
      simp only [step, Lookup.step]
      exact .over (fun _ => rfl) rfl rfl

theorem sweep_effect (phase : Sweep.Phase) :
    Effect (.sweep phase) moment cache (step (.sweep phase) moment cache).1
      (step (.sweep phase) moment cache).2 := by
  cases phase with
  | starting =>
      simp only [step, Sweep.step, Sweep.withReading]
      cases moment.monotonic <;> exact .over (fun _ => rfl) rfl rfl
  | listing started =>
      simp only [step, Sweep.step]
      exact .over (fun _ => rfl) rfl rfl
  | visiting progress keys =>
      cases keys with
      | nil =>
          simp only [step, Sweep.step]
          exact .over (fun _ => rfl) rfl rfl
      | cons key rest =>
          simp only [step, Sweep.step]
          split
          · next found there =>
              refine .quiet (fun _ => rfl) rfl rfl ?_ (by simp [reading?]) (by simp [carried?])
                (by simp [condemned?])
              intro entry known
              exact .inr ⟨key, by simpa [found?, there] using known⟩
          · exact .over (fun _ => rfl) rfl rfl
  | timing progress key found rest =>
      simp only [step, Sweep.step, Sweep.withReading]
      cases read : moment.monotonic with
      | error fault => exact .over (fun _ => rfl) rfl rfl
      | ok now =>
          exact .quiet (fun _ => rfl) rfl rfl (by simp [found?]) (by simp [reading?, read])
            (by simp [carried?]) (by simp [condemned?])
  | judging progress key found now rest =>
      simp only [step, Sweep.step]
      split
      · next disposable =>
          refine .quiet (fun _ => rfl) rfl rfl (by simp [found?]) (by simp [reading?])
            (by simp [carried?]) ?_
          intro name entry known
          obtain ⟨-, rfl⟩ : key = name ∧ found = entry := by simpa [condemned?] using known
          exact .inr ⟨now, rfl, disposable⟩
      · exact .over (fun _ => rfl) rfl rfl
  | removing progress key found rest =>
      by_cases current : cache.store.lookup key = some found
      · have taken : (cache.store.evict key found).1 = true := by simp [Store.evict, current]
        simp only [step, Sweep.step, taken]
        exact .evicted rfl current
      · have kept : cache.store.evict key found = (false, cache.store) := by
          simp [Store.evict, current]
        simp only [step, Sweep.step, kept]
        exact .over (fun _ => rfl) rfl rfl
  | stamping progress =>
      simp only [step, Sweep.step]
      cases moment.wall <;> exact .over (fun _ => rfl) rfl rfl
  | closing progress finishedAt =>
      simp only [step, Sweep.step, Sweep.withReading]
      cases moment.monotonic <;> exact .over (fun _ => rfl) rfl rfl
  | publishing report => exact .over (fun _ => rfl) rfl rfl
  | counting report => exact .over (fun _ => rfl) rfl rfl
  | finished outcome => exact .over (fun _ => rfl) rfl rfl

theorem removal_effect (phase : Removal.Phase) :
    Effect (.removal phase) moment cache (step (.removal phase) moment cache).1
      (step (.removal phase) moment cache).2 := by
  cases phase with
  | taking name =>
      refine .removed rfl ?_ rfl
      intro key
      show (cache.store.take name).2.lookup key = _ ∨ (cache.store.take name).2.lookup key = none
      rw [Store.lookup_take]
      split
      · exact .inr rfl
      · exact .inl rfl
  | clearing segments removed =>
      cases segments with
      | nil => exact .removed rfl (fun _ => .inl rfl) rfl
      | cons number rest =>
          refine .removed rfl ?_ rfl
          intro key
          show (cache.store.segments.clearAt number).lookup key = _ ∨
            (cache.store.segments.clearAt number).lookup key = none
          rw [Segments.lookup_clearAt]
          split
          · exact .inr rfl
          · exact .inl rfl
  | counting removed => exact .removed rfl (fun _ => .inl rfl) rfl
  | finished removed => exact .removed rfl (fun _ => .inl rfl) rfl

theorem copying_effect (asked : Copying) (phase : Copying.Phase) :
    Effect (.copying asked phase) moment cache (step (.copying asked phase) moment cache).1
      (step (.copying asked phase) moment cache).2 := by
  cases phase with
  | reading =>
      exact .quiet (fun _ => rfl) rfl rfl (by simp [found?, step, Copying.step])
        (by simp [reading?, step, Copying.step]) (by simp [carried?, step, Copying.step])
        (by simp [condemned?, step, Copying.step])
  | stamping content =>
      simp only [step, Copying.step]
      cases read : moment.monotonic with
      | error fault => exact .over (fun _ => rfl) rfl rfl
      | ok now => exact .copied rfl read
  | finished outcome => exact .over (fun _ => rfl) rfl rfl

/-- Each step of a call has one of the effects. -/
theorem effect_step (call : Call) :
    Effect call moment cache (call.step moment cache).1 (call.step moment cache).2 := by
  cases call with
  | lookup asked phase => exact lookup_effect moment cache asked phase
  | sweep phase => exact sweep_effect moment cache phase
  | removal phase => exact removal_effect moment cache phase
  | copying asked phase => exact copying_effect moment cache asked phase

end Call

/-- Whether a call is an explicit removal. -/
def Call.isRemoval : Call → Bool
  | .removal _ => true
  | _ => false

/-- The entry whose lock a move is about. -/
def Move.target? (move : Move) : Option EntryId :=
  match move.action with
  | .acquire _ entry _ | .commit _ entry _ _ | .release _ entry => some entry
  | .begin _ | .proceed _ | .evict _ _ => none

/-- What a move makes of the entry that it is about. -/
def Move.applied (move : Move) (entry : Entry) : Entry :=
  match move.action with
  | .acquire caller _ request => (entry.acquire caller request move.moment.monotonic).2
  | .commit caller _ content tag => (entry.commit caller content tag move.moment.monotonic).2
  | .release caller _ => entry.release caller
  | .begin _ | .proceed _ | .evict _ _ => entry

namespace Traffic

/-- What a move can make of the traffic. -/
inductive Change (traffic : Traffic) (move : Move) : Traffic → Prop where
  | nothing : Change traffic move traffic
  /-- A call that has begun has done nothing yet. -/
  | begun {call : Call}
      (found : ∀ entry, call.found? = some entry → traffic.isShown entry = true)
      (candidate : call.candidate? = none) (reading : call.reading? = none)
      (carried : call.carried? traffic.cache.heap = none) (condemned : call.condemned? = none)
      (removal : call.isRemoval = true → move.removes = true) :
      Change traffic move ⟨traffic.cache, traffic.calls ++ [call]⟩
  /-- A call has made a step. -/
  | proceeded {number : Nat} {call next : Call} {cache : Cache}
      (known : traffic.calls[number]? = some call)
      (effect : call.Effect move.moment traffic.cache next cache)
      (kind : next.isRemoval = call.isRemoval) :
      Change traffic move ⟨cache, traffic.calls.set number next⟩
  /-- A lock operation was made on an entry. -/
  | operated {entry : EntryId} (target : move.target? = some entry)
      (shown : traffic.isShown entry = true) :
      Change traffic move
        ⟨traffic.cache.setEntry entry (move.applied (traffic.state entry)), traffic.calls⟩
  /-- A key was evicted. -/
  | evicted {key : String} {entry : EntryId} (removal : move.removes = true) :
      Change traffic move
        ⟨⟨traffic.cache.heap, (traffic.cache.store.evict key entry).2⟩, traffic.calls⟩

/-- A lock operation changes the entry that it is about, or nothing. -/
theorem change_onEntry (traffic : Traffic) (move : Move) {entry : EntryId}
    (target : move.target? = some entry) :
    traffic.Change move (traffic.onEntry entry move.applied) := by
  unfold onEntry
  split
  · next shown => exact .operated target shown
  · exact .nothing

/-- A lock operation leaves the calls alone. -/
theorem calls_onEntry (traffic : Traffic) (target : EntryId) (change : Entry → Entry) :
    (traffic.onEntry target change).calls = traffic.calls := by
  unfold onEntry
  split <;> rfl

/-- Every move makes one of the changes. -/
theorem change_take (traffic : Traffic) (move : Move) : traffic.Change move (traffic.take move) := by
  obtain ⟨action, moment⟩ := move
  cases action with
  | begin task =>
      simp only [take]
      split
      · next admitted =>
          cases task with
          | copying asked =>
              refine .begun ?_ rfl rfl rfl rfl (by simp [Task.start, Call.isRemoval])
              intro entry known
              obtain rfl : asked.source = entry := by simpa [Task.start, Call.found?] using known
              exact admitted
          | lookup asked =>
              exact .begun (by simp [Task.start, Call.found?]) rfl rfl rfl rfl
                (by simp [Task.start, Call.isRemoval])
          | sweep =>
              exact .begun (by simp [Task.start, Call.found?]) rfl rfl rfl rfl
                (by simp [Task.start, Call.isRemoval])
          | removal asked =>
              exact .begun (by simp [Task.start, Call.found?]) rfl rfl rfl rfl fun _ => rfl
      · exact .nothing
  | proceed number =>
      simp only [take]
      split
      · exact .nothing
      · next call known =>
          refine .proceeded known (Call.effect_step moment traffic.cache call) ?_
          cases call <;> rfl
  | acquire caller entry request => exact traffic.change_onEntry _ rfl
  | commit caller entry content tag => exact traffic.change_onEntry _ rfl
  | release caller entry => exact traffic.change_onEntry _ rfl
  | evict key entry => exact .evicted rfl

end Traffic

end SingleFlight
