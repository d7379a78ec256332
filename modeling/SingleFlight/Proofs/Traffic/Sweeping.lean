import SingleFlight.Proofs.Traffic.Conservation
import SingleFlight.Proofs.Traffic.Course
import SingleFlight.Proofs.Traffic.Departed
import SingleFlight.Proofs.Traffic.Provenance

namespace SingleFlight

/-- Whether both times of a clock can be read. -/
def Moment.isReadable (moment : Moment) : Bool := moment.monotonic.isOk && moment.wall.isOk

theorem Moment.isReadable_iff {moment : Moment} : moment.isReadable = true ↔
    (∃ now, moment.monotonic = .ok now) ∧ ∃ wall, moment.wall = .ok wall := by
  obtain ⟨monotonic, wall⟩ := moment
  cases monotonic <;> cases wall <;> simp [isReadable, Except.isOk, Except.toBool]

/-- Whether an entry was locked up to the ceiling, or is unlocked and expired. -/
def Entry.IsSpent (entry : Entry) (now : Instant) : Prop :=
  (∃ hold, entry.hold = some hold ∧ entry.maxLockHold ≤ now.since hold.since) ∨
    (entry.hold = none ∧ entry.ttl ≤ now.since entry.updated)

theorem Entry.isDisposable_iff (entry : Entry) (now : Instant) :
    entry.isDisposable now = true ↔ entry.IsSpent now := by
  cases held : entry.hold with
  | none => simp [isDisposable, isLocked, isExpired, IsSpent, held]
  | some hold => simp [isDisposable, isLocked, isAbandoned, IsSpent, held]

namespace Sweep.Phase

/-- The listed keys a sweep has still to deal with. -/
def pending : Phase → List String
  | .visiting _ keys => keys
  | .timing _ key _ rest | .judging _ key _ _ rest | .removing _ key _ rest => key :: rest
  | _ => []

/-- How many keys are listed and taken out, unless the sweep failed. -/
def counts? : Phase → Option (Nat × Nat)
  | .starting | .listing _ | .finished (.error _) => none
  | .visiting progress _ | .timing progress _ _ _ | .judging progress _ _ _ _
  | .removing progress _ _ _ | .stamping progress | .closing progress _ =>
    some (progress.scanned, progress.evicted)
  | .publishing report | .counting report | .finished (.ok report) =>
    some (report.scanned, report.evicted)

/-- The number of entries that a sweep has taken out. -/
def evicted (phase : Phase) : Nat := (phase.counts?.map Prod.snd).getD 0

/-- What the next step of a sweep takes out of a store. -/
def removed (phase : Phase) (store : Store) : List (String × EntryId) :=
  match phase with
  | .removing _ key found _ => if store.lookup key = some found then [(key, found)] else []
  | _ => []

theorem of_mem_removed {phase : Phase} {store : Store} {key : String} {entry : EntryId}
    (inside : (key, entry) ∈ phase.removed store) :
    ∃ progress rest, phase = .removing progress key entry rest ∧ store.lookup key = some entry := by
  cases phase with
  | removing progress name found rest =>
      simp only [removed] at inside
      split at inside
      · next current =>
          obtain ⟨rfl, rfl⟩ := Prod.mk.inj (List.mem_singleton.mp inside)
          exact ⟨progress, rest, rfl, current⟩
      · cases inside
  | _ => cases inside

end Sweep.Phase

namespace Sweep
variable {phase : Phase} {moment : Moment} {cache : Cache}

/-- A sweep lists the keys, or counts what it takes out. -/
theorem counts_step {scanned evicted : Nat}
    (counts : (step phase moment cache).1.counts? = some (scanned, evicted)) :
    (∃ started, phase = .listing started ∧ scanned = cache.store.keys.length ∧ evicted = 0 ∧
      (step phase moment cache).1.pending = cache.store.keys) ∨
    (∃ before, phase.counts? = some (scanned, before) ∧
      evicted = before + (phase.removed cache.store).length ∧
      (step phase moment cache).1.pending ⊆ phase.pending) := by
  cases phase with
  | starting =>
      simp only [step, withReading] at counts
      split at counts <;> simp [Phase.counts?] at counts
  | listing started =>
      obtain ⟨rfl, rfl⟩ : cache.store.keys.length = scanned ∧ 0 = evicted := by
        simpa [step, Phase.counts?] using counts
      exact .inl ⟨started, rfl, rfl, rfl, rfl⟩
  | visiting progress keys =>
      right
      cases keys with
      | nil => exact ⟨evicted, counts, rfl, by simp [step, Phase.pending]⟩
      | cons key rest =>
          simp only [step] at counts ⊢
          split at counts
          · exact ⟨evicted, counts, rfl, by simp [Phase.pending]⟩
          · exact ⟨evicted, counts, rfl, List.subset_cons_self _ _⟩
  | timing progress key found rest =>
      right
      simp only [step, withReading] at counts ⊢
      split at counts
      · exact ⟨evicted, counts, rfl, List.Subset.refl _⟩
      · simp [Phase.counts?] at counts
  | judging progress key found now rest =>
      right
      simp only [step] at counts ⊢
      split at counts
      · exact ⟨evicted, counts, rfl, by simp [*, Phase.pending]⟩
      · exact ⟨evicted, counts, rfl, by simp [*, Phase.pending]⟩
  | removing progress key found rest =>
      right
      by_cases current : cache.store.lookup key = some found
      · obtain ⟨rfl, rfl⟩ : progress.scanned = scanned ∧ progress.evicted + 1 = evicted := by
          simpa [step, Store.evict, current, Progress.count, Phase.counts?] using counts
        exact ⟨progress.evicted, rfl, by simp [Phase.removed, current],
          by simp [step, Phase.pending]⟩
      · obtain ⟨rfl, rfl⟩ : progress.scanned = scanned ∧ progress.evicted = evicted := by
          simpa [step, Store.evict, current, Progress.count, Phase.counts?] using counts
        exact ⟨progress.evicted, rfl, by simp [Phase.removed, current],
          by simp [step, Phase.pending]⟩
  | stamping progress =>
      right
      simp only [step] at counts ⊢
      split at counts
      · exact ⟨evicted, counts, rfl, by simp [*, Phase.pending]⟩
      · simp [Phase.counts?] at counts
  | closing progress finishedAt =>
      right
      simp only [step, withReading] at counts ⊢
      split at counts
      · exact ⟨evicted, counts, rfl, by simp [*, Phase.pending]⟩
      · simp [Phase.counts?] at counts
  | publishing report | counting report =>
      exact .inr ⟨evicted, counts, rfl, by simp [step, Phase.pending]⟩
  | finished outcome =>
      exact .inr ⟨evicted, counts, rfl, List.Subset.refl _⟩

/-- A sweep that has listed no keys has taken out nothing. -/
theorem unlisted_step (early : (step phase moment cache).1.listed = false) (store : Store) :
    phase.listed = false ∧ phase.removed store = [] := by
  cases phase with
  | starting | listing _ => exact ⟨rfl, rfl⟩
  | visiting progress keys =>
      cases keys <;> simp only [step] at early <;> [skip; split at early] <;> cases early
  | timing _ _ _ _ | judging _ _ _ _ _ | stamping _ | closing _ _ =>
      simp only [step, withReading] at early
      split at early <;> cases early
  | _ => cases early

/-- A sweep's step takes out one entry at most. -/
theorem removed_cases (phase : Phase) (moment : Moment) (cache : Cache) :
    (phase.removed cache.store = [] ∧
      ∀ key, (step phase moment cache).2.1.store.lookup key = cache.store.lookup key) ∨
    ∃ key found, phase.removed cache.store = [(key, found)] ∧
      cache.store.lookup key = some found ∧
      ∀ other, (step phase moment cache).2.1.store.lookup other =
        if other = key then none else cache.store.lookup other := by
  cases phase with
  | removing progress key found rest =>
      by_cases current : cache.store.lookup key = some found
      · refine .inr ⟨key, found, by simp [Phase.removed, current], current, fun other => ?_⟩
        simp only [step, Store.lookup_evict, current, and_true]
      · refine .inl ⟨by simp [Phase.removed, current], fun other => ?_⟩
        simp [step, Store.lookup_evict, current]
  | visiting progress keys =>
      left
      cases keys with
      | nil => exact ⟨rfl, fun _ => rfl⟩
      | cons key rest => simp only [step]; split <;> exact ⟨rfl, fun _ => rfl⟩
  | judging progress key found now rest =>
      simp only [step]
      split <;> exact .inl ⟨rfl, fun _ => rfl⟩
  | stamping progress =>
      simp only [step]
      split <;> exact .inl ⟨rfl, fun _ => rfl⟩
  | _ => exact .inl ⟨rfl, fun _ => rfl⟩

/-- A sweep whose readings come through does not fail. -/
theorem sound_step (readable : moment.isReadable = true)
    (sound : ∀ fault, phase ≠ .finished (.error fault)) (fault : ClockFault) :
    (step phase moment cache).1 ≠ .finished (.error fault) := by
  obtain ⟨⟨now, read⟩, wall, seen⟩ := Moment.isReadable_iff.mp readable
  cases phase with
  | finished outcome => exact sound fault
  | visiting progress keys => cases keys <;> simp only [step] <;> [skip; split] <;> simp
  | judging progress key found now rest => simp only [step]; split <;> simp
  | _ => simp [step, withReading, read, seen]

/-- A sweep about to judge has just made its reading. -/
theorem judging_step {progress : Progress} {key : String} {found : EntryId} {now : Instant}
    {rest : List String} (next : (step phase moment cache).1 = .judging progress key found now rest) :
    phase = .timing progress key found rest ∧ moment.monotonic = .ok now := by
  cases phase with
  | timing _ _ _ _ =>
      simp only [step, withReading] at next
      split at next
      · next read => cases next; exact ⟨rfl, read⟩
      · cases next
  | visiting _ keys => cases keys <;> simp only [step] at next <;> [skip; split at next] <;> cases next
  | starting | judging _ _ _ _ _ | stamping _ | closing _ _ =>
      simp only [step, withReading] at next
      split at next <;> cases next
  | _ => cases next

/-- A sweep about to take an entry out has just judged it. -/
theorem removing_step {progress : Progress} {key : String} {found : EntryId}
    {rest : List String} (next : (step phase moment cache).1 = .removing progress key found rest) :
    ∃ now, phase = .judging progress key found now rest ∧ (cache.heap.get found).IsSpent now := by
  cases phase with
  | judging _ _ _ now _ =>
      simp only [step] at next
      split at next
      · next disposable => cases next; exact ⟨now, rfl, (Entry.isDisposable_iff _ _).mp disposable⟩
      · cases next
  | visiting _ keys => cases keys <;> simp only [step] at next <;> [skip; split at next] <;> cases next
  | starting | timing _ _ _ _ | stamping _ | closing _ _ =>
      simp only [step, withReading] at next
      split at next <;> cases next
  | _ => cases next

/-- A sweep whose readings come through counts each entry that it takes out. -/
theorem evicted_step (readable : moment.isReadable = true) (phase : Phase) (cache : Cache) :
    (step phase moment cache).1.evicted = phase.evicted + (phase.removed cache.store).length := by
  cases counts : (step phase moment cache).1.counts? with
  | some pair =>
      obtain ⟨scanned, evicted⟩ := pair
      rw [Phase.evicted, counts]
      rcases counts_step counts with ⟨started, rfl, -, rfl, -⟩ | ⟨before, known, more, -⟩
      · rfl
      · rw [Phase.evicted, known]
        exact more
  | none =>
      obtain ⟨⟨now, read⟩, wall, seen⟩ := Moment.isReadable_iff.mp readable
      rw [Phase.evicted, counts]
      cases phase with
      | starting => rfl
      | finished outcome =>
          rw [Phase.evicted, show (Phase.finished outcome).counts? = none from counts]
          rfl
      | visiting progress keys =>
          cases keys <;> simp only [step] at counts <;> [skip; split at counts] <;> cases counts
      | judging progress key found now rest =>
          simp only [step] at counts
          split at counts <;> cases counts
      | _ => simp [step, withReading, read, seen, Phase.counts?] at counts

/-- A sweep counts each entry in the store when it takes it out. -/
theorem evictions_step (phase : Phase) (moment : Moment) (cache : Cache) :
    (step phase moment cache).2.1.store.evictions =
      cache.store.evictions + (phase.removed cache.store).length := by
  cases phase with
  | removing progress key found rest =>
      by_cases current : cache.store.lookup key = some found <;>
        simp [step, Store.evict, Phase.removed, current]
  | visiting progress keys =>
      cases keys with
      | nil => rfl
      | cons key rest => simp only [step]; split <;> rfl
  | judging progress key found now rest => simp only [step]; split <;> rfl
  | stamping progress => simp only [step]; split <;> rfl
  | _ => rfl

end Sweep

namespace Traffic

/-- A move by which a sweep lists the keys. -/
def lists (traffic : Traffic) (move : Move) (number : Nat) (keys : List String) : Prop :=
  move.proceeds number = true ∧
    (∃ started, traffic.calls[number]? = some (.sweep (.listing started))) ∧
    keys = traffic.cache.store.keys

/-- A sweep has just read the time for its judgement. -/
def HasRead (start : Traffic) (number : Nat) (moves : List Move) (key : String) (entry : EntryId)
    (now : Instant) : Prop :=
  LastStep number moves fun before move => move.moment.monotonic = .ok now ∧
    ∃ progress rest, (start.run before).calls[number]? = some (.sweep (.timing progress key entry rest))

/-- A sweep has just judged an entry that has had its time. -/
def HasJudged (start : Traffic) (number : Nat) (moves : List Move) (key : String) (entry : EntryId) :
    Prop :=
  LastStep number moves fun before _ => ∃ now, start.HasRead number before key entry now ∧
    ((start.run before).state entry).IsSpent now

/-- What a call takes out in a run. -/
def takenBy (number : Nat) (traffic : Traffic) : List Move → List (String × EntryId)
  | [] => []
  | move :: rest =>
    (if move.proceeds number then traffic.takenOut move else []) ++
      (traffic.take move).takenBy number rest

variable {traffic start : Traffic} {moves : List Move} {move : Move} {number : Nat}

theorem takenBy_concat (traffic : Traffic) (moves : List Move) (move : Move) (number : Nat) :
    traffic.takenBy number (moves ++ [move]) = traffic.takenBy number moves ++
      if move.proceeds number then (traffic.run moves).takenOut move else [] := by
  induction moves generalizing traffic with
  | nil => simp [takenBy]
  | cons first rest ih => simp [takenBy, ih]

/-- What a sweep takes out in a step is what its phase says. -/
theorem takenOut_of_sweep (inPlace : traffic.cache.store.segments.InPlace)
    (own : move.proceeds number = true) {phase : Sweep.Phase}
    (there : traffic.calls[number]? = some (.sweep phase)) :
    traffic.takenOut move = phase.removed traffic.cache.store := by
  have maps (key : String) : (traffic.take move).lookup key =
      (Sweep.step phase move.moment traffic.cache).2.1.store.lookup key := by
    rw [take_of_proceeds own there]
    rfl
  rcases Sweep.removed_cases phase move.moment traffic.cache with
    ⟨nothing, same⟩ | ⟨key, found, one, before, after⟩
  · rw [nothing]
    exact takenOut_eq_nil inPlace fun key => (maps key).trans (same key)
  · rw [one]
    refine takenOut_eq_singleton inPlace before ?_ fun other apart => ?_
    · rw [maps, after, if_pos rfl]
    · rw [maps, after, if_neg apart]
      rfl

/-- What a sweep knows after a run of what it has done. -/
structure Follows (start : Traffic) (moves : List Move) (number : Nat) (phase : Sweep.Phase) :
    Prop where
  sound : ∀ fault, phase ≠ .finished (.error fault)
  unlisted : phase.listed = false → start.takenBy number moves = []
  counted : ∀ scanned evicted, phase.counts? = some (scanned, evicted) →
    ∃ keys, start.Occurs moves (·.lists · number keys) ∧ scanned = keys.length ∧
      phase.pending ⊆ keys ∧ evicted = (start.takenBy number moves).length
  read : ∀ progress key found now rest, phase = .judging progress key found now rest →
    start.HasRead number moves key found now
  judged : ∀ progress key found rest, phase = .removing progress key found rest →
    start.HasJudged number moves key found

namespace Follows

/-- A sweep that has just begun has done nothing. -/
theorem starting (nothing : start.takenBy number moves = []) :
    start.Follows moves number .starting where
  sound fault same := by cases same
  unlisted _ := nothing
  counted scanned evicted counts := by cases counts
  read progress key found now rest same := by cases same
  judged progress key found rest same := by cases same

/-- A sweep does nothing while others move. -/
theorem idle {phase : Sweep.Phase} (follows : start.Follows moves number phase)
    (other : move.proceeds number = false) : start.Follows (moves ++ [move]) number phase := by
  have same : start.takenBy number (moves ++ [move]) = start.takenBy number moves := by
    simp [takenBy_concat, other]
  exact {
    sound := follows.sound
    unlisted := fun early => same.trans (follows.unlisted early)
    counted := by
      intro scanned evicted counts
      obtain ⟨keys, listed, all, pending, mine⟩ := follows.counted scanned evicted counts
      exact ⟨keys, occurs_concat_iff.mpr (.inl listed), all, pending, by rw [same, mine]⟩
    read := fun progress key found now rest at_ =>
      (follows.read progress key found now rest at_).idle other
    judged := fun progress key found rest at_ =>
      (follows.judged progress key found rest at_).idle other }

/-- A step of a sweep goes on with what it knows. -/
theorem own {phase : Sweep.Phase} (follows : start.Follows moves number phase)
    (inPlace : (start.run moves).cache.store.segments.InPlace)
    (proceeds : move.proceeds number = true) (readable : move.moment.isReadable = true)
    (there : (start.run moves).calls[number]? = some (.sweep phase)) :
    start.Follows (moves ++ [move]) number
      (Sweep.step phase move.moment (start.run moves).cache).1 := by
  have taken : start.takenBy number (moves ++ [move]) =
      start.takenBy number moves ++ phase.removed (start.run moves).cache.store := by
    rw [takenBy_concat, if_pos proceeds, takenOut_of_sweep inPlace proceeds there]
  exact {
    sound := Sweep.sound_step readable follows.sound
    unlisted := by
      intro early
      obtain ⟨before, nothing⟩ := Sweep.unlisted_step early (start.run moves).cache.store
      rw [taken, follows.unlisted before, nothing]
      rfl
    counted := by
      intro scanned evicted counts
      rcases Sweep.counts_step counts with
        ⟨started, rfl, all, rfl, pending⟩ | ⟨before, known, more, pending⟩
      · refine ⟨(start.run moves).cache.store.keys, ?_, all, by rw [pending]; simp, ?_⟩
        · exact occurs_concat_iff.mpr (.inr ⟨proceeds, ⟨started, there⟩, rfl⟩)
        · rw [taken, follows.unlisted rfl]
          rfl
      · obtain ⟨keys, listed, all, inside, mine⟩ := follows.counted scanned before known
        refine ⟨keys, occurs_concat_iff.mpr (.inl listed), all, List.Subset.trans pending inside, ?_⟩
        rw [taken, List.length_append, more, mine]
    read := by
      intro progress key found now rest next
      obtain ⟨rfl, read⟩ := Sweep.judging_step next
      exact .own proceeds ⟨read, progress, rest, there⟩
    judged := by
      intro progress key found rest next
      obtain ⟨now, rfl, spent⟩ := Sweep.removing_step next
      exact .own proceeds ⟨now, follows.read progress key found now rest rfl, spent⟩ }

end Follows

/-- There is nothing that a call takes out before it has begun. -/
theorem takenBy_of_absent (inPlace : (start.run moves).cache.store.segments.InPlace)
    (before : start.takenBy number moves = [])
    (absent : (start.run moves).calls[number]? = none) :
    start.takenBy number (moves ++ [move]) = [] := by
  rw [takenBy_concat, before, List.nil_append]
  split
  · next own => exact takenOut_eq_nil inPlace fun key => by rw [take_of_absent own absent]
  · rfl

/-- After a run with all readings every sweep knows what it has done. -/
theorem follows_run (inPlace : start.cache.store.segments.InPlace) (fresh : start.calls = [])
    (readable : ∀ move ∈ moves, Moment.isReadable move.moment = true) (number : Nat) :
    ((start.run moves).calls[number]? = none → start.takenBy number moves = []) ∧
      ∀ phase, (start.run moves).calls[number]? = some (.sweep phase) →
        start.Follows moves number phase := by
  induction moves using List.reverseRecOn with
  | nil =>
      refine ⟨fun _ => rfl, fun phase there => ?_⟩
      rw [run_nil, fresh] at there
      cases there
  | append_singleton moves move ih =>
      obtain ⟨absent, known⟩ := ih fun other inside => readable other (List.mem_append_left _ inside)
      have placed := inPlace_run inPlace moves
      rw [run_append, run_cons, run_nil]
      constructor
      · intro later
        have before : (start.run moves).calls[number]? = none := by
          rw [List.getElem?_eq_none_iff] at later ⊢
          exact (length_calls_take _ move).trans later
        exact takenBy_of_absent placed (absent before) before
      · intro phase there
        rcases call_cases there with ⟨own, call, before, step, -⟩ | ⟨idle, before⟩ |
          ⟨idle, before, task, -, begins⟩
        · cases call with
          | sweep old =>
              cases step
              exact (known old before).own placed own (readable move (by simp)) before
          | _ => cases step
        · exact (known phase before).idle idle
        · cases task with
          | sweep =>
              cases begins
              exact .starting (takenBy_of_absent placed (absent before) before)
          | _ => cases begins

end Traffic

namespace Call

/-- How many entries a call has taken out so far. -/
def taken : Call → Nat
  | .removal phase => phase.removed
  | .sweep phase => phase.evicted
  | .lookup _ _ | .copying _ _ => 0

/-- How many entries a finished call tells it has taken out. -/
def reported : Call → Nat
  | .removal (.finished removed) => removed
  | .sweep (.finished (.ok report)) => report.evicted
  | _ => 0

theorem reported_eq_taken {call : Call} (isOver : call.isOver = true) :
    call.reported = call.taken ∧ call.uncounted = 0 := by
  unfold Call.isOver at isOver
  split at isOver
  · exact ⟨rfl, rfl⟩
  · next outcome => cases outcome <;> exact ⟨rfl, rfl⟩
  · exact ⟨rfl, rfl⟩
  · exact ⟨rfl, rfl⟩
  · cases isOver

/-- What a step takes out is counted now or later. -/
theorem evictions_step {moment : Moment} (readable : moment.isReadable = true) (call : Call)
    (cache : Cache) :
    (call.step moment cache).2.store.evictions + (call.step moment cache).1.uncounted + call.taken =
      cache.store.evictions + call.uncounted + (call.step moment cache).1.taken := by
  cases call with
  | lookup asked phase =>
      have same : (step (.lookup asked phase) moment cache).2.store.evictions =
          cache.store.evictions := by
        cases phase <;> simp only [step, Lookup.step, Lookup.find, Lookup.swap] <;> repeat' split
        all_goals rfl
      rw [same]
      rfl
  | sweep phase =>
      have counted := Sweep.evictions_step phase moment cache
      have told := Sweep.evicted_step readable phase cache
      simp only [step, uncounted, taken, counted, told]
      omega
  | removal phase =>
      cases phase with
      | taking name =>
          cases known : cache.store.contains name <;> simp [step, Removal.step, Store.take, known,
            uncounted, Removal.Phase.uncounted, taken, Removal.Phase.removed]
      | clearing segments removed =>
          cases segments with
          | nil => rfl
          | cons number rest =>
              simp only [step, Removal.step, uncounted, Removal.Phase.uncounted, taken,
                Removal.Phase.removed]
              omega
      | counting removed =>
          simp only [step, Removal.step, Store.countEvictions, uncounted,
            Removal.Phase.uncounted, taken, Removal.Phase.removed]
          omega
      | finished removed => rfl
  | copying asked phase =>
      cases phase with
      | stamping content => simp only [step, Copying.step]; split <;> rfl
      | _ => rfl

end Call

namespace Traffic

/-- Whether a move is an eviction that takes out its entry. -/
def evicts (traffic : Traffic) (move : Move) : Bool :=
  match move.action with
  | .evict key entry => (traffic.cache.store.evict key entry).1
  | _ => false

/-- How many moves of a run are evictions that take out their entry. -/
def evictCount (traffic : Traffic) : List Move → Nat
  | [] => 0
  | move :: rest => (traffic.evicts move).toNat + (traffic.take move).evictCount rest

/-- How many entries the calls have taken out so far. -/
def taken (traffic : Traffic) : Nat := (traffic.calls.map Call.taken).sum

variable {move : Move} {moves : List Move}

/-- What a move takes out is counted now or later. -/
theorem evictions_take (traffic : Traffic) (readable : move.moment.isReadable = true) :
    (traffic.take move).cache.store.evictions + (traffic.take move).uncounted + traffic.taken =
      traffic.cache.store.evictions + traffic.uncounted + (traffic.take move).taken +
        (traffic.evicts move).toNat := by
  obtain ⟨action, moment⟩ := move
  have comes : moment.isReadable = true := readable
  have kept (entry : EntryId) (change : Entry → Entry) :
      (traffic.onEntry entry change).cache.store.evictions +
          (traffic.onEntry entry change).uncounted + traffic.taken =
        traffic.cache.store.evictions + traffic.uncounted + (traffic.onEntry entry change).taken := by
    unfold onEntry
    split <;> rfl
  cases action with
  | begin task =>
      simp only [take]
      split
      · cases task with
        | removal asked => cases asked <;> simp [uncounted, taken, evicts, Task.start,
            Call.uncounted, Call.taken, Removal.start, Removal.Phase.uncounted,
            Removal.Phase.removed]
        | _ => simp [uncounted, taken, evicts, Task.start, Call.uncounted, Call.taken,
            Sweep.Phase.evicted, Sweep.Phase.counts?]
      · rfl
  | proceed number =>
      cases known : traffic.calls[number]? with
      | none => simp [take, known, evicts]
      | some call =>
          have step := call.evictions_step comes traffic.cache
          have counted := sum_map_set Call.uncounted known (call.step moment traffic.cache).1
          have told := sum_map_set Call.taken known (call.step moment traffic.cache).1
          simp only [take, known, uncounted, taken, evicts, Bool.toNat_false]
          omega
  | evict key entry =>
      simp only [take, uncounted, taken, evicts, Store.evict]
      split <;> simp only [Bool.toNat_true, Bool.toNat_false] <;> omega
  | acquire _ entry _ | commit _ entry _ _ | release _ entry => exact kept entry _

theorem evictions_run (traffic : Traffic) (readable : ∀ move ∈ moves, Moment.isReadable move.moment = true) :
    (traffic.run moves).cache.store.evictions + (traffic.run moves).uncounted + traffic.taken =
      traffic.cache.store.evictions + traffic.uncounted + (traffic.run moves).taken +
        traffic.evictCount moves := by
  induction moves generalizing traffic with
  | nil => rfl
  | cons move rest ih =>
      have first := evictions_take traffic (readable move List.mem_cons_self)
      have later := ih (traffic.take move) fun other inside =>
        readable other (List.mem_cons_of_mem move inside)
      simp only [run_cons, evictCount]
      omega

/-- When all calls are over, the counter tells what was taken out. -/
theorem evictions_of_over (hash : String → Nat) (count : Nat) (positive : 0 < count)
    (ceiling : Duration) (readable : ∀ move ∈ moves, Moment.isReadable move.moment = true)
    (isOver : ∀ call ∈ ((opened hash count positive ceiling).run moves).calls, call.isOver = true) :
    ((opened hash count positive ceiling).run moves).cache.store.evictions =
      (opened hash count positive ceiling).evictCount moves +
        (((opened hash count positive ceiling).run moves).calls.map Call.reported).sum := by
  have balance := evictions_run (opened hash count positive ceiling) readable
  have told : ((opened hash count positive ceiling).run moves).calls.map Call.reported =
      ((opened hash count positive ceiling).run moves).calls.map Call.taken :=
    List.map_congr_left fun call inside => (Call.reported_eq_taken (isOver call inside)).1
  have settled : ((opened hash count positive ceiling).run moves).uncounted = 0 :=
    uncounted_eq_zero fun call inside => by
      simp [Call.isHalfDone, (Call.reported_eq_taken (isOver call inside)).2]
  have nothing : (opened hash count positive ceiling).taken = 0 := rfl
  obtain ⟨-, none, unused, -⟩ := books_opened hash count positive ceiling
  rw [settled, none, unused, nothing] at balance
  rw [told]
  simp only [taken] at balance
  omega

/-- Sweeps take out only what has had its time, and count exactly what they take out. -/
theorem sweeps_account (hash : String → Nat) (count : Nat) (positive : 0 < count) (ceiling : Duration)
    {moves : List Move} (readable : ∀ move ∈ moves, move.moment.isReadable = true) :
    let start := opened hash count positive ceiling
    let traffic := start.run moves
    (∀ passed move number phase key entry, passed ++ [move] <+: moves →
      move.proceeds number = true → (start.run passed).calls[number]? = some (.sweep phase) →
      (key, entry) ∈ (start.run passed).takenOut move →
        (start.run passed).lookup key = some entry ∧
        (start.run (passed ++ [move])).lookup key = none ∧
        start.HasJudged number passed key entry ∧
        ∃ keys, start.Occurs passed (·.lists · number keys) ∧ key ∈ keys) ∧
    (∀ number outcome, traffic.calls[number]? = some (.sweep (.finished outcome)) →
      ∃ report keys, outcome = .ok report ∧ start.Occurs moves (·.lists · number keys) ∧
        report.scanned = keys.length ∧ report.evicted = (start.takenBy number moves).length) ∧
    ((∀ call ∈ traffic.calls, call.isOver = true) →
      traffic.cache.store.evictions =
        start.evictCount moves + (traffic.calls.map Call.reported).sum) := by
  intro start traffic
  have placed : start.cache.store.segments.InPlace := Segments.inPlace_empty hash count positive
  refine ⟨?_, ?_, evictions_of_over hash count positive ceiling readable⟩
  · intro passed move number phase key entry begins own there taken
    have known : ∀ move ∈ passed, Moment.isReadable move.moment = true := fun other inside =>
      readable other (begins.subset (List.mem_append_left _ inside))
    have follows := (follows_run placed rfl known number).2 phase there
    rw [takenOut_of_sweep (inPlace_run placed passed) own there] at taken
    obtain ⟨progress, rest, rfl, before⟩ := Sweep.Phase.of_mem_removed taken
    obtain ⟨keys, listed, -, pending, -⟩ := follows.counted _ _ rfl
    refine ⟨before, ?_, follows.judged progress key entry rest rfl, keys, listed,
      pending List.mem_cons_self⟩
    rw [run_append, run_cons, run_nil, take_of_proceeds own there]
    simp [Call.step, Sweep.step, lookup, Store.lookup_evict, before]
  · intro number outcome there
    have follows := (follows_run placed rfl readable number).2 _ there
    cases outcome with
    | error fault => exact absurd rfl (follows.sound fault)
    | ok report =>
        obtain ⟨keys, listed, all, -, mine⟩ := follows.counted _ _ rfl
        exact ⟨report, keys, rfl, listed, all, mine⟩

/-- One sweep comes inside another, and takes out both expired entries. -/
def nested : List Move :=
  [.timed 0 (.begin (.lookup ⟨"j", none, ⟨5⟩⟩)), .timed 0 (.proceed 0),
    .timed 0 (.begin (.lookup ⟨"k", none, ⟨5⟩⟩)), .timed 0 (.proceed 1), .timed 5 (.begin .sweep)] ++
  List.replicate 3 (.timed 5 (.proceed 2)) ++ [.timed 5 (.begin .sweep)] ++
  List.replicate 15 (.timed 5 (.proceed 3)) ++ List.replicate 9 (.timed 5 (.proceed 2))

/-- The outer sweep finds nothing left, and each entry is counted once. -/
theorem sweeps_account_of_nested :
    let start := opened (fun _ => 0) 1 Nat.one_pos ⟨9⟩
    let moves := nested
    let traffic := start.run moves
    start.takenBy 2 moves = [] ∧ start.takenBy 3 moves = [("j", ⟨0⟩), ("k", ⟨1⟩)] ∧
      traffic.calls.map Call.reported = [0, 0, 0, 2] ∧ traffic.cache.store.evictions = 2 := by
  intro start moves traffic
  have readable : ∀ move ∈ moves, Moment.isReadable move.moment = true := by decide +kernel
  have isOver : ∀ call ∈ traffic.calls, call.isOver = true := by decide +kernel
  have none : start.evictCount moves = 0 := by decide +kernel
  have told : traffic.calls.map Call.reported = [0, 0, 0, 2] := by decide +kernel
  have first : start.takenBy 2 moves = [] := by decide +kernel
  have second : start.takenBy 3 moves = [("j", ⟨0⟩), ("k", ⟨1⟩)] := by decide +kernel
  -- With the moves in sight, each comparison would run them again; what is known of them is enough.
  clear_value moves
  obtain ⟨-, -, counted⟩ := sweeps_account (fun _ => 0) 1 Nat.one_pos ⟨9⟩ readable
  refine ⟨first, second, told, (counted isOver).trans ?_⟩
  show start.evictCount moves + (traffic.calls.map Call.reported).sum = 2
  rw [none, told]
  rfl

end Traffic

end SingleFlight
