import SingleFlight.Proofs.Store.Undisturbed
import SingleFlight.Proofs.Undisturbed.Decision

namespace SingleFlight

/-- How a fetch ends whose producer has not come back with a content. -/
def Production.ending? : Production → Option Ending
  | .content _ => none
  | .failure error => some (.failed (.producer error))
  | .crash message => some (.crashed message)

/-- A newly acquired lock is gone when it is given back. -/
theorem Entry.release_acquire {entry : Entry} {caller : ThreadId}
    (free : entry.isHeldBy caller = false) (request : Request) (reading : Reading) :
    (entry.acquire caller request reading).2.release caller = entry := by
  have kept : entry.release caller = entry := by simp [release, free]
  rcases entry.acquire_cases caller request reading with
    ⟨hold, -, same⟩ | ⟨-, fault, -, same⟩ | ⟨unlocked, now, -, -, same⟩ | ⟨-, now, -, -, same⟩
  · rw [same, kept]
  · rw [same, kept]
  · rw [same]
    simp [release, isHeldBy, ← unlocked]
  · rw [same, kept]

/-- A lock that is got and given back leaves the cache. -/
theorem Cache.setEntry_released {cache : Cache} {id : EntryId} (known : cache.heap.holds id = true)
    {caller : ThreadId} (free : (cache.heap.get id).isHeldBy caller = false) (request : Request)
    (reading : Reading) :
    let locked := cache.setEntry id ((cache.heap.get id).acquire caller request reading).2
    locked.setEntry id ((locked.heap.get id).release caller) = cache := by
  intro locked
  have state : locked.heap.get id = ((cache.heap.get id).acquire caller request reading).2 :=
    Heap.get_set_self known _
  rw [state, Entry.release_acquire free]
  simp [locked, Cache.setEntry]

/-- A lone lookup comes to rest in as many steps as it has left. -/
theorem Lookup.alone_rests (asked : Lookup) {moment : Moment} {phase : Lookup.Phase} {count : Nat}
    (enough : remaining phase ≤ count) (cache : Cache) (logged : List Event) :
    remaining (asked.procedure.alone moment count phase cache logged).1 = 0 := by
  induction count generalizing phase cache logged with
  | zero => exact Nat.le_zero.mp enough
  | succ count ih =>
      by_cases isOver : remaining phase = 0
      · rw [Procedure.alone_rest isOver]
        exact isOver
      · have shorter := asked.remaining_step phase
          (moment.seen (asked.procedure.clockUse phase cache)) cache isOver
        rw [Procedure.alone_step isOver rfl]
        exact ih (Nat.le_of_lt_succ (Nat.lt_of_lt_of_le shorter enough)) _ _

/-- A lookup that runs alone is over after its first leg. -/
theorem Lookup.undisturbed_eq_alone (asked : Lookup) (moment : Moment) (cache : Cache) :
    asked.procedure.undisturbed moment .finding cache =
      asked.procedure.alone moment (remaining .finding) .finding cache [] := by
  obtain ⟨last, final, events, reached⟩ : ∃ last final events,
      asked.procedure.alone moment (remaining .finding) .finding cache [] = (last, final, events) :=
    ⟨_, _, _, rfl⟩
  have rest : remaining (asked.procedure.alone moment (remaining .finding) .finding cache []).1 = 0 :=
    asked.alone_rests (Nat.le_refl _) cache []
  rw [reached] at rest ⊢
  exact Procedure.undisturbed_of_rest reached rest

namespace Fetch
variable {fetch : Fetch} {moment : Moment} {cache : Cache}

/-- A fetch that runs alone makes the steps of its lookup first. -/
theorem next_looking (fetch : Fetch) (moment : Moment) (inner : Lookup.Phase) (cache : Cache) :
    fetch.procedure.next moment (.looking inner) cache =
      let (next, after, events) := fetch.lookup.procedure.next moment inner cache
      (afterLookup next, after, events) := rfl

/-- A lone fetch goes on where its lookup has ended. -/
theorem alone_looking (fetch : Fetch) (moment : Moment) {inner : Lookup.Phase}
    (running : Lookup.remaining inner ≠ 0) {count : Nat} (enough : Lookup.remaining inner ≤ count)
    (spare : Nat) (cache : Cache) (logged : List Event) :
    let looked := fetch.lookup.procedure.alone moment count inner cache logged
    ∃ left, spare ≤ left ∧ fetch.procedure.alone moment (count + spare) (.looking inner) cache logged =
      fetch.procedure.alone moment left (afterLookup looked.1) looked.2.1 looked.2.2 := by
  induction count generalizing inner cache logged with
  | zero => exact absurd (Nat.le_zero.mp enough) running
  | succ count ih =>
      obtain ⟨next, after, events, made⟩ : ∃ next after events,
          fetch.lookup.procedure.next moment inner cache = (next, after, events) := ⟨_, _, _, rfl⟩
      have follows : fetch.procedure.next moment (.looking inner) cache =
          (afterLookup next, after, events) := by rw [next_looking, made]
      have shorter : Lookup.remaining next < Lookup.remaining inner := by
        have step := fetch.lookup.remaining_step inner
          (moment.seen (fetch.lookup.procedure.clockUse inner cache)) cache running
        rwa [show (fetch.lookup.step inner _ cache).1 = next from congrArg Prod.fst made] at step
      have looking : fetch.procedure.remaining (.looking inner) ≠ 0 := Nat.succ_ne_zero _
      rw [Nat.add_right_comm, Procedure.alone_step looking follows, Procedure.alone_step running made]
      by_cases isOver : Lookup.remaining next = 0
      · rw [Procedure.alone_rest isOver]
        exact ⟨count + spare, Nat.le_add_left _ _, rfl⟩
      · rw [afterLookup_of_running isOver]
        exact ih isOver (by omega) after _

/-- A lone fetch comes to what three steps after its lookup bring. -/
theorem undisturbed_start {looked : Lookup.Phase} {between final : Cache} {events later : List Event}
    {last : Phase}
    (given : fetch.lookup.procedure.undisturbed moment .finding cache = (looked, between, events))
    (reached : ∀ spare, fetch.procedure.alone moment (spare + 3) (afterLookup looked) between events =
      (last, final, later)) (rest : remaining last = 0) :
    fetch.procedure.undisturbed moment start cache = (last, final, later) := by
  rw [Lookup.undisturbed_eq_alone] at given
  obtain ⟨left, enough, goes⟩ : ∃ left, 3 ≤ left ∧
      fetch.procedure.alone moment (remaining start) start cache [] =
        fetch.procedure.alone moment left (afterLookup looked) between events := by
    have running : Lookup.remaining .finding ≠ 0 := Nat.succ_ne_zero _
    have follows := fetch.alone_looking moment running (Nat.le_refl _) 3 cache []
    rwa [given] at follows
  obtain ⟨spare, rfl⟩ := Nat.exists_eq_add_of_le' enough
  exact Procedure.undisturbed_of_rest (goes.trans (reached spare)) rest

/-- An acquisition sees the clock if it has to. -/
theorem next_acquiring (fetch : Fetch) (moment : Moment) (id : EntryId) (cache : Cache) :
    fetch.procedure.next moment (.acquiring id) cache = fetch.acquire id moment.monotonic cache := by
  cases held : (cache.heap.get id).hold with
  | none =>
      simp [Procedure.next, procedure, clockUse, Entry.acquireReads, Entry.isLocked, held, Moment.seen, step]
  | some hold =>
      simp [Procedure.next, procedure, clockUse, Entry.acquireReads, Entry.isLocked, held, Moment.seen, step,
        acquire, Entry.acquire]

/-- A fetch that has got the lock rests while its producer runs. -/
theorem undisturbed_granted {id : EntryId} {between : Cache} {events : List Event} {entry : Entry}
    (given : fetch.lookup.procedure.undisturbed moment .finding cache =
      (.finished (.ok id), between, events))
    (granted : (between.heap.get id).acquire fetch.caller fetch.options.request moment.monotonic =
      (.ok .granted, entry)) :
    ∃ later, fetch.procedure.undisturbed moment start cache =
      (.producing id, between.setEntry id entry, later) := by
  have asked : fetch.procedure.next moment (.acquiring id) between =
      (.producing id, between.setEntry id entry, [.acquisition fetch.options.request .granted]) := by
    rw [next_acquiring, acquire, granted]
    rfl
  refine ⟨events ++ [.acquisition fetch.options.request .granted],
    undisturbed_start given (fun spare => ?_) rfl⟩
  exact (Procedure.alone_step (Nat.succ_ne_zero _) asked _ _).trans (Procedure.alone_rest rfl _ _ _)

/-- A refused fetch comes to rest at the gate or in the wait. -/
theorem undisturbed_refused {id : EntryId} {between : Cache} {events : List Event} {outcome : Acquisition}
    (given : fetch.lookup.procedure.undisturbed moment .finding cache =
      (.finished (.ok id), between, events))
    (refused : (between.heap.get id).acquire fetch.caller fetch.options.request moment.monotonic =
      (.ok outcome, between.heap.get id)) (denied : outcome.held = false) :
    ∃ later, fetch.procedure.undisturbed moment start cache =
      (if (between.heap.get id).gateOpen then .finished (fetch.answer (between.heap.get id))
        else .waiting id .parked, between, later) := by
  have asked : fetch.procedure.next moment (.acquiring id) between =
      (.waiting id .arriving, between, [.acquisition fetch.options.request outcome]) := by
    rw [next_acquiring, acquire, refused]
    simp [denied, Cache.setEntry]
  have looked : fetch.procedure.next moment (.waiting id .arriving) between =
      (if (between.heap.get id).gateOpen then .finished (fetch.answer (between.heap.get id))
        else .waiting id .parked, between, []) := by
    rw [← fetch.afterLook_arriving id]
    rfl
  refine ⟨events ++ [.acquisition fetch.options.request outcome],
    undisturbed_start given (fun spare => ?_) ?_⟩
  · rw [afterLookup, Procedure.alone_step (Nat.succ_ne_zero _) asked,
      Procedure.alone_step (Nat.succ_ne_zero _) looked, List.append_nil]
    split <;> exact Procedure.alone_rest rfl _ _ _
  · split <;> rfl

/-- A lone fetch rests, hears from its producer or wait, and ends. -/
theorem undisturbed_of_parts {production : Production} {asked produced last : Phase}
    {between after : Cache} {before told later : List Event}
    (first : fetch.procedure.undisturbed moment start cache = (asked, between, before))
    (heard : fetch.afterProduction production .zero asked = (produced, told))
    (second : fetch.procedure.undisturbed moment (expire produced) between = (last, after, later)) :
    fetch.undisturbed production moment cache = (last, after, before ++ told ++ later) := by
  simp only [undisturbed, first, heard, second]

/-- A fetch whose producer fails gives its lock back and ends. -/
theorem undisturbed_of_failure {id : EntryId} {locked : Cache} {before : List Event}
    {production : Production} {ending : Ending} (fails : production.ending? = some ending)
    (asked : fetch.procedure.undisturbed moment start cache = (.producing id, locked, before)) :
    ∃ events, fetch.undisturbed production moment cache =
      (.finished ending,
        locked.setEntry id ((locked.heap.get id).release fetch.caller), events) := by
  have heard : fetch.afterProduction production .zero (.producing id) = (.releasing id ending, []) := by
    cases production with
    | content text => cases fails
    | failure error => cases fails; rfl
    | crash message => cases fails; rfl
  exact ⟨_, undisturbed_of_parts asked heard (Procedure.undisturbed_of_step rfl rfl rfl)⟩

/-- A fetch that is over does nothing more. -/
theorem undisturbed_of_finished {ending : Ending} {between : Cache} {before : List Event}
    (production : Production)
    (asked : fetch.procedure.undisturbed moment start cache = (.finished ending, between, before)) :
    ∃ events, fetch.undisturbed production moment cache = (.finished ending, between, events) := by
  have still : fetch.procedure.undisturbed moment (.finished ending) between =
      (.finished ending, between, []) := Procedure.undisturbed_of_rest (Procedure.alone_rest rfl _ _ _) rfl
  exact ⟨_, undisturbed_of_parts asked rfl still⟩

/-- A wait without a signal ends in one more look. -/
theorem undisturbed_of_wait {id : EntryId} {between : Cache} {before : List Event}
    (production : Production)
    (asked : fetch.procedure.undisturbed moment start cache = (.waiting id .parked, between, before)) :
    ∃ events, fetch.undisturbed production moment cache =
      (.finished (fetch.answer (between.heap.get id)), between, events) := by
  have looked : fetch.procedure.next moment (.waiting id .late) between =
      (.finished (fetch.answer (between.heap.get id)), between, []) := by
    rw [← fetch.afterLook_late id]
    rfl
  exact ⟨_, undisturbed_of_parts asked rfl (Procedure.undisturbed_of_step rfl looked rfl)⟩

/-- A lookup fails with its reading, or gives an entry its thread has not locked. -/
theorem undisturbed_lookup_cases (reachable : cache.Reachable)
    (free : ∀ entry, cache.stored? fetch.key = some entry → entry.isHeldBy fetch.caller = false)
    (moment : Moment) :
    (∃ fault, moment.monotonic = .error fault ∧
      fetch.lookup.procedure.undisturbed moment .finding cache = (.finished (.error fault), cache, [])) ∨
    ∃ now id between events, moment.monotonic = .ok now ∧
      fetch.lookup.procedure.undisturbed moment .finding cache = (.finished (.ok id), between, events) ∧
      between.heap.holds id = true ∧ (between.heap.get id).isHeldBy fetch.caller = false := by
  have added (store : Store) (entry : Entry) (unlocked : entry.hold = none) :
      let between : Cache := ⟨cache.heap.add entry, store⟩
      between.heap.holds cache.heap.next = true ∧
        (between.heap.get cache.heap.next).isHeldBy fetch.caller = false := by
    refine ⟨(Heap.holds_add_iff _ _ _).mpr (.inr rfl), ?_⟩
    rw [Heap.get_add_next]
    simp [Entry.isHeldBy, unlocked]
  cases read : moment.monotonic with
  | error fault => exact .inl ⟨fault, rfl, fetch.lookup.undisturbed_unread read⟩
  | ok now =>
      right
      cases there : cache.store.lookup fetch.key with
      | none =>
          exact ⟨now, _, _, _, rfl, fetch.lookup.undisturbed_absent there read, added _ _ rfl⟩
      | some found =>
          cases abandoned : (cache.heap.get found).isAbandoned now with
          | false =>
              exact ⟨now, _, _, _, rfl, fetch.lookup.undisturbed_kept there read abandoned,
                reachable.inOrder.known _ _ there, free _ (Option.map_eq_some_iff.mpr ⟨found, there, rfl⟩)⟩
          | true =>
              exact ⟨now, _, _, _, rfl, fetch.lookup.undisturbed_replaced there read abandoned,
                added _ _ rfl⟩

/-- A fetch with the lock whose producer fails leaves what it has found. -/
theorem undisturbed_of_renews {id : EntryId} {between : Cache} {events : List Event}
    {production : Production} {ending : Ending} (fails : production.ending? = some ending)
    (given : fetch.lookup.procedure.undisturbed moment .finding cache =
      (.finished (.ok id), between, events))
    (known : between.heap.holds id = true) (free : (between.heap.get id).isHeldBy fetch.caller = false)
    (renews : fetch.Renews (between.heap.get id) moment.monotonic) :
    ∃ later, fetch.undisturbed production moment cache = (.finished ending, between, later) := by
  have undone := Cache.setEntry_released known free fetch.options.request moment.monotonic
  have held := (fetch.renews_iff _ _).mp renews
  rcases (between.heap.get id).acquire_cases fetch.caller fetch.options.request moment.monotonic with
    ⟨hold, there, asked⟩ | ⟨-, fault, -, asked⟩ | ⟨-, now, -, -, asked⟩ | ⟨-, now, -, -, asked⟩
  · have apart : hold.owner ≠ fetch.caller := by simpa [Entry.isHeldBy, there] using free
    simp [asked, apart, Except.map, Acquisition.held] at held
  · simp [asked, Except.map] at held
  · obtain ⟨before, rests⟩ := undisturbed_granted given asked
    obtain ⟨later, ended⟩ := undisturbed_of_failure fails rests
    rw [asked] at undone
    exact ⟨later, ended.trans (by rw [undone])⟩
  · simp [asked, Except.map, Acquisition.held] at held

/-- A fetch without the lock leaves what it has found. -/
theorem undisturbed_of_denial {id : EntryId} {between : Cache} {events : List Event} {now : Instant}
    (production : Production)
    (given : fetch.lookup.procedure.undisturbed moment .finding cache =
      (.finished (.ok id), between, events))
    (read : moment.monotonic = .ok now)
    (denied : ¬ fetch.Renews (between.heap.get id) moment.monotonic) :
    ∃ later, fetch.undisturbed production moment cache =
      (.finished (fetch.answer (between.heap.get id)), between, later) := by
  obtain ⟨outcome, refused, not⟩ : ∃ outcome : Acquisition,
      (between.heap.get id).acquire fetch.caller fetch.options.request moment.monotonic =
        (.ok outcome, between.heap.get id) ∧ outcome.held = false := by
    rw [fetch.renews_iff] at denied
    rcases (between.heap.get id).acquire_cases fetch.caller fetch.options.request moment.monotonic with
      ⟨hold, -, asked⟩ | ⟨-, fault, failed, -⟩ | ⟨-, now, -, -, asked⟩ | ⟨-, now, -, -, asked⟩
    · refine ⟨_, asked, ?_⟩
      simpa [asked, Except.map] using denied
    · rw [read] at failed
      cases failed
    · simp [asked, Except.map, Acquisition.held] at denied
    · exact ⟨_, asked, rfl⟩
  obtain ⟨before, rests⟩ := undisturbed_refused given refused not
  split at rests
  · exact undisturbed_of_finished production rests
  · exact undisturbed_of_wait production rests

/-- A fetch whose producer fails leaves nothing behind but what its lookup does. -/
theorem failure_leaves_no_trace (reachable : cache.Reachable) (fetch : Fetch)
    (free : ∀ entry, cache.stored? fetch.key = some entry → entry.isHeldBy fetch.caller = false)
    {production : Production} {ending : Ending} (fails : production.ending? = some ending)
    (moment : Moment) :
    let looked := fetch.lookup.procedure.undisturbed moment .finding cache
    let result := fetch.undisturbed production moment cache
    result.2.1 = looked.2.1 ∧
      ((∃ fault, looked.1 = .finished (.error fault) ∧ result.1 = .finished (.crashed fault.message)) ∨
        ∃ id, looked.1 = .finished (.ok id) ∧
          (fetch.Renews (looked.2.1.heap.get id) moment.monotonic → result.1 = .finished ending) ∧
          (¬ fetch.Renews (looked.2.1.heap.get id) moment.monotonic →
            result.1 = .finished (fetch.answer (looked.2.1.heap.get id)))) := by
  intro looked result
  rcases undisturbed_lookup_cases reachable free moment with
    ⟨fault, read, given⟩ | ⟨now, id, between, events, read, given, known, alone⟩
  · have asked : fetch.procedure.undisturbed moment start cache =
        (.finished (.crashed fault.message), cache, []) :=
      undisturbed_start given (fun spare => Procedure.alone_rest rfl _ _ _) rfl
    obtain ⟨later, ended⟩ := undisturbed_of_finished production asked
    rw [show looked = _ from given, show result = _ from ended]
    exact ⟨rfl, .inl ⟨fault, rfl, rfl⟩⟩
  rw [show looked = _ from given]
  by_cases renews : fetch.Renews (between.heap.get id) moment.monotonic
  · obtain ⟨later, ended⟩ := undisturbed_of_renews fails given known alone renews
    rw [show result = _ from ended]
    exact ⟨rfl, .inr ⟨id, rfl, fun _ => rfl, fun denied => absurd renews denied⟩⟩
  · obtain ⟨later, ended⟩ := undisturbed_of_denial production given read renews
    rw [show result = _ from ended]
    exact ⟨rfl, .inr ⟨id, rfl, fun granted => absurd granted renews, fun _ => rfl⟩⟩

/-- A thread has made a content and committed it. -/
def settled : List Move :=
  [.timed 0 (.begin (.lookup ⟨"k", none, ⟨5⟩⟩)), .timed 0 (.proceed 0),
    .timed 1 (.acquire ⟨1⟩ ⟨0⟩ (.ifStale none)), .timed 2 (.commit ⟨1⟩ ⟨0⟩ "old" none)]

/-- A forced renewal fails, and everything is as before. -/
theorem failure_leaves_no_trace_of_forced :
    let cache := ((Traffic.opened (fun _ => 0) 1 Nat.one_pos ⟨9⟩).run settled).cache
    let fetch : Fetch := ⟨⟨2⟩, "k", { FetchOptions.standard ⟨5⟩ with forceRefresh := true }⟩
    let result := fetch.undisturbed (.failure "down") ⟨.ok ⟨3⟩, .ok ⟨0⟩⟩ cache
    result.1 = .finished (.failed (.producer "down")) ∧ result.2.1 = cache := by
  intro cache fetch result
  have reachable : cache.Reachable := ⟨fun _ => 0, 1, Nat.one_pos, ⟨9⟩, by decide, settled, rfl⟩
  have there : cache.store.lookup "k" = some ⟨0⟩ := by decide +kernel
  have unlocked : (cache.heap.get ⟨0⟩).hold = none := by decide +kernel
  clear_value cache
  have free (entry : Entry) (stored : cache.stored? "k" = some entry) : entry.isHeldBy ⟨2⟩ = false := by
    rw [Cache.stored?, there] at stored
    obtain rfl := Option.some.inj stored
    simp [Entry.isHeldBy, unlocked]
  have looked : fetch.lookup.procedure.undisturbed ⟨.ok ⟨3⟩, .ok ⟨0⟩⟩ .finding cache =
      (.finished (.ok ⟨0⟩), cache, []) :=
    fetch.lookup.undisturbed_kept there rfl (by simp [Entry.isAbandoned, unlocked])
  have fails : (Production.failure "down").ending? = some (.failed (.producer "down")) := rfl
  obtain ⟨same, ended⟩ := failure_leaves_no_trace reachable fetch free fails ⟨.ok ⟨3⟩, .ok ⟨0⟩⟩
  rw [looked] at same ended
  obtain ⟨fault, failed, -⟩ | ⟨id, given, granted, -⟩ := ended
  · cases failed
  · obtain rfl : ⟨0⟩ = id := by simpa using given
    exact ⟨granted (.inr ⟨unlocked, ⟨3⟩, rfl, .inl rfl⟩), same⟩

end Fetch

end SingleFlight
