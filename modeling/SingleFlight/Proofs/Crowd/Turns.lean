import SingleFlight.Proofs.Crowd.Invariant

namespace SingleFlight

namespace Crowd

/-- Nobody wakes up without a signal. -/
@[simp] theorem wake_none (phase : Fetch.Phase) : wake none phase = phase := by
  cases phase <;> simp [wake]

@[simp] theorem turnTo_self (crowd : Crowd) : crowd.turnTo crowd.cache none = crowd := by
  simp [turnTo]

/-- Who has the lock is not in the wait. -/
@[simp] theorem isHolding_wake (signal : Option EntryId) (phase : Fetch.Phase) :
    (wake signal phase).isHolding = phase.isHolding := by
  unfold wake
  split
  · split <;> rfl
  · rfl

end Crowd

namespace Rush
variable {rush : Rush} {crowd later : Crowd} {key : String}

/-- How the entry of a key may pass on while a visitor has to do with it. -/
structure Passes (rush : Rush) (fetch : Fetch) (before after : Entry) : Prop where
  refuses : rush.Refuses before → rush.Refuses after
  gate : before.gateOpen = true → after.gateOpen = true
  hold : before.hold = some ⟨fetch.caller, rush.now⟩ → after.hold = some ⟨fetch.caller, rush.now⟩

theorem Passes.refl (fetch : Fetch) (entry : Entry) : rush.Passes fetch entry entry :=
  ⟨id, id, id⟩

/-- A visitor that makes no turn stands where it stood, or is woken. -/
theorem Stands.wake {fetch : Fetch} {phase : Fetch.Phase} {signal : Option EntryId}
    (stands : rush.Stands crowd fetch phase)
    (passes : ∀ id, crowd.lookup fetch.key = some id →
      later.lookup fetch.key = some id ∧ rush.Passes fetch (crowd.state id) (later.state id))
    (signals : ∀ id, crowd.lookup fetch.key = some id →
      (signal = some id ↔ (crowd.state id).opensGate (later.state id) = true))
    (counts : phase.isHolding = true →
      later.rendered.count fetch.key = crowd.rendered.count fetch.key) :
    rush.Stands later fetch (Crowd.wake signal phase) := by
  cases phase with
  | looking inner =>
      cases inner with
      | finding => exact trivial
      | timing id => exact (passes id stands).1
      | judging id now => exact ⟨(passes id stands.1).1, stands.2⟩
      | _ => exact stands.elim
  | acquiring id => exact (passes id stands).1
  | waiting id reader =>
      obtain ⟨maps, refuses, gate⟩ := stands
      obtain ⟨still, passes⟩ := passes id maps
      have refused := passes.refuses refuses
      unfold Crowd.wake
      dsimp only
      cases reader with
      | arriving => split <;> exact ⟨still, refused, trivial⟩
      | parked =>
          have shut : (crowd.state id).gateOpen = false := gate
          have heard := signals id maps
          rw [Entry.opensGate, shut] at heard
          split
          · next told =>
              have opened : (later.state id).gateOpen = true := by simpa using heard.mp told
              exact ⟨still, refused, opened⟩
          · next untold =>
              have closed : (later.state id).gateOpen = false := by simpa [untold] using heard
              exact ⟨still, refused, closed⟩
      | notified => split <;> exact ⟨still, refused, passes.gate gate⟩
      | late => exact gate.elim
      | returned => exact gate.elim
  | producing id =>
      obtain ⟨maps, held, count⟩ := stands
      obtain ⟨still, passes⟩ := passes id maps
      exact ⟨still, passes.hold held, (counts rfl).trans count⟩
  | committing id text =>
      obtain ⟨maps, held, count, made⟩ := stands
      obtain ⟨still, passes⟩ := passes id maps
      exact ⟨still, passes.hold held, (counts rfl).trans count, made⟩
  | releasing id ending => exact stands.elim
  | finished ending =>
      cases ending with
      | fetched result =>
          cases result with
          | produced text =>
              obtain ⟨made, id, maps, refuses, gate⟩ := stands
              obtain ⟨still, passes⟩ := passes id maps
              exact ⟨made, id, still, passes.refuses refuses, passes.gate gate⟩
          | cached text =>
              obtain ⟨offered, id, maps, refuses, gate⟩ := stands
              obtain ⟨still, passes⟩ := passes id maps
              exact ⟨offered, id, still, passes.refuses refuses, passes.gate gate⟩
          | uncached text => exact stands.elim
      | failed error => exact stands.elim
      | crashed message => exact stands.elim

/-- A visitor that has the lock holds the entry of its key. -/
theorem Stands.hold {fetch : Fetch} {phase : Fetch.Phase} (stands : rush.Stands crowd fetch phase)
    (holds : phase.isHolding = true) :
    ∃ id, crowd.lookup fetch.key = some id ∧
      (crowd.state id).hold = some ⟨fetch.caller, rush.now⟩ := by
  cases phase with
  | producing id => exact ⟨id, stands.1, stands.2.1⟩
  | committing id text => exact ⟨id, stands.1, stands.2.1⟩
  | _ => cases holds

/-- The stage of a key depends on its own visitors only. -/
theorem Stage.continues {entry : Entry} (stage : rush.Stage crowd key entry)
    (counts : later.rendered.count key = crowd.rendered.count key)
    (holding : ∀ fetch ∈ rush.visitors, fetch.key = key →
      (crowd.phase fetch).isHolding = true → (later.phase fetch).isHolding = true) :
    rush.Stage later key entry := by
  cases stage with
  | idle initial unrendered => exact .idle initial (counts.trans unrendered)
  | held initial lacks inside asks holds =>
      exact .held initial lacks inside asks (holding _ inside asks holds)
  | done lacks asked ends lasting rendered =>
      exact .done lacks asked ends lasting (counts.trans rendered)

/-- What a visitor's turn does to the cache, and the signal it gives. -/
structure Step (rush : Rush) (crowd : Crowd) (fetch : Fetch) (next : Fetch.Phase) (cache : Cache)
    (signal : Option EntryId) : Prop where
  others : ∀ key, key ≠ fetch.key → cache.store.lookup key = crowd.lookup key
  states : ∀ key id, key ≠ fetch.key → crowd.lookup key = some id →
    cache.heap.get id = crowd.state id
  holds : ∀ id, crowd.cache.heap.holds id = true → cache.heap.holds id = true
  place : ∃ id, cache.store.lookup fetch.key = some id ∧ cache.heap.holds id = true ∧
    ∀ key, key ≠ fetch.key → crowd.lookup key ≠ some id
  stage : ∀ id, cache.store.lookup fetch.key = some id →
    rush.Stage ((crowd.turnTo cache signal).enter fetch next) fetch.key (cache.heap.get id)
  mine : rush.Stands ((crowd.turnTo cache signal).enter fetch next) fetch next
  signals : ∀ key id, crowd.lookup key = some id →
    (signal = some id ↔ (crowd.state id).opensGate (cache.heap.get id) = true)
  passes : ∀ other ∈ rush.visitors, other ≠ fetch → other.key = fetch.key →
    ∀ id, crowd.lookup fetch.key = some id → cache.store.lookup fetch.key = some id ∧
      rush.Passes other (crowd.state id) (cache.heap.get id)
  books : rush.Books cache.store

/-- A turn that does no more than a step keeps what holds of the crowd. -/
theorem Fits.step (fits : rush.Fits crowd) {fetch : Fetch} (inside : fetch ∈ rush.visitors)
    {next : Fetch.Phase} {cache : Cache} {signal : Option EntryId}
    (step : rush.Step crowd fetch next cache signal) :
    rush.Fits ((crowd.turnTo cache signal).enter fetch next) := by
  obtain ⟨place, maps, there, alone⟩ := step.place
  exact {
    known := by
      intro key id known
      by_cases own : key = fetch.key
      · subst own
        obtain rfl := Option.some.inj (maps.symm.trans known)
        exact there
      · exact step.holds id (fits.known key id ((step.others key own).symm.trans known))
    injective := by
      intro key other id first second
      by_cases own : key = fetch.key
      · by_cases also : other = fetch.key
        · rw [own, also]
        · subst own
          obtain rfl := Option.some.inj (maps.symm.trans first)
          exact (alone other also ((step.others other also).symm.trans second)).elim
      · have one := (step.others key own).symm.trans first
        by_cases also : other = fetch.key
        · subst also
          obtain rfl := Option.some.inj (maps.symm.trans second)
          exact (alone key own one).elim
        · exact fits.injective key other id one ((step.others other also).symm.trans second)
    absent := by
      intro key missing
      by_cases own : key = fetch.key
      · subst own
        rw [show cache.store.lookup fetch.key = none from missing] at maps
        cases maps
      · exact fits.absent key ((step.others key own).symm.trans missing)
    fetched := by
      intro key id known missing
      by_cases own : key = fetch.key
      · subst own
        exact key_mem_keys inside
      · exact fits.fetched key id ((step.others key own).symm.trans known) missing
    stages := by
      intro key id known
      by_cases own : key = fetch.key
      · subst own
        exact step.stage id known
      · have before := (step.others key own).symm.trans known
        have stage := fits.stages key id before
        rw [← step.states key id own before] at stage
        refine stage.continues rfl fun other visits asks holds => ?_
        have apart : other ≠ fetch := by
          rintro rfl
          exact own asks.symm
        rw [Crowd.enter_of_ne _ apart]
        simpa [Crowd.turnTo] using holds
    stands := by
      intro other visits
      by_cases own : other = fetch
      · subst own
        rw [Crowd.enter_self]
        exact step.mine
      · rw [Crowd.enter_of_ne _ own]
        refine (fits.stands other visits).wake ?_ (step.signals other.key) fun _ => rfl
        intro id before
        by_cases same : other.key = fetch.key
        · rw [same] at before ⊢
          exact step.passes other visits own same id before
        · refine ⟨(step.others other.key same).trans before, ?_⟩
          show rush.Passes other (crowd.state id) (cache.heap.get id)
          rw [step.states other.key id same before]
          exact Passes.refl other _
    books := step.books }

/-- A turn that changes neither the cache nor who has a lock. -/
theorem Fits.enter (fits : rush.Fits crowd) {fetch : Fetch} {next : Fetch.Phase}
    (idle : (crowd.phase fetch).isHolding = false) (stands : rush.Stands crowd fetch next) :
    rush.Fits (crowd.enter fetch next) where
  known := fits.known
  injective := fits.injective
  absent := fits.absent
  fetched := fits.fetched
  stages key id maps := by
    refine (fits.stages key id maps).continues rfl fun other visits asks holds => ?_
    have apart : other ≠ fetch := by
      rintro rfl
      rw [idle] at holds
      cases holds
    rw [Crowd.enter_of_ne _ apart]
    exact holds
  stands other visits := by
    by_cases own : other = fetch
    · subst own
      rw [Crowd.enter_self]
      exact stands
    · rw [Crowd.enter_of_ne _ own]
      exact fits.stands other visits
  books := fits.books

/-- A new key is one more of the missing ones. -/
theorem Books.create {store : Store} (books : rush.Books store) {key : String}
    (asked : key ∈ rush.keys) (missing : rush.start.store.lookup key = none)
    (absent : store.lookup key = none) (id : EntryId) : rush.Books (store.create key id) := by
  have outside : key ∉ rush.added store := by simp [added, absent]
  have added : rush.added (store.create key id) = insert key (rush.added store) := by
    ext other
    simp only [Rush.added, Rush.missing, Finset.mem_filter, Finset.mem_insert, Store.lookup_create]
    by_cases same : other = key
    · simp [same, asked, missing]
    · simp [same]
  have grown : (store.create key id).size = store.size + 1 :=
    Segments.size_insert_of_absent _ absent id
  have card : (rush.added (store.create key id)).card = (rush.added store).card + 1 := by
    rw [added, Finset.card_insert_of_notMem outside]
  exact {
    ceiling := books.ceiling
    created := by
      rw [card, ← Nat.add_assoc, ← books.created]
      rfl
    size := by rw [card, ← Nat.add_assoc, ← books.size, grown]
    replaced := books.replaced
    evictions := books.evictions
    sweeps := books.sweeps
    lastSweep := books.lastSweep }

/-- A visitor that finds its key absent makes the entry. -/
theorem Step.created (fits : rush.Fits crowd) {fetch : Fetch} (inside : fetch ∈ rush.visitors)
    (absent : crowd.lookup fetch.key = none) :
    rush.Step crowd fetch (.acquiring crowd.cache.heap.next)
      ⟨crowd.cache.heap.add (Entry.fresh fetch.options.tag fetch.options.ttl
          crowd.cache.store.maxLockHold rush.now),
        crowd.cache.store.create fetch.key crowd.cache.heap.next⟩ none := by
  have new (key : String) (id : EntryId) (maps : crowd.lookup key = some id) :
      id ≠ crowd.cache.heap.next := Heap.ne_next_of_holds _ (fits.known key id maps)
  have maps : (crowd.cache.store.create fetch.key crowd.cache.heap.next).lookup fetch.key =
      some crowd.cache.heap.next := by rw [Store.lookup_create, if_pos rfl]
  obtain ⟨missing, unrendered⟩ := fits.absent fetch.key absent
  exact {
    others := by
      intro key other
      show (crowd.cache.store.create _ _).lookup key = crowd.cache.store.lookup key
      rw [Store.lookup_create, if_neg other]
    states := fun key id _ before => Heap.get_add_of_ne (new key id before) _
    holds := fun id before => (Heap.holds_add_iff _ _ _).mpr (.inl before)
    place := ⟨crowd.cache.heap.next, maps, (Heap.holds_add_iff _ _ _).mpr (.inr rfl),
      fun key _ before => new key _ before rfl⟩
    stage := by
      intro id known
      obtain rfl := Option.some.inj (maps.symm.trans known)
      rw [Heap.get_add_next, rush.common fetch inside, fits.books.ceiling]
      refine .idle (.created ?_ (rush.renewing fetch inside)) unrendered
      exact (Cache.stored?_eq_none_iff _ _).mpr missing
    mine := maps
    signals := by
      intro key id before
      rw [Heap.get_add_of_ne (new key id before), Crowd.state, Entry.opensGate_self]
      simp
    passes := by
      intro other _ _ _ id before
      rw [absent] at before
      cases before
    books := fits.books.create (key_mem_keys inside) missing absent _ }

/-- A turn that changes the entry of its key. -/
theorem Step.ofEntry (fits : rush.Fits crowd) {fetch : Fetch} {id : EntryId}
    (maps : crowd.lookup fetch.key = some id) {next : Fetch.Phase} {entry : Entry}
    {signal : Option EntryId}
    (stage : rush.Stage ((crowd.turnTo (crowd.cache.setEntry id entry) signal).enter fetch next)
      fetch.key entry)
    (mine : rush.Stands ((crowd.turnTo (crowd.cache.setEntry id entry) signal).enter fetch next)
      fetch next)
    (signals : signal = if (crowd.state id).opensGate entry then some id else none)
    (passes : ∀ other ∈ rush.visitors, other ≠ fetch → other.key = fetch.key →
      rush.Passes other (crowd.state id) entry) :
    rush.Step crowd fetch next (crowd.cache.setEntry id entry) signal := by
  have known := fits.known fetch.key id maps
  have apart (key : String) (other : EntryId) (own : key ≠ fetch.key)
      (before : crowd.lookup key = some other) : other ≠ id := by
    rintro rfl
    exact own (fits.injective key fetch.key other before maps)
  have state : (crowd.cache.setEntry id entry).heap.get id = entry := Heap.get_set_self known entry
  exact {
    others := fun key _ => rfl
    states := fun key other own before => Heap.get_set_of_ne (apart key other own before) entry
    holds := fun other before => by simpa [Cache.setEntry] using before
    place := ⟨id, maps, by simpa [Cache.setEntry] using known,
      fun key own before => apart key id own before rfl⟩
    stage := by
      intro other after
      obtain rfl := Option.some.inj (maps.symm.trans after)
      rw [state]
      exact stage
    mine := mine
    signals := by
      intro key other before
      by_cases same : other = id
      · subst same
        rw [state, signals]
        simp
      · have kept : (crowd.cache.setEntry id entry).heap.get other = crowd.state other :=
          Heap.get_set_of_ne same entry
        rw [kept, Entry.opensGate_self, signals]
        simp [Ne.symm same]
    passes := by
      intro other visits own same otherId before
      obtain rfl := Option.some.inj (maps.symm.trans before)
      rw [state]
      exact ⟨maps, passes other visits own same⟩
    books := fits.books }

/-- A visitor gets the lock of an entry whose content is lacking. -/
theorem Step.granted (fits : rush.Fits crowd) {fetch : Fetch} (inside : fetch ∈ rush.visitors)
    {id : EntryId} (maps : crowd.lookup fetch.key = some id)
    (unlocked : (crowd.state id).hold = none)
    (stale : (crowd.state id).isStale rush.tag rush.now = true) :
    rush.Step crowd fetch (.producing id)
      (crowd.cache.setEntry id { crowd.state id with hold := some ⟨fetch.caller, rush.now⟩ })
      none := by
  obtain ⟨initial, lacks, unrendered⟩ :=
    (fits.stages fetch.key id maps).of_grant unlocked stale
  have known := fits.known fetch.key id maps
  refine .ofEntry fits maps ?_ ?_ (by simp [Entry.opensGate]) ?_
  · exact .held initial lacks inside rfl (by rw [Crowd.enter_self]; rfl)
  · refine ⟨maps, ?_, unrendered⟩
    exact congrArg Entry.hold (Heap.get_set_self known _)
  · intro other _ _ _
    refine ⟨fun _ => .inl rfl, fun isOpen => isOpen, fun held => ?_⟩
    rw [unlocked] at held
    cases held

/-- The holder commits its content, and its key is done. -/
theorem Step.committed (fits : rush.Fits crowd) {fetch : Fetch} (inside : fetch ∈ rush.visitors)
    {id : EntryId} {text : String} (stands : rush.Stands crowd fetch (.committing id text)) :
    rush.Step crowd fetch (.finished (.fetched (.produced text)))
      (crowd.cache.setEntry id { crowd.state id with
        content := some text, tag := fetch.options.tag, updated := rush.now, hold := none,
        gateOpen := true }) (if (crowd.state id).gateOpen = false then some id else none) := by
  obtain ⟨maps, held, rendered, rfl⟩ := stands
  have known := fits.known fetch.key id maps
  obtain ⟨-, -, lacks, base, initial, state⟩ :=
    (fits.stages fetch.key id maps).of_hold inside held
  have lasting : (crowd.state id).ttl ≠ .zero := by
    rw [state]
    exact initial.lasting
  have ends : rush.Ends fetch.key { crowd.state id with
      content := some (rush.produce fetch.key), tag := fetch.options.tag, updated := rush.now,
      hold := none, gateOpen := true } := by
    refine ⟨rfl, ?_⟩
    rw [if_pos lacks, rush.common fetch inside]
    exact ⟨rfl, rfl, rfl, rfl⟩
  have fresh := isStale_of_ends lacks ends lasting
  refine .ofEntry fits maps ?_ ?_ (by simp [Entry.opensGate]) ?_
  · exact .done lacks (key_mem_keys inside) ends lasting rendered
  · refine ⟨rfl, id, maps, ?_⟩
    have after := Heap.get_set_self known { crowd.state id with
      content := some (rush.produce fetch.key), tag := fetch.options.tag, updated := rush.now,
      hold := none, gateOpen := true }
    show rush.Refuses ((crowd.cache.heap.set id _).get id) ∧
      ((crowd.cache.heap.set id _).get id).gateOpen = true
    rw [after]
    exact ⟨.inr fresh, rfl⟩
  · intro other visits apart _
    refine ⟨fun _ => .inr fresh, fun _ => rfl, fun same => ?_⟩
    rw [held] at same
    have caller : fetch.caller = other.caller := congrArg Hold.owner (Option.some.inj same)
    exact (apart (eq_of_caller_eq visits inside caller.symm)).elim

/-- The holder's producer makes the content. -/
theorem Fits.render (fits : rush.Fits crowd) {fetch : Fetch} (inside : fetch ∈ rush.visitors)
    {id : EntryId} (stands : rush.Stands crowd fetch (.producing id)) :
    rush.Fits { crowd.enter fetch (.committing id (rush.produce fetch.key)) with
      rendered := crowd.rendered ++ [fetch.key] } := by
  obtain ⟨maps, held, unrendered⟩ := stands
  have stage := fits.stages fetch.key id maps
  obtain ⟨-, -, lacks, base, initial, state⟩ := stage.of_hold inside held
  have counts (key : String) (apart : key ≠ fetch.key) :
      (crowd.rendered ++ [fetch.key]).count key = crowd.rendered.count key := by
    simp [List.count_append, apart.symm]
  exact {
    known := fits.known
    injective := fits.injective
    absent := by
      intro key absent
      obtain ⟨missing, count⟩ := fits.absent key absent
      have apart : key ≠ fetch.key := by
        rintro rfl
        rw [show crowd.lookup fetch.key = none from absent] at maps
        cases maps
      exact ⟨missing, (counts key apart).trans count⟩
    fetched := fits.fetched
    stages := by
      intro key other known
      by_cases own : key = fetch.key
      · subst own
        obtain rfl := Option.some.inj (maps.symm.trans known)
        show rush.Stage _ fetch.key (crowd.state id)
        rw [state]
        exact .held initial lacks inside rfl (by rw [Crowd.enter_self]; rfl)
      · refine (fits.stages key other known).continues (counts key own) ?_
        intro visitor visits asks holds
        have apart : visitor ≠ fetch := by
          rintro rfl
          exact own asks.symm
        rw [Crowd.enter_of_ne _ apart]
        exact holds
    stands := by
      intro other visits
      by_cases apart : other = fetch
      · subst apart
        rw [Crowd.enter_self]
        refine ⟨maps, held, ?_, rfl⟩
        show (crowd.rendered ++ [other.key]).count other.key = 1
        rw [List.count_append, unrendered, List.count_singleton_self]
      · rw [Crowd.enter_of_ne _ apart]
        have stood := fits.stands other visits
        let later : Crowd := { crowd.enter fetch (.committing id (rush.produce fetch.key)) with
          rendered := crowd.rendered ++ [fetch.key] }
        have woken : rush.Stands later other
            (Crowd.wake none (crowd.phase other)) := by
          have still (id : EntryId) : (crowd.state id).opensGate (later.state id) = false :=
            Entry.opensGate_self _
          refine stood.wake (fun id maps => ⟨maps, Passes.refl other _⟩)
            (fun id _ => by simp [still id]) fun holds => ?_
          refine counts other.key fun same => ?_
          obtain ⟨place, there, own⟩ := stood.hold holds
          rw [same] at there
          obtain rfl := Option.some.inj (maps.symm.trans there)
          rw [held] at own
          have caller : fetch.caller = other.caller := congrArg Hold.owner (Option.some.inj own)
          exact apart (eq_of_caller_eq visits inside caller.symm)
        rwa [Crowd.wake_none] at woken
    books := fits.books }

end Rush

end SingleFlight
