import SingleFlight.Proofs.Crowd.Progress
import SingleFlight.Proofs.Traffic.Gates

namespace SingleFlight

namespace Rush
variable {rush : Rush} {crowd : Crowd} {fetch : Fetch} {key : String} {entry : Entry}

/-- A visitor that has the lock can make a step. -/
theorem isBusy_of_isHolding {phase : Fetch.Phase} (holds : phase.isHolding = true) :
    phase.isBusy = true := by
  cases phase <;> first | rfl | cases holds

/-- When the rush is over an entry refuses its visitors: kept if fresh, else done. -/
theorem Stage.settled (stage : rush.Stage crowd key entry) (settled : rush.Settled crowd)
    (refuses : rush.Refuses entry) :
    rush.Ends key entry ∧ (rush.start.lacks key rush.tag rush.now = false →
        rush.start.stored? key = some entry) ∧
      crowd.rendered.count key = if rush.start.lacks key rush.tag rush.now then 1 else 0 := by
  cases stage with
  | idle initial unrendered =>
      have unlocked := initial.unlocked
      have fresh : entry.isStale rush.tag rush.now = false := by
        refine refuses.resolve_left ?_
        simp [Entry.isLocked, unlocked]
      have lacks : rush.start.lacks key rush.tag rush.now = false :=
        initial.isStale_eq.symm.trans fresh
      have same : rush.start.stored? key = some entry := by
        cases initial with
        | found there => exact there
        | created absent => simp [Cache.lacks, absent] at lacks
      refine ⟨⟨unlocked, ?_⟩, fun _ => same, by rw [unrendered, lacks]; rfl⟩
      rw [lacks]
      exact same
  | @held base holder initial lacks inside asks holds =>
      have busy := isBusy_of_isHolding holds
      rw [settled holder inside] at busy
      cases busy
  | done lacks _ ends _ rendered =>
      refine ⟨ends, fun fresh => ?_, by rw [rendered, lacks]; rfl⟩
      rw [lacks] at fresh
      cases fresh

/-- A key that nobody asks for keeps its entry. -/
theorem Stage.of_unasked (stage : rush.Stage crowd key entry) (unasked : key ∉ rush.keys) :
    rush.Initial key entry ∧ crowd.rendered.count key = 0 := by
  cases stage with
  | idle initial unrendered => exact ⟨initial, unrendered⟩
  | held _ _ inside asks => exact (unasked (asks ▸ key_mem_keys inside)).elim
  | done _ asked => exact (unasked asked).elim

/-- The entry of a key at the start hides a fresh content behind its gate. -/
def IsMute (rush : Rush) (key : String) : Prop :=
  ∃ entry, rush.start.stored? key = some entry ∧ entry.isMute rush.tag rush.now = true

/-- What a visitor that has returned has seen of the entry of its key. -/
theorem Stands.returned {ending : Ending} (stands : rush.Stands crowd fetch (.finished ending)) :
    ∃ result id, ending = .fetched result ∧ rush.Returns fetch result ∧
      crowd.lookup fetch.key = some id ∧ rush.Refuses (crowd.state id) ∧
      (crowd.state id).gateOpen = true := by
  cases ending with
  | fetched result =>
      cases result with
      | produced text =>
          obtain ⟨rfl, id, maps, refuses, isOpen⟩ := stands
          exact ⟨_, id, rfl, .inl rfl, maps, refuses, isOpen⟩
      | cached text =>
          obtain ⟨offers, id, maps, refuses, isOpen⟩ := stands
          exact ⟨_, id, rfl, .inr ⟨text, rfl, offers⟩, maps, refuses, isOpen⟩
      | uncached text => exact stands.elim
  | failed error => exact stands.elim
  | crashed message => exact stands.elim

/-- Unless its key is mute, no visitor stays in the wait. -/
theorem Fits.returned (fits : rush.Fits crowd) (settled : rush.Settled crowd)
    (inside : fetch ∈ rush.visitors) (heard : ¬ rush.IsMute fetch.key) :
    ∃ result id, crowd.phase fetch = .finished (.fetched result) ∧ rush.Returns fetch result ∧
      crowd.lookup fetch.key = some id ∧ rush.Refuses (crowd.state id) := by
  have stands := fits.stands fetch inside
  have idle := settled fetch inside
  cases here : crowd.phase fetch with
  | finished ending =>
      rw [here] at stands
      obtain ⟨result, id, rfl, returns, maps, refuses, -⟩ := stands.returned
      exact ⟨result, id, rfl, returns, maps, refuses⟩
  | waiting id reader =>
      cases reader with
      | parked =>
          rw [here] at stands
          obtain ⟨maps, refuses, shut⟩ := stands
          obtain ⟨ends, fresh, -⟩ := (fits.stages fetch.key id maps).settled settled refuses
          exfalso
          by_cases lacks : rush.start.lacks fetch.key rush.tag rush.now = true
          · have made := ends.2
            rw [if_pos lacks, shut] at made
            exact Bool.false_ne_true made.2.2.2
          · have there := fresh (by simpa using lacks)
            refine heard ⟨crowd.state id, there, ?_⟩
            have kept : (crowd.state id).isStale rush.tag rush.now = false := by
              simpa [Cache.lacks, there] using lacks
            simp [Entry.isMute, shut, kept]
      | _ => rw [here] at idle; cases idle
  | _ => rw [here] at idle; cases idle

/-- A rush that is over has ended as it is to, unless a key is mute. -/
theorem Fits.outcome (fits : rush.Fits crowd) (settled : rush.Settled crowd)
    (heard : ∀ key ∈ rush.keys, ¬ rush.IsMute key) : rush.Outcome crowd := by
  have returned (fetch : Fetch) (inside : fetch ∈ rush.visitors) :=
    fits.returned settled inside (heard fetch.key (key_mem_keys inside))
  have visited (key : String) (asked : key ∈ rush.keys) :
      ∃ id, crowd.lookup key = some id ∧ rush.Refuses (crowd.state id) := by
    obtain ⟨fetch, inside, rfl⟩ : ∃ fetch ∈ rush.visitors, fetch.key = key := by
      simpa [keys] using asked
    obtain ⟨-, id, -, -, maps, refuses⟩ := returned fetch inside
    exact ⟨id, maps, refuses⟩
  have complete : rush.added crowd.cache.store = rush.missing := by
    refine Finset.filter_true_of_mem fun key missing absent => ?_
    obtain ⟨id, maps, -⟩ := visited key (Finset.mem_filter.mp missing).1
    rw [show crowd.lookup key = none from absent] at maps
    cases maps
  exact {
    returned := by
      intro fetch inside
      obtain ⟨result, -, ends, returns, -⟩ := returned fetch inside
      exact ⟨result, ends, returns⟩
    rendered := by
      intro key
      by_cases asked : key ∈ rush.keys
      · obtain ⟨id, maps, refuses⟩ := visited key asked
        have stage := (fits.stages key id maps).settled settled refuses
        simpa [asked] using stage.2.2
      · rw [if_neg (fun both => asked both.1)]
        cases maps : crowd.lookup key with
        | none => exact (fits.absent key maps).2
        | some id => exact ((fits.stages key id maps).of_unasked asked).2
    entries := by
      intro key asked
      obtain ⟨id, maps, refuses⟩ := visited key asked
      have stage := (fits.stages key id maps).settled settled refuses
      exact ⟨crowd.state id, Option.map_eq_some_iff.mpr ⟨id, maps, rfl⟩, stage.1⟩
    others := by
      intro key unasked
      cases maps : crowd.lookup key with
      | none =>
          rw [(Cache.stored?_eq_none_iff _ key).mpr maps]
          exact ((Cache.stored?_eq_none_iff _ key).mpr (fits.absent key maps).1).symm
      | some id =>
          have there : crowd.cache.stored? key = some (crowd.state id) :=
            Option.map_eq_some_iff.mpr ⟨id, maps, rfl⟩
          rw [there]
          have initial := ((fits.stages key id maps).of_unasked unasked).1
          generalize crowd.state id = entry at initial
          cases initial with
          | found same => exact same.symm
          | created absent =>
              have missing := (Cache.stored?_eq_none_iff _ key).mp absent
              exact (unasked (fits.fetched key id maps missing)).elim
    created := by rw [← complete]; exact fits.books.created
    size := by rw [← complete]; exact fits.books.size
    counters := ⟨fits.books.replaced, fits.books.evictions, fits.books.sweeps,
      fits.books.lastSweep⟩ }

/-- In a steady cache no key is mute: content stands behind no closed gate. -/
theorem not_isMute_of_steady (steady : rush.start.Steady) (key : String) : ¬ rush.IsMute key := by
  rintro ⟨entry, there, mute⟩
  obtain ⟨shut, fresh⟩ : entry.gateOpen = false ∧ entry.isStale rush.tag rush.now = false := by
    simpa [Entry.isMute] using mute
  obtain ⟨id, -, rfl⟩ := Option.map_eq_some_iff.mp there
  have empty : (rush.start.heap.get id).content = none := by
    have tidy := steady.isTidy id
    rw [Entry.IsTidy, shut] at tidy
    simpa using tidy.symm
  rw [Entry.isStale, empty] at fresh
  cases fresh

/-- In a steady cache every schedule is finite and ends as it is to. -/
theorem protected_of_steady (rush : Rush) (steady : rush.start.Steady) :
    (∀ turns, rush.Busy rush.gathered turns → turns.length ≤ 10 * rush.visitors.length) ∧
      ∀ turns, (∀ fetch ∈ turns, fetch ∈ rush.visitors) →
        rush.Settled (rush.play rush.gathered turns) →
        rush.Outcome (rush.play rush.gathered turns) := by
  constructor
  · intro turns busy
    rw [← effort_gathered]
    exact rush.fits_gathered.length_le_effort busy
  · intro turns visitors settled
    have heard (key : String) (_ : key ∈ rush.keys) := rush.not_isMute_of_steady steady key
    exact (rush.fits_gathered.play visitors).outcome settled heard

/-- Every schedule of a rush on a cache that traffic has left is finite and ends as it is to. -/
theorem stampede_protected (rush : Rush) (clock : Clock) (readable : clock.now = .ok rush.now)
    (reached : rush.start.ReachedOn clock) :
    (∀ turns, rush.Busy rush.gathered turns → turns.length ≤ 10 * rush.visitors.length) ∧
      ∀ turns, (∀ fetch ∈ turns, fetch ∈ rush.visitors) →
        rush.Settled (rush.play rush.gathered turns) →
        rush.Outcome (rush.play rush.gathered turns) :=
  rush.protected_of_steady (reached.steady readable)

/-- Two threads that ask for the first content of a key. -/
def first : Rush where
  start := (Traffic.opened (fun _ => 0) 1 Nat.one_pos ⟨9⟩).cache
  visitors := [⟨⟨1⟩, "k", .standard ⟨5⟩⟩, ⟨⟨2⟩, "k", .standard ⟨5⟩⟩]
  tag := none
  now := ⟨0⟩
  produce := id
  reachable := ⟨_, 1, Nat.one_pos, ⟨9⟩, by decide, [], rfl⟩
  unlocked := by simp [(Cache.stored?_eq_none_iff _ _).mpr (Traffic.lookup_opened _ _ _ _ _)]
  lasting := by simp [(Cache.stored?_eq_none_iff _ _).mpr (Traffic.lookup_opened _ _ _ _ _)]
  distinct := by decide
  unforced := by simp [FetchOptions.standard]
  common := by simp [FetchOptions.standard, FetchOptions.tag, Tag.normalized]
  renewing := by simp [FetchOptions.standard, Duration.zero]

/-- The second visitor waits while the first makes the content, and wakes at its commit. -/
def firstTurns : List Fetch :=
  let maker : Fetch := ⟨⟨1⟩, "k", .standard ⟨5⟩⟩
  let reader : Fetch := ⟨⟨2⟩, "k", .standard ⟨5⟩⟩
  [maker, maker, reader, reader, reader, reader, reader, maker, maker, reader]

/-- Both threads have the content that one of them made. -/
theorem outcome_of_first : first.start.ReachedOn ⟨.zero, ⟨0⟩⟩ ∧
    first.Settled (first.play first.gathered firstTurns) ∧
    first.Outcome (first.play first.gathered firstTurns) := by
  have reached : first.start.ReachedOn ⟨.zero, ⟨0⟩⟩ :=
    ⟨_, 1, Nat.one_pos, ⟨9⟩, by decide, [], by simp, rfl⟩
  have readable : (⟨.zero, ⟨0⟩⟩ : Clock).now = .ok first.now := by decide
  have settled : first.Settled (first.play first.gathered firstTurns) := by
    unfold Settled
    decide +kernel
  exact ⟨reached, settled,
    (stampede_protected first _ readable reached).2 firstTurns (by decide) settled⟩

end Rush

end SingleFlight
