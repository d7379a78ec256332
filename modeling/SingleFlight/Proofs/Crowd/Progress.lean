import Mathlib.Algebra.Order.BigOperators.Group.List
import Mathlib.Algebra.Order.Group.Nat
import Mathlib.Algebra.GroupWithZero.Nat
import SingleFlight.Proofs.Crowd.Turns

namespace SingleFlight

/-- The steps a visitor has left at most; one in the wait is still to be woken. -/
def Fetch.Phase.effort : Fetch.Phase → Nat
  | .looking inner => Lookup.remaining inner + 4
  | .acquiring _ => 4
  | .waiting _ .arriving => 3
  | .waiting _ .parked => 2
  | .waiting _ .notified | .waiting _ .late | .waiting _ (.returned _) => 1
  | .producing _ => 2
  | .committing _ _ | .releasing _ _ => 1
  | .finished _ => 0

/-- Waking up brings a visitor nearer to its end. -/
theorem Crowd.effort_wake_le (signal : Option EntryId) (phase : Fetch.Phase) :
    (wake signal phase).effort ≤ phase.effort := by
  unfold wake
  split
  · next entry reader =>
      split
      · cases reader <;> simp [Fetch.notify, Reader.notify, Fetch.Phase.effort]
      · exact Nat.le_refl _
  · exact Nat.le_refl _

namespace Rush
variable {rush : Rush} {crowd : Crowd} {fetch : Fetch}

/-- Outside its producer a visitor's turn is a step of its fetch. -/
theorem turn_eq_step (crowd : Crowd) (fetch : Fetch) {phase : Fetch.Phase}
    (stands : crowd.phase fetch = phase) (waits : ∀ id, phase ≠ .producing id) :
    rush.turn crowd fetch = (crowd.turnTo (fetch.step phase rush.moment crowd.cache).2.1
      (fetch.signal? phase rush.moment crowd.cache)).enter fetch
      (fetch.step phase rush.moment crowd.cache).1 := by
  subst stands
  unfold turn
  split
  · next id producing => exact (waits id producing).elim
  · rfl

theorem turn_eq_production (crowd : Crowd) (fetch : Fetch) {id : EntryId}
    (stands : crowd.phase fetch = .producing id) :
    rush.turn crowd fetch = { crowd.enter fetch (.committing id (rush.produce fetch.key)) with
      rendered := crowd.rendered ++ [fetch.key] } := by
  simp only [turn, stands]
  rfl

/-- A turn of another visitor wakes a visitor at most. -/
theorem phase_turn_of_ne (crowd : Crowd) {other : Fetch} (apart : other ≠ fetch) :
    ∃ signal, (rush.turn crowd fetch).phase other = Crowd.wake signal (crowd.phase other) := by
  by_cases producing : ∃ id, crowd.phase fetch = .producing id
  · obtain ⟨id, stands⟩ := producing
    refine ⟨none, ?_⟩
    rw [turn_eq_production crowd fetch stands]
    simp [Crowd.enter_of_ne _ apart]
  · have waits (id : EntryId) : crowd.phase fetch ≠ .producing id := fun same => producing ⟨id, same⟩
    refine ⟨fetch.signal? (crowd.phase fetch) rush.moment crowd.cache, ?_⟩
    rw [turn_eq_step crowd fetch rfl waits, Crowd.enter_of_ne _ apart]
    rfl

/-- A turn keeps what holds of the crowd and brings its visitor nearer to the end. -/
structure Advances (rush : Rush) (crowd : Crowd) (fetch : Fetch) : Prop where
  fits : rush.Fits (rush.turn crowd fetch)
  effort : (crowd.phase fetch).isBusy = true →
    ((rush.turn crowd fetch).phase fetch).effort < (crowd.phase fetch).effort

/-- A turn that changes neither the cache nor who has a lock. -/
theorem Advances.enter (fits : rush.Fits crowd) {phase next : Fetch.Phase}
    (here : crowd.phase fetch = phase) (idle : phase.isHolding = false)
    (turned : rush.turn crowd fetch = crowd.enter fetch next)
    (stands : rush.Stands crowd fetch next)
    (nearer : phase.isBusy = true → next.effort < phase.effort) : rush.Advances crowd fetch where
  fits := by
    rw [turned]
    exact fits.enter (by rw [here]; exact idle) stands
  effort := by
    rw [turned, Crowd.enter_self, here]
    exact nearer

/-- A turn that changes the cache. -/
theorem Advances.step (fits : rush.Fits crowd) (inside : fetch ∈ rush.visitors)
    {phase next : Fetch.Phase} {cache : Cache} {signal : Option EntryId}
    (here : crowd.phase fetch = phase)
    (turned : rush.turn crowd fetch = (crowd.turnTo cache signal).enter fetch next)
    (step : rush.Step crowd fetch next cache signal) (nearer : next.effort < phase.effort) :
    rush.Advances crowd fetch where
  fits := by
    rw [turned]
    exact fits.step inside step
  effort := by
    rw [turned, Crowd.enter_self, here]
    exact fun _ => nearer

/-- A lookup finds the entry of its key, or makes it. -/
theorem Fits.finding (fits : rush.Fits crowd) (inside : fetch ∈ rush.visitors)
    (here : crowd.phase fetch = .looking .finding) : rush.Advances crowd fetch := by
  have turned := rush.turn_eq_step crowd fetch here (by simp)
  cases maps : crowd.lookup fetch.key with
  | some id =>
      rw [Crowd.lookup] at maps
      simp only [Fetch.step, Fetch.signal?, Lookup.step, Lookup.find, Fetch.lookup, maps,
        Fetch.afterLookup, Crowd.turnTo_self] at turned
      exact .enter fits here rfl turned maps fun _ => by simp [Fetch.Phase.effort, Lookup.remaining]
  | none =>
      have absent := maps
      rw [Crowd.lookup] at maps
      simp only [Fetch.step, Fetch.signal?, Lookup.step, Lookup.find, Fetch.lookup, maps,
        Fetch.afterLookup, Rush.moment] at turned
      exact .step fits inside here turned (Step.created fits inside absent)
        (by simp [Fetch.Phase.effort, Lookup.remaining])

/-- A lookup keeps the entry it has found: its lock is not abandoned. -/
theorem Fits.judging (fits : rush.Fits crowd) {id : EntryId} {now : Instant}
    (here : crowd.phase fetch = .looking (.judging id now))
    (stands : rush.Stands crowd fetch (.looking (.judging id now))) :
    rush.Advances crowd fetch := by
  obtain ⟨maps, rfl⟩ := stands
  have kept := (fits.stages fetch.key id maps).not_isAbandoned
  have turned := rush.turn_eq_step crowd fetch here (by simp)
  rw [Crowd.state] at kept
  simp only [Fetch.step, Fetch.signal?, Lookup.step, kept, Fetch.afterLookup, Bool.false_eq_true,
    if_false, Crowd.turnTo_self] at turned
  exact .enter fits here rfl turned maps fun _ => by simp [Fetch.Phase.effort, Lookup.remaining]

/-- A visitor gets the lock if it is free and the content stale; else it goes to the gate. -/
theorem Fits.acquiring (fits : rush.Fits crowd) (inside : fetch ∈ rush.visitors) {id : EntryId}
    (here : crowd.phase fetch = .acquiring id)
    (stands : rush.Stands crowd fetch (.acquiring id)) : rush.Advances crowd fetch := by
  have maps : crowd.lookup fetch.key = some id := stands
  have turned := rush.turn_eq_step crowd fetch here (by simp)
  have request : fetch.options.request = .ifStale rush.tag := by
    simp [FetchOptions.request, rush.unforced fetch inside, rush.common fetch inside]
  have same : crowd.cache.setEntry id (crowd.state id) = crowd.cache := by
    simp [Cache.setEntry, Crowd.state]
  have refused (refuses : rush.Refuses (crowd.state id))
      (turned : rush.turn crowd fetch = crowd.enter fetch (.waiting id .arriving)) :
      rush.Advances crowd fetch :=
    .enter fits here rfl turned ⟨maps, refuses, trivial⟩ fun _ => by simp [Fetch.Phase.effort]
  cases held : (crowd.state id).hold with
  | some hold =>
      have apart : hold.owner ≠ fetch.caller := by
        intro own
        have mine : (crowd.state id).hold = some ⟨fetch.caller, hold.since⟩ := by rw [held, ← own]
        have holds := ((fits.stages fetch.key id maps).of_hold inside mine).2.1
        rw [here] at holds
        cases holds
      refine refused (.inl (by simp [Entry.isLocked, held])) (turned.trans ?_)
      rw [Crowd.state] at held same
      simp [Fetch.step, Fetch.signal?, Fetch.acquire, Entry.acquire, held, apart, Acquisition.held,
        same]
  | none =>
      by_cases stale : (crowd.state id).isStale rush.tag rush.now = true
      · have granted := Step.granted fits inside maps held stale
        refine .step fits inside here (turned.trans ?_) granted (by simp [Fetch.Phase.effort])
        rw [Crowd.state] at held stale
        simp [Fetch.step, Fetch.signal?, Fetch.acquire, Entry.acquire, held, request, Entry.grants,
          stale, Acquisition.held, Rush.moment, Crowd.state]
      · refine refused (.inr (by simpa using stale)) (turned.trans ?_)
        rw [Crowd.state] at held stale same
        simp [Fetch.step, Fetch.signal?, Fetch.acquire, Entry.acquire, held, request, Entry.grants,
          stale, Acquisition.held, Rush.moment, same]

/-- A visitor that looks at an open gate returns with the content. -/
theorem Fits.served (fits : rush.Fits crowd) {id : EntryId} {reader : Reader}
    (here : crowd.phase fetch = .waiting id reader)
    (stands : rush.Stands crowd fetch (.waiting id reader))
    (isOpen : (crowd.state id).gateOpen = true)
    (looks : reader = .arriving ∨ reader = .notified) : rush.Advances crowd fetch := by
  obtain ⟨maps, refuses, -⟩ := stands
  obtain ⟨text, content, offers⟩ := (fits.stages fetch.key id maps).serves isOpen
  have turned : rush.turn crowd fetch =
      crowd.enter fetch (.finished (.fetched (.cached text))) := by
    rw [rush.turn_eq_step crowd fetch here (by simp)]
    rw [Crowd.state] at isOpen content
    rcases looks with rfl | rfl <;>
      simp [Fetch.step, Fetch.signal?, Reader.look, isOpen, Reader.conclude, Entry.served, content,
        Fetch.afterLook]
  refine .enter fits here rfl turned ⟨offers, id, maps, refuses, isOpen⟩ fun _ => ?_
  rcases looks with rfl | rfl <;> simp [Fetch.Phase.effort]

/-- A visitor at the gate returns, or enters the wait, or stays in it. -/
theorem Fits.waiting (fits : rush.Fits crowd) {id : EntryId} {reader : Reader}
    (here : crowd.phase fetch = .waiting id reader)
    (stands : rush.Stands crowd fetch (.waiting id reader)) : rush.Advances crowd fetch := by
  have step := rush.turn_eq_step crowd fetch here (by simp)
  have ⟨maps, refuses, gate⟩ := stands
  cases reader with
  | arriving =>
      by_cases isOpen : (crowd.state id).gateOpen = true
      · exact fits.served here stands isOpen (.inl rfl)
      · have shut : (crowd.state id).gateOpen = false := by simpa using isOpen
        have turned : rush.turn crowd fetch = crowd.enter fetch (.waiting id .parked) := by
          rw [step]
          rw [Crowd.state] at isOpen
          simp [Fetch.step, Fetch.signal?, Reader.look, isOpen, Fetch.afterLook]
        exact .enter fits here rfl turned ⟨maps, refuses, shut⟩ fun _ => by
          simp [Fetch.Phase.effort]
  | notified => exact fits.served here stands gate (.inr rfl)
  | parked =>
      have turned : rush.turn crowd fetch = crowd.enter fetch (.waiting id .parked) := by
        rw [step]
        simp [Fetch.step, Fetch.signal?, Reader.look, Fetch.afterLook]
      exact .enter fits here rfl turned ⟨maps, refuses, gate⟩ fun busy => by cases busy
  | late => exact gate.elim
  | returned => exact gate.elim

/-- The holder commits what its producer has made. -/
theorem Fits.committing (fits : rush.Fits crowd) (inside : fetch ∈ rush.visitors) {id : EntryId}
    {text : String} (here : crowd.phase fetch = .committing id text)
    (stands : rush.Stands crowd fetch (.committing id text)) : rush.Advances crowd fetch := by
  have turned := rush.turn_eq_step crowd fetch here (by simp)
  have committed := Step.committed fits inside stands
  obtain ⟨-, held, -⟩ := stands
  refine .step fits inside here (turned.trans ?_) committed (by simp [Fetch.Phase.effort])
  rw [Crowd.state] at held
  have told : fetch.signal? (.committing id text) rush.moment crowd.cache =
      if (crowd.state id).gateOpen = false then some id else none := by
    rw [Crowd.state]
    cases gate : (crowd.cache.heap.get id).gateOpen <;>
      simp [Fetch.signal?, Entry.signals_commit, Entry.commit_eq, Entry.opensGate, Entry.isHeldBy,
        held, gate, Rush.moment]
  rw [told]
  simp [Fetch.step, Fetch.commit, Guard.commit, Entry.commit_eq, Entry.isHeldBy, held, Rush.moment,
    Crowd.state, Cache.setEntry]

/-- Every turn of a visitor advances it. -/
theorem Fits.turn (fits : rush.Fits crowd) (inside : fetch ∈ rush.visitors) :
    rush.Advances crowd fetch := by
  have stands := fits.stands fetch inside
  cases here : crowd.phase fetch with
  | looking inner =>
      rw [here] at stands
      cases inner with
      | finding => exact fits.finding inside here
      | timing id =>
          have turned := rush.turn_eq_step crowd fetch here (by simp)
          simp only [Fetch.step, Fetch.signal?, Lookup.step, Rush.moment, Fetch.afterLookup,
            Crowd.turnTo_self] at turned
          exact .enter fits here rfl turned ⟨stands, rfl⟩ fun _ => by
            simp [Fetch.Phase.effort, Lookup.remaining]
      | judging id now => exact fits.judging here stands
      | _ => exact stands.elim
  | acquiring id => exact fits.acquiring inside here (here ▸ stands)
  | waiting id reader => exact fits.waiting here (here ▸ stands)
  | producing id =>
      rw [here] at stands
      have turned := rush.turn_eq_production crowd fetch here
      refine ⟨by rw [turned]; exact fits.render inside stands, fun _ => ?_⟩
      rw [turned, here]
      simp [Crowd.enter, Fetch.Phase.effort]
  | committing id text => exact fits.committing inside here (here ▸ stands)
  | releasing id ending => rw [here] at stands; exact stands.elim
  | finished ending =>
      have turned := rush.turn_eq_step crowd fetch here (by simp)
      simp only [Fetch.step, Fetch.signal?, Crowd.turnTo_self] at turned
      exact .enter fits here rfl turned (here ▸ stands) fun busy => by cases busy

/-- The first crowd fits: nobody has locked anything yet. -/
theorem fits_gathered (rush : Rush) : rush.Fits rush.gathered := by
  have order := rush.reachable.inOrder
  have added : rush.added rush.start.store = ∅ := by
    refine Finset.filter_false_of_mem fun key missing => ?_
    simpa using (Finset.mem_filter.mp missing).2
  exact {
    known := order.known
    injective := order.injective
    absent := fun key absent => ⟨absent, rfl⟩
    fetched := fun key id known missing => by
      rw [show rush.start.store.lookup key = some id from known] at missing
      cases missing
    stages := by
      intro key id known
      refine .idle (.found ?_) rfl
      simp only [Cache.stored?, show rush.start.store.lookup key = some id from known]
      rfl
    stands := fun _ _ => trivial
    books := {
      ceiling := rfl
      created := by simp [gathered, Crowd.gathered, added]
      size := by simp [gathered, Crowd.gathered, added]
      replaced := rfl
      evictions := rfl
      sweeps := rfl
      lastSweep := rfl } }

/-- Every schedule of the visitors keeps what holds of the crowd. -/
theorem Fits.play (fits : rush.Fits crowd) {turns : List Fetch}
    (inside : ∀ fetch ∈ turns, fetch ∈ rush.visitors) : rush.Fits (rush.play crowd turns) := by
  induction turns generalizing crowd with
  | nil => exact fits
  | cons fetch rest ih =>
      have next := (fits.turn (inside fetch List.mem_cons_self)).fits
      exact ih next fun other later => inside other (List.mem_cons_of_mem fetch later)

/-- The steps that all visitors together have to make at most. -/
def effort (rush : Rush) (crowd : Crowd) : Nat :=
  (rush.visitors.map fun fetch => (crowd.phase fetch).effort).sum

/-- A turn of a busy visitor brings the rush nearer to its end. -/
theorem Fits.effort_turn_lt (fits : rush.Fits crowd) (inside : fetch ∈ rush.visitors)
    (busy : (crowd.phase fetch).isBusy = true) :
    rush.effort (rush.turn crowd fetch) < rush.effort crowd := by
  have less := (fits.turn inside).effort busy
  refine List.sum_lt_sum _ _ (fun other _ => ?_) ⟨fetch, inside, less⟩
  by_cases own : other = fetch
  · rw [own]
    exact Nat.le_of_lt less
  · obtain ⟨signal, woken⟩ : ∃ signal, (rush.turn crowd fetch).phase other =
        Crowd.wake signal (crowd.phase other) := phase_turn_of_ne crowd own
    rw [woken]
    exact Crowd.effort_wake_le signal _

/-- No schedule of busy visitors is longer than the effort that is left. -/
theorem Fits.length_le_effort (fits : rush.Fits crowd) {turns : List Fetch}
    (busy : rush.Busy crowd turns) : turns.length ≤ rush.effort crowd := by
  induction turns generalizing crowd with
  | nil => exact Nat.zero_le _
  | cons fetch rest ih =>
      obtain ⟨⟨inside, first⟩, later⟩ := busy
      have shorter := ih (fits.turn inside).fits later
      have less := fits.effort_turn_lt inside first
      rw [List.length_cons]
      omega

/-- Ten steps are enough for each visitor. -/
theorem effort_gathered (rush : Rush) : rush.effort rush.gathered = 10 * rush.visitors.length := by
  simp [effort, gathered, Crowd.gathered, Fetch.start, Fetch.Phase.effort, Lookup.remaining,
    Nat.mul_comm]

end Rush

end SingleFlight
