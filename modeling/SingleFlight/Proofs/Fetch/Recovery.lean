import SingleFlight.Proofs.Crowd.Progress
import SingleFlight.Proofs.Traffic.Condemned
import SingleFlight.Proofs.Traffic.Gates
import SingleFlight.Proofs.Traffic.Holds

namespace SingleFlight

/-- An unlocked entry that serves what it has. -/
structure Entry.Rests (entry : Entry) : Prop where
  tidy : entry.IsTidy
  unlocked : entry.hold = none

/-- An entry whose lock, if held, is abandoned from a time on. -/
structure Entry.Lapses (entry : Entry) (due : Instant) : Prop where
  tidy : entry.IsTidy
  deadline : ∀ hold, entry.hold = some hold → (hold.deadline entry.maxLockHold).nanos ≤ due.nanos

/-- A lock that is not abandoned although it is due is not held. -/
theorem Entry.Lapses.rests {entry : Entry} {due now : Instant} (lapses : entry.Lapses due)
    (late : due.nanos ≤ now.nanos) (kept : entry.isAbandoned now = false) : entry.Rests := by
  refine ⟨lapses.tidy, ?_⟩
  cases held : entry.hold with
  | none => rfl
  | some hold =>
      have passed := lapses.deadline hold held
      have young : now.nanos - hold.since.nanos < entry.maxLockHold.nanos := by
        simpa [Entry.isAbandoned, held, Instant.since, Duration.le_iff] using kept
      simp only [Hold.deadline] at passed
      omega

/-- An entry that was just made or copied rests. -/
theorem Entry.rests_seeded (content : Option String) (tag : Option Tag) (ttl maxLockHold : Duration)
    (now : Instant) : (Entry.seeded content tag ttl maxLockHold now).Rests := ⟨rfl, rfl⟩

/-- A key maps to an entry of which something holds. -/
structure Cache.Has (cache : Cache) (key : String) (id : EntryId) (holds : Entry → Prop) : Prop where
  maps : cache.store.lookup key = some id
  known : cache.heap.holds id = true
  state : holds (cache.heap.get id)

namespace Fetch

/-- A producer comes back, a wait runs out, or the fetch makes a step. -/
def turn (fetch : Fetch) (text : String) (elapsed : Duration) (state : Phase × Cache)
    (moment : Moment) : Phase × Cache :=
  match state.1 with
  | .producing _ => ((fetch.afterProduction (.content text) elapsed state.1).1, state.2)
  | .waiting _ .parked => (expire state.1, state.2)
  | phase =>
    let (next, cache, _) := fetch.step phase moment state.2
    (next, cache)

/-- A fetch that nothing interferes with, at one moment after the other. -/
def solo (fetch : Fetch) (text : String) (elapsed : Duration) (state : Phase × Cache)
    (moments : List Moment) : Phase × Cache :=
  moments.foldl (fetch.turn text elapsed) state

/-- A fetch has got the content of its key's entry, which is unlocked. -/
def Provided (fetch : Fetch) (text : String) (cache : Cache) (ending : Ending) : Prop :=
  ∃ result entry, ending = .fetched result ∧
    (result = .produced text ∨ ∃ content, result = .cached content) ∧
    cache.stored? fetch.key = some entry ∧ entry.hold = none ∧ entry.content = some result.content

/-- Where a fetch can stand once all locks on its key are due. -/
def Nears (fetch : Fetch) (text : String) (due : Instant) (cache : Cache) : Phase → Prop
  | .looking .finding =>
    ∀ id, cache.store.lookup fetch.key = some id → cache.Has fetch.key id (·.Lapses due)
  | .looking (.timing id) => cache.Has fetch.key id (·.Lapses due)
  | .looking (.judging id now) => cache.Has fetch.key id (·.Lapses due) ∧ due.nanos ≤ now.nanos
  | .looking (.copying id) | .looking (.stamping id _) => cache.store.lookup fetch.key = some id
  | .looking (.swapping id candidate) =>
    cache.store.lookup fetch.key = some id ∧ cache.heap.holds candidate = true ∧
      (cache.heap.get candidate).Rests
  | .acquiring id => cache.Has fetch.key id Entry.Rests
  | .waiting id .arriving =>
    cache.Has fetch.key id fun entry => entry.Rests ∧ entry.content ≠ none
  | .producing id => cache.Has fetch.key id (·.isHeldBy fetch.caller = true)
  | .committing id content =>
    cache.Has fetch.key id (·.isHeldBy fetch.caller = true) ∧ content = text
  | .finished ending => fetch.Provided text cache ending
  | _ => False

variable {fetch : Fetch} {text : String} {elapsed : Duration} {due now : Instant} {moment : Moment}
  {cache : Cache}

/-- A turn keeps where the fetch stands and brings it nearer to its end. -/
structure Advances (fetch : Fetch) (text : String) (due : Instant) (phase : Phase)
    (after : Phase × Cache) : Prop where
  nears : fetch.Nears text due after.2 after.1
  effort : after.1.effort ≤ phase.effort - 1

/-- A new entry can be asked for its lock. -/
theorem has_created (asked : Lookup) (entry : Entry) (rests : entry.Rests) :
    Cache.Has ⟨cache.heap.add entry, cache.store.create asked.key cache.heap.next⟩ asked.key
      cache.heap.next Entry.Rests where
  maps := by rw [Store.lookup_create, if_pos rfl]
  known := (Heap.holds_add_iff _ _ _).mpr (.inr rfl)
  state := by rwa [Heap.get_add_next]

/-- A turn of a lookup keeps where the fetch can stand. -/
theorem nears_looking {inner : Lookup.Phase} (nears : fetch.Nears text due cache (.looking inner))
    (read : moment.monotonic = .ok now) (late : due.nanos ≤ now.nanos) :
    fetch.Nears text due (fetch.lookup.step inner moment cache).2.1
      (afterLookup (fetch.lookup.step inner moment cache).1) := by
  cases inner with
  | finding =>
      simp only [Lookup.step, Lookup.find, Fetch.lookup]
      cases there : cache.store.lookup fetch.key with
      | some id => exact nears id there
      | none =>
          simp only [read]
          exact has_created fetch.lookup _ (Entry.rests_seeded _ _ _ _ _)
  | timing id =>
      simp only [Lookup.step, read]
      exact ⟨nears, late⟩
  | judging id then_ =>
      obtain ⟨has, late⟩ := nears
      simp only [Lookup.step]
      cases judged : (cache.heap.get id).isAbandoned then_ with
      | true => exact has.maps
      | false => exact ⟨has.maps, has.known, has.state.rests late judged⟩
  | copying id => exact nears
  | stamping id content =>
      simp only [Lookup.step, read]
      refine ⟨nears, (Heap.holds_add_iff _ _ _).mpr (.inr rfl), ?_⟩
      rw [Heap.get_add_next]
      exact Entry.rests_seeded _ _ _ _ _
  | swapping id candidate =>
      obtain ⟨maps, known, rests⟩ := nears
      simp only [Lookup.step, Lookup.swap, Fetch.lookup, maps, if_true]
      refine ⟨?_, known, rests⟩
      rw [Store.lookup_replace, if_pos rfl]
  | finished outcome => exact nears.elim

/-- A lookup that is over leaves less to do. -/
theorem effort_afterLookup_le (inner : Lookup.Phase) :
    (afterLookup inner).effort ≤ Lookup.remaining inner + 4 := by
  unfold afterLookup
  split <;> simp [Phase.effort, Lookup.remaining]

theorem advances_looking {inner : Lookup.Phase} (nears : fetch.Nears text due cache (.looking inner))
    (read : moment.monotonic = .ok now) (late : due.nanos ≤ now.nanos) :
    fetch.Advances text due (.looking inner)
      (fetch.turn text elapsed (.looking inner, cache) moment) := by
  refine ⟨nears_looking nears read late, ?_⟩
  have running : Lookup.remaining inner ≠ 0 := by
    cases inner with
    | finished outcome => exact nears.elim
    | _ => simp [Lookup.remaining]
  have shorter := fetch.lookup.remaining_step inner moment cache running
  have rest := effort_afterLookup_le (fetch.lookup.step inner moment cache).1
  show (afterLookup (fetch.lookup.step inner moment cache).1).effort ≤ Lookup.remaining inner + 4 - 1
  omega

/-- An unlocked entry that refuses a fetch serves its content. -/
theorem content_of_refused {entry : Entry} {request : Request}
    (refused : entry.grants request now = false) : entry.content ≠ none := by
  cases request with
  | forced => simp [Entry.grants] at refused
  | ifStale tag =>
      intro missing
      simp [Entry.grants, Entry.isStale, missing] at refused

theorem has_setEntry {key : String} {id : EntryId} {before after : Entry → Prop} {entry : Entry}
    (has : cache.Has key id before) (holds : after entry) :
    (cache.setEntry id entry).Has key id after where
  maps := has.maps
  known := (cache.heap.holds_set _ _ _).trans has.known
  state := by
    show after ((cache.heap.set id entry).get id)
    rwa [Heap.get_set_self has.known]

/-- At an unlocked entry a fetch gets the lock or finds fresh content. -/
theorem advances_acquiring {id : EntryId} (nears : fetch.Nears text due cache (.acquiring id))
    (read : moment.monotonic = .ok now) :
    fetch.Advances text due (.acquiring id)
      (fetch.turn text elapsed (.acquiring id, cache) moment) := by
  have unlocked := nears.state.unlocked
  cases granted : (cache.heap.get id).grants fetch.options.request now with
  | true =>
      have asked : (cache.heap.get id).acquire fetch.caller fetch.options.request (.ok now) =
          (.ok .granted, { cache.heap.get id with hold := some ⟨fetch.caller, now⟩ }) := by
        simp [Entry.acquire, unlocked, granted]
      simp only [turn, step, acquire, read, asked]
      exact ⟨has_setEntry nears (by simp [Entry.isHeldBy]),
        by simp [Acquisition.held, Phase.effort]⟩
  | false =>
      have asked : (cache.heap.get id).acquire fetch.caller fetch.options.request (.ok now) =
          (.ok .fresh, cache.heap.get id) := by
        simp [Entry.acquire, unlocked, granted]
      simp only [turn, step, acquire, read, asked]
      exact ⟨has_setEntry nears ⟨nears.state, content_of_refused granted⟩,
        by simp [Acquisition.held, Phase.effort]⟩

/-- A fetch that is refused the lock is served at once. -/
theorem advances_waiting {id : EntryId} (nears : fetch.Nears text due cache (.waiting id .arriving)) :
    fetch.Advances text due (.waiting id .arriving)
      (fetch.turn text elapsed (.waiting id .arriving, cache) moment) := by
  obtain ⟨maps, known, rests, filled⟩ := nears
  obtain ⟨content, there⟩ := Option.ne_none_iff_exists'.mp filled
  have isOpen : (cache.heap.get id).gateOpen = true := by
    rw [show (cache.heap.get id).gateOpen = _ from rests.tidy, there]
    rfl
  have looked : Reader.arriving.look fetch.options.wait (cache.heap.get id) =
      .returned (.ok content) := by
    simp [Reader.look, isOpen, Reader.conclude, Entry.served, there]
  simp only [turn, step, looked, afterLook]
  refine ⟨⟨.cached content, cache.heap.get id, rfl, .inr ⟨content, rfl⟩, ?_, rests.unlocked, there⟩,
    by simp [Phase.effort]⟩
  simp [Cache.stored?, maps]

/-- A fetch that has its text commits it and gives the lock back. -/
theorem advances_committing {id : EntryId} {content : String}
    (nears : fetch.Nears text due cache (.committing id content))
    (read : moment.monotonic = .ok now) :
    fetch.Advances text due (.committing id content)
      (fetch.turn text elapsed (.committing id content, cache) moment) := by
  obtain ⟨has, rfl⟩ := nears
  let after : Entry := { cache.heap.get id with
    content := some content, tag := fetch.options.tag, updated := now, hold := none, gateOpen := true }
  have committed : (cache.heap.get id).commit fetch.caller content fetch.options.tag (.ok now) =
      (.ok true, after) := by
    simp [Entry.commit_eq, has.state, after]
  simp only [turn, step, commit, Guard.commit, read, committed]
  refine ⟨⟨.produced content, after, rfl, .inl rfl, ?_, rfl, rfl⟩, by simp [Phase.effort]⟩
  simp [Cache.stored?, has.maps, Heap.get_set_self has.known]

/-- Every turn brings a fetch nearer to a content. -/
theorem advances_turn {phase : Phase} (nears : fetch.Nears text due cache phase)
    (read : moment.monotonic = .ok now) (late : due.nanos ≤ now.nanos) :
    fetch.Advances text due phase (fetch.turn text elapsed (phase, cache) moment) := by
  cases phase with
  | looking inner => exact advances_looking nears read late
  | acquiring id => exact advances_acquiring nears read
  | waiting id reader =>
      cases reader with
      | arriving => exact advances_waiting nears
      | _ => exact nears.elim
  | producing id => exact ⟨⟨nears, rfl⟩, by simp [turn, afterProduction, Phase.effort]⟩
  | committing id content => exact advances_committing nears read
  | releasing id ending => exact nears.elim
  | finished ending => exact ⟨nears, by simp [turn, step, Phase.effort]⟩

/-- After enough turns the fetch is over. -/
theorem nears_solo (elapsed : Duration) {phase : Phase} {moments : List Moment}
    (nears : fetch.Nears text due cache phase)
    (late : ∀ moment ∈ moments, ∃ now, moment.monotonic = .ok now ∧ due.nanos ≤ now.nanos) :
    fetch.Nears text due (fetch.solo text elapsed (phase, cache) moments).2
        (fetch.solo text elapsed (phase, cache) moments).1 ∧
      (fetch.solo text elapsed (phase, cache) moments).1.effort ≤ phase.effort - moments.length := by
  induction moments generalizing phase cache with
  | nil => exact ⟨nears, Nat.le_refl _⟩
  | cons moment rest ih =>
      obtain ⟨now, read, after⟩ := late moment List.mem_cons_self
      have first : fetch.Advances text due phase (fetch.turn text elapsed (phase, cache) moment) :=
        advances_turn nears read after
      have later := ih first.nears fun other there => late other (List.mem_cons_of_mem moment there)
      refine ⟨later.1, later.2.trans ?_⟩
      have shorter := first.effort
      rw [List.length_cons]
      omega

/-- A fetch that has nothing left to do is over. -/
theorem finished_of_effort {phase : Phase} (nears : fetch.Nears text due cache phase)
    (idle : phase.effort = 0) :
    ∃ ending, phase = .finished ending ∧ fetch.Provided text cache ending := by
  cases phase with
  | finished ending => exact ⟨ending, rfl, nears⟩
  | waiting id reader => cases reader <;> simp [Phase.effort] at idle
  | _ => simp [Phase.effort] at idle

end Fetch

/-- At the ceiling every lock that traffic has left is abandoned. -/
theorem Traffic.lapses_run {hash : String → Nat} {count : Nat} {positive : 0 < count}
    {ceiling : Duration} {moves : List Move} {last : Instant}
    (past : ∀ move ∈ moves, ∃ now, move.moment.monotonic = .ok now ∧ now.nanos ≤ last.nanos)
    {key : String} {id : EntryId}
    (maps : ((opened hash count positive ceiling).run moves).lookup key = some id) :
    ((opened hash count positive ceiling).run moves).cache.Has key id
      (·.Lapses ⟨last.nanos + ceiling.nanos⟩) := by
  have sound := sound_run_opened hash count positive ceiling moves
  have known := holds_of_isShown (sound.mapped key id maps)
  have readable (move : Move) (there : move ∈ moves) : move.instant? ≠ none := by
    obtain ⟨now, read, -⟩ := past move there
    rw [Move.instant?_of_read read]
    simp
  refine ⟨maps, known, isTidy_run readable (isTidy_opened _ _ _ _) id, fun hold held => ?_⟩
  obtain ⟨move, there, taken⟩ := hold_run_opened held
  obtain ⟨now, read, before⟩ := past move there
  obtain rfl : now = hold.since := Option.some.inj ((Move.instant?_of_read read).symm.trans taken)
  have bound := sound.ceiling id known
  rw [ceiling_run] at bound
  simp only [Hold.deadline]
  rw [show (Heap.get _ id).maxLockHold = ceiling from bound]
  exact Nat.add_le_add_right before _

namespace Fetch

/-- Past the ceiling a fetch ends in ten turns with content, whatever locks dead producers have left. -/
theorem recovers (hash : String → Nat) (count : Nat) (positive : 0 < count) (ceiling : Duration)
    (fetch : Fetch) (text : String) (elapsed : Duration) (last : Instant) {moves : List Move}
    {moments : List Moment}
    (past : ∀ move ∈ moves, ∃ now, move.moment.monotonic = .ok now ∧ now.nanos ≤ last.nanos)
    (later : ∀ moment ∈ moments, ∃ now, moment.monotonic = .ok now ∧
      last.nanos + ceiling.nanos ≤ now.nanos)
    (enough : 10 ≤ moments.length) :
    let traffic := (Traffic.opened hash count positive ceiling).run moves
    let (phase, cache) := fetch.solo text elapsed (start, traffic.cache) moments
    ∃ result entry, phase = .finished (.fetched result) ∧
      (result = .produced text ∨ ∃ content, result = .cached content) ∧
      cache.stored? fetch.key = some entry ∧ entry.hold = none ∧
      entry.content = some result.content := by
  intro traffic
  have nears : fetch.Nears text ⟨last.nanos + ceiling.nanos⟩ traffic.cache start :=
    fun id maps => Traffic.lapses_run past maps
  obtain ⟨stands, effort⟩ := nears_solo elapsed nears later
  have begun : start.effort = 10 := rfl
  obtain ⟨ending, ended, result, entry, rfl, provided⟩ := finished_of_effort stands (by omega)
  exact ⟨result, entry, ended, provided⟩

/-- A producer has died with the lock; another thread gets past it. -/
theorem recovers_from_dead_producer :
    let moves := [Move.timed 0 (.begin (.lookup ⟨"k", none, ⟨5⟩⟩)), .timed 0 (.proceed 0),
      .timed 0 (.acquire ⟨1⟩ ⟨0⟩ .forced)]
    let traffic := (Traffic.opened (fun _ => 0) 1 Nat.one_pos ⟨9⟩).run moves
    let fetch : Fetch := ⟨⟨2⟩, "k", .standard ⟨5⟩⟩
    let moments := List.replicate 10 (⟨.ok ⟨9⟩, .ok ⟨0⟩⟩ : Moment)
    let (phase, cache) := fetch.solo "x" .zero (start, traffic.cache) moments
    (traffic.cache.stored? "k").bind Entry.hold = some ⟨⟨1⟩, ⟨0⟩⟩ ∧
      ∃ result entry, phase = .finished (.fetched result) ∧
        (result = .produced "x" ∨ ∃ content, result = .cached content) ∧
        cache.stored? "k" = some entry ∧ entry.hold = none ∧
        entry.content = some result.content := by
  intro moves traffic fetch moments
  have past : ∀ move ∈ moves, ∃ now, move.moment.monotonic = .ok now ∧ now.nanos ≤ 0 := by
    simp [moves, Move.timed]
  have later : ∀ moment ∈ moments, ∃ now, moment.monotonic = .ok now ∧ 0 + 9 ≤ now.nanos := by
    simp [moments]
  have locked : (traffic.cache.stored? "k").bind Entry.hold = some ⟨⟨1⟩, ⟨0⟩⟩ := by decide +kernel
  have enough : 10 ≤ moments.length := by simp [moments]
  clear_value moves moments
  exact ⟨locked, recovers (fun _ => 0) 1 Nat.one_pos ⟨9⟩ fetch "x" .zero ⟨0⟩ past later enough⟩

end Fetch

end SingleFlight
