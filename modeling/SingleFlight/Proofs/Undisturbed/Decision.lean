import Mathlib.Data.List.Chain
import SingleFlight.Proofs.Crowd.Protection
import SingleFlight.Proofs.Fetch.Recovery
import SingleFlight.Proofs.Traffic.Openings
import SingleFlight.Proofs.Undisturbed.Lookup

namespace SingleFlight

/-- Whether the producer of a fetch is running. -/
def Fetch.Phase.isProducing : Fetch.Phase → Bool
  | .producing _ => true
  | _ => false

namespace Fetch
variable {fetch : Fetch} {text : String} {elapsed : Duration} {phase : Phase} {cache : Cache}
  {moment : Moment} {moments : List Moment}

/-- How often the producer runs in a fetch that nothing interferes with. -/
def productions (fetch : Fetch) (text : String) (elapsed : Duration) : Phase × Cache → List Moment → Nat
  | _, [] => 0
  | state, moment :: rest =>
    state.1.isProducing.toNat + fetch.productions text elapsed (fetch.turn text elapsed state moment) rest

/-- Where a lone fetch gets, and how often its producer has run. -/
def course (fetch : Fetch) (text : String) (elapsed : Duration) (state : Phase × Cache)
    (moments : List Moment) : (Phase × Cache) × Nat :=
  (fetch.solo text elapsed state moments, fetch.productions text elapsed state moments)

/-- A turn in which the producer does not run. -/
theorem course_cons (idle : phase.isProducing = false) (cache : Cache) (moment : Moment)
    (rest : List Moment) :
    fetch.course text elapsed (phase, cache) (moment :: rest) =
      fetch.course text elapsed (fetch.turn text elapsed (phase, cache) moment) rest := by
  rw [course, productions, idle, Bool.toNat_false, Nat.zero_add]
  rfl

/-- The producer runs and comes back with its text. -/
theorem course_producing (id : EntryId) (cache : Cache) (moment : Moment) (rest : List Moment) :
    fetch.course text elapsed (.producing id, cache) (moment :: rest) =
      ((fetch.course text elapsed (.committing id text, cache) rest).1,
        (fetch.course text elapsed (.committing id text, cache) rest).2 + 1) := by
  rw [course, productions, Nat.add_comm]
  rfl

/-- A fetch that is over stays as it is. -/
theorem course_finished (ending : Ending) (cache : Cache) (moments : List Moment) :
    fetch.course text elapsed (.finished ending, cache) moments = ((.finished ending, cache), 0) := by
  induction moments with
  | nil => rfl
  | cons moment rest ih =>
      rw [course_cons rfl]
      exact ih

/-- A lookup that is not over is gone on with. -/
theorem afterLookup_of_running {inner : Lookup.Phase} (running : Lookup.remaining inner ≠ 0) :
    afterLookup inner = .looking inner := by
  cases inner with
  | finished outcome => simp [Lookup.remaining] at running
  | _ => rfl

/-- A fetch begins with its lookup and goes on at the moments left. -/
theorem course_looking {inner : Lookup.Phase} (running : Lookup.remaining inner ≠ 0) (cache : Cache)
    (moments : List Moment) :
    let looked := fetch.lookup.solo (inner, cache) moments
    fetch.course text elapsed (.looking inner, cache) moments =
      fetch.course text elapsed (afterLookup looked.1.1, looked.1.2) looked.2 := by
  induction moments generalizing inner cache with
  | nil =>
      show _ = fetch.course text elapsed (afterLookup inner, cache) []
      rw [afterLookup_of_running running]
  | cons moment rest ih =>
      rw [Lookup.solo_of_running running, course_cons rfl]
      let next := (fetch.lookup.step inner moment cache).1
      show fetch.course text elapsed (afterLookup next, (fetch.lookup.step inner moment cache).2.1) rest = _
      by_cases isOver : Lookup.remaining next = 0
      · rw [Lookup.solo_of_over isOver]
      · rw [afterLookup_of_running isOver]
        exact ih isOver _

/-- Whether a fetch comes to make the content, by its lock or a grant. -/
def Renews (fetch : Fetch) (entry : Entry) (reading : Reading) : Prop :=
  (∃ hold, entry.hold = some hold ∧ hold.owner = fetch.caller) ∨
    entry.hold = none ∧ ∃ now, reading = .ok now ∧
      (fetch.options.forceRefresh = true ∨ entry.content = none ∨ entry.ttl ≤ now.since entry.updated ∨
        ∃ tag, entry.tag = some tag ∧ some tag ≠ fetch.options.tag)

/-- An unlocked entry grants exactly if its content is to be made anew. -/
theorem grants_iff (fetch : Fetch) (entry : Entry) (now : Instant) :
    entry.grants fetch.options.request now = true ↔
      fetch.options.forceRefresh = true ∨ entry.content = none ∨ entry.ttl ≤ now.since entry.updated ∨
        ∃ tag, entry.tag = some tag ∧ some tag ≠ fetch.options.tag := by
  unfold FetchOptions.request
  cases forced : fetch.options.forceRefresh with
  | true => simp [Entry.grants]
  | false =>
      cases label : entry.tag <;>
        simp [Entry.grants, Entry.isStale, Entry.isExpired, Entry.isOutdated, label, or_assoc]

/-- A fetch comes to make the content exactly if its acquisition has the lock held. -/
theorem renews_iff (fetch : Fetch) (entry : Entry) (reading : Reading) :
    fetch.Renews entry reading ↔
      (entry.acquire fetch.caller fetch.options.request reading).1.map Acquisition.held = .ok true := by
  unfold Renews
  rcases entry.acquire_cases fetch.caller fetch.options.request reading with
    ⟨hold, held, asked⟩ | ⟨unlocked, fault, rfl, asked⟩ | ⟨unlocked, now, rfl, grants, asked⟩ |
    ⟨unlocked, now, rfl, fresh, asked⟩
  · by_cases mine : hold.owner = fetch.caller <;> simp [asked, held, mine, Except.map, Acquisition.held]
  · simp [asked, unlocked, Except.map]
  · simp [asked, unlocked, ← grants_iff, grants, Except.map, Acquisition.held]
  · simp [asked, unlocked, ← grants_iff, fresh, Except.map, Acquisition.held]

/-- What a fetch without the lock has to say. -/
def answer (fetch : Fetch) (entry : Entry) : Ending :=
  match entry.served with
  | some content => .fetched (.cached content)
  | none => .failed (.timedOut ⟨fetch.options.wait⟩)

/-- What comes of a fetch from its acquisition on, by two readings. -/
structure Decided (fetch : Fetch) (text : String) (id : EntryId) (asking committing : Reading)
    (before after : Cache) (phase : Phase) (runs : Nat) : Prop where
  once : runs ≤ 1
  renews : runs = 1 ↔ fetch.Renews (before.heap.get id) asking
  /-- A commit that can read the clock. -/
  produced : runs = 1 → ∀ now, committing = .ok now →
    phase = .finished (.fetched (.produced text)) ∧
      after = before.setEntry id { before.heap.get id with
        content := some text, tag := fetch.options.tag, updated := now, hold := none, gateOpen := true }
  /-- A commit that cannot read the clock keeps the lock and leaves its content. -/
  broken : runs = 1 → ∀ fault, committing = .error fault →
    phase = .finished (.crashed fault.message) ∧ ∃ hold, hold.owner = fetch.caller ∧
      after = before.setEntry id { before.heap.get id with
        content := some text, tag := fetch.options.tag, hold := some hold }
  /-- An acquisition that needs the clock and cannot read it. -/
  unread : ∀ fault, (before.heap.get id).hold = none → asking = .error fault →
    phase = .finished (.crashed fault.message) ∧ runs = 0
  untouched : runs = 0 → after = before
  /-- Without the lock a fetch is served behind an open gate, or gives up. -/
  refused : runs = 0 → ((before.heap.get id).hold = none → ∃ now, asking = .ok now) →
    phase = .finished (fetch.answer (before.heap.get id))

/-- The last look at the gate. -/
theorem afterLook_late (fetch : Fetch) (id : EntryId) (entry : Entry) :
    afterLook id (Reader.late.look fetch.options.wait entry) = .finished (fetch.answer entry) := by
  unfold Reader.look Reader.conclude answer
  cases entry.served <;> rfl

/-- The first look at the gate. -/
theorem afterLook_arriving (fetch : Fetch) (id : EntryId) (entry : Entry) :
    afterLook id (Reader.arriving.look fetch.options.wait entry) =
      if entry.gateOpen then .finished (fetch.answer entry) else .waiting id .parked := by
  rw [← fetch.afterLook_late id entry]
  simp only [Reader.look]
  split <;> rfl

/-- A refused fetch looks at the gate, waits if it has to, and looks again. -/
theorem course_refused (fetch : Fetch) (text : String) (elapsed : Duration) (id : EntryId) (cache : Cache)
    (looking waiting ending : Moment) (rest : List Moment) :
    fetch.course text elapsed (.waiting id .arriving, cache) (looking :: waiting :: ending :: rest) =
      ((.finished (fetch.answer (cache.heap.get id)), cache), 0) := by
  have looked : fetch.turn text elapsed (.waiting id .arriving, cache) looking =
      (if (cache.heap.get id).gateOpen then .finished (fetch.answer (cache.heap.get id))
        else .waiting id .parked, cache) := by
    simp only [turn, step, afterLook_arriving]
  have late : fetch.turn text elapsed (.waiting id .parked, cache) waiting =
      (.waiting id .late, cache) := rfl
  have last : fetch.turn text elapsed (.waiting id .late, cache) ending =
      (.finished (fetch.answer (cache.heap.get id)), cache) := by
    simp only [turn, step, afterLook_late]
  rw [course_cons rfl, looked]
  split
  · rw [course_finished]
  · rw [course_cons rfl, late, course_cons rfl, last, course_finished]

/-- A fetch with the lock runs its producer once and commits. -/
theorem course_granted (fetch : Fetch) (text : String) (elapsed : Duration) (id : EntryId) (cache : Cache)
    (making committing : Moment) (rest : List Moment) :
    fetch.course text elapsed (.producing id, cache) (making :: committing :: rest) =
      (((fetch.commit id text committing.monotonic cache).1,
        (fetch.commit id text committing.monotonic cache).2.1), 1) := by
  obtain ⟨ending, ended⟩ : ∃ ending, (fetch.commit id text committing.monotonic cache).1 = .finished ending :=
    ⟨_, rfl⟩
  have committed : fetch.turn text elapsed (.committing id text, cache) committing =
      ((fetch.commit id text committing.monotonic cache).1,
        (fetch.commit id text committing.monotonic cache).2.1) := rfl
  rw [course_producing, course_cons rfl, committed, ended, course_finished]

/-- What becomes of a locked entry when its fetch commits. -/
theorem commit_of_lock {id : EntryId} (known : cache.heap.holds id = true) {hold : Hold}
    (mine : hold.owner = fetch.caller) (text : String) (reading : Reading) :
    fetch.commit id text reading (cache.setEntry id { cache.heap.get id with hold := some hold }) =
      match (reading : Reading) with
      | .ok now => (.finished (.fetched (.produced text)),
          cache.setEntry id { cache.heap.get id with
            content := some text, tag := fetch.options.tag, updated := now, hold := none, gateOpen := true },
          [])
      | .error fault => (.finished (.crashed fault.message),
          cache.setEntry id { cache.heap.get id with
            content := some text, tag := fetch.options.tag, hold := some hold },
          []) := by
  have state := Heap.get_set_self known { cache.heap.get id with hold := some hold }
  cases reading <;>
    simp [commit, Guard.commit, Entry.commit_eq, Cache.setEntry, state, Entry.isHeldBy, mine,
      Guard.commitEvents]

/-- What comes of a fetch that has got the lock. -/
theorem decided_of_lock {id : EntryId} (known : cache.heap.holds id = true) {asking : Reading}
    (renews : fetch.Renews (cache.heap.get id) asking)
    (read : ∀ fault, (cache.heap.get id).hold = none → asking ≠ .error fault) {hold : Hold}
    (mine : hold.owner = fetch.caller) (text : String) (committing : Reading) :
    let locked := cache.setEntry id { cache.heap.get id with hold := some hold }
    let done := fetch.commit id text committing locked
    fetch.Decided text id asking committing cache done.2.1 done.1 1 := by
  intro locked done
  have committed : done = _ := commit_of_lock known mine text committing
  exact {
    once := Nat.le_refl 1
    renews := iff_of_true rfl renews
    produced := by
      rintro - now rfl
      rw [committed]
      exact ⟨rfl, rfl⟩
    broken := by
      rintro - fault rfl
      rw [committed]
      exact ⟨rfl, hold, mine, rfl⟩
    unread := fun fault unlocked failed => absurd failed (read fault unlocked)
    untouched := fun none => by cases none
    refused := fun none => by cases none }

/-- What comes of a fetch that has been refused the lock. -/
theorem decided_of_refusal {id : EntryId} {asking : Reading}
    (not : ¬ fetch.Renews (cache.heap.get id) asking)
    (read : ∀ fault, (cache.heap.get id).hold = none → asking ≠ .error fault) (text : String)
    (committing : Reading) :
    fetch.Decided text id asking committing cache cache
      (.finished (fetch.answer (cache.heap.get id))) 0 where
  once := Nat.zero_le 1
  renews := iff_of_false Nat.zero_ne_one not
  produced none := by cases none
  broken none := by cases none
  unread fault unlocked failed := absurd failed (read fault unlocked)
  untouched _ := rfl
  refused _ _ := rfl

/-- What comes of a fetch that cannot read the clock. -/
theorem decided_of_fault {id : EntryId} {fault : ClockFault}
    (unlocked : (cache.heap.get id).hold = none) (text : String) (committing : Reading) :
    fetch.Decided text id (.error fault) committing cache cache (.finished (.crashed fault.message)) 0 where
  once := Nat.zero_le 1
  renews := by
    refine iff_of_false Nat.zero_ne_one ?_
    rintro (⟨hold, held, -⟩ | ⟨-, now, read, -⟩)
    · exact absurd (unlocked.symm.trans held) (by simp)
    · cases read
  produced none := by cases none
  broken none := by cases none
  unread other _ failed := by cases failed; exact ⟨rfl, rfl⟩
  untouched _ := rfl
  refused _ readable := by
    obtain ⟨now, read⟩ := readable unlocked
    cases read

/-- A fetch at its acquisition ends as the entry and the readings decide. -/
theorem decided_acquiring (fetch : Fetch) (text : String) (elapsed : Duration) {id : EntryId}
    (known : cache.heap.holds id = true) (asking making committing last : Moment) (rest : List Moment) :
    let result := fetch.course text elapsed (.acquiring id, cache)
      (asking :: making :: committing :: last :: rest)
    fetch.Decided text id asking.monotonic committing.monotonic cache result.1.2 result.1.1 result.2 := by
  intro result
  let state := cache.heap.get id
  have same : cache.setEntry id state = cache := by simp [Cache.setEntry, state]
  have granted {hold : Hold} (turned : fetch.turn text elapsed (.acquiring id, cache) asking =
      (.producing id, cache.setEntry id { state with hold := some hold })) :
      let done := fetch.commit id text committing.monotonic
        (cache.setEntry id { state with hold := some hold })
      result = ((done.1, done.2.1), 1) := by
    simp only [result]
    rw [course_cons rfl, turned, course_granted]
  have refused (turned : fetch.turn text elapsed (.acquiring id, cache) asking =
      (.waiting id .arriving, cache)) : result = ((.finished (fetch.answer state), cache), 0) := by
    simp only [result]
    rw [course_cons rfl, turned, course_refused]
  rcases state.acquire_cases fetch.caller fetch.options.request asking.monotonic with
    ⟨hold, held, asked⟩ | ⟨unlocked, fault, failed, asked⟩ | ⟨unlocked, now, read, grants, asked⟩ |
    ⟨unlocked, now, read, fresh, asked⟩
  · have locked (fault : ClockFault) (unlocked : state.hold = none) : asking.monotonic ≠ .error fault := by
      rw [held] at unlocked
      cases unlocked
    by_cases mine : hold.owner = fetch.caller
    · have kept : { state with hold := some hold } = state := by rw [← held]
      have turned : fetch.turn text elapsed (.acquiring id, cache) asking =
          (.producing id, cache.setEntry id { state with hold := some hold }) := by
        rw [kept]
        simp [turn, step, acquire, state, asked, mine, Acquisition.held]
      rw [granted turned]
      exact decided_of_lock known (.inl ⟨hold, held, mine⟩) locked mine text committing.monotonic
    · have turned : fetch.turn text elapsed (.acquiring id, cache) asking =
          (.waiting id .arriving, cache) := by
        simp [turn, step, acquire, state, asked, mine, Acquisition.held, same]
      rw [refused turned]
      refine decided_of_refusal (mt (fetch.renews_iff state asking.monotonic).mp ?_) locked text
        committing.monotonic
      simp [asked, mine, Except.map, Acquisition.held]
  · have turned : fetch.turn text elapsed (.acquiring id, cache) asking =
        (.finished (.crashed fault.message), cache) := by
      simp [turn, step, acquire, state, asked, same]
    have crashed : result = ((.finished (.crashed fault.message), cache), 0) := by
      simp only [result]
      rw [course_cons rfl, turned, course_finished]
    rw [crashed, failed]
    exact decided_of_fault unlocked text committing.monotonic
  · have turned : fetch.turn text elapsed (.acquiring id, cache) asking =
        (.producing id, cache.setEntry id { state with hold := some ⟨fetch.caller, now⟩ }) := by
      simp [turn, step, acquire, state, asked, Acquisition.held]
    rw [granted turned]
    refine decided_of_lock known ((fetch.renews_iff state asking.monotonic).mpr ?_) (by simp [read]) rfl
      text committing.monotonic
    simp [asked, Except.map, Acquisition.held]
  · have turned : fetch.turn text elapsed (.acquiring id, cache) asking =
        (.waiting id .arriving, cache) := by
      simp [turn, step, acquire, state, asked, Acquisition.held, same]
    rw [refused turned]
    refine decided_of_refusal (mt (fetch.renews_iff state asking.monotonic).mp ?_) (by simp [read]) text
      committing.monotonic
    simp [asked, Except.map, Acquisition.held]

/-- Four moves are left to a fetch when its lookup is over. -/
theorem left_of_solo (fetch : Fetch) (cache : Cache) (enough : 10 ≤ moments.length) :
    ∃ asking making committing last rest, (fetch.lookup.solo (.finding, cache) moments).2 =
      asking :: making :: committing :: last :: rest := by
  have six : Lookup.remaining .finding = 6 := rfl
  have room : Lookup.remaining .finding ≤ moments.length := by omega
  obtain ⟨-, left⟩ := fetch.lookup.solo_ends .finding cache room
  generalize (fetch.lookup.solo (.finding, cache) moments).2 = rest at left
  rcases rest with _ | ⟨asking, _ | ⟨making, _ | ⟨committing, _ | ⟨last, rest⟩⟩⟩⟩
  · simp at left; omega
  · simp at left; omega
  · simp at left; omega
  · simp at left; omega
  · exact ⟨asking, making, committing, last, rest, rfl⟩

/-- A fetch whose lookup gives an entry ends as entry and readings decide. -/
theorem decided_of_lookup (fetch : Fetch) (text : String) (elapsed : Duration) {id : EntryId}
    (enough : 10 ≤ moments.length) :
    let looked := fetch.lookup.solo (.finding, cache) moments
    let result := fetch.course text elapsed (start, cache) moments
    looked.1.1 = .finished (.ok id) → looked.1.2.heap.holds id = true →
      ∃ asking making committing left, looked.2 = asking :: making :: committing :: left ∧
        fetch.Decided text id asking.monotonic committing.monotonic looked.1.2 result.1.2 result.1.1
          result.2 := by
  intro looked result given known
  obtain ⟨asking, making, committing, last, rest, left⟩ := fetch.left_of_solo cache enough
  refine ⟨asking, making, committing, last :: rest, left, ?_⟩
  have goes : result = fetch.course text elapsed (afterLookup looked.1.1, looked.1.2) looked.2 :=
    course_looking (by simp [Lookup.remaining]) cache moments
  rw [given, left] at goes
  rw [goes]
  exact fetch.decided_acquiring text elapsed known asking making committing last rest

/-- A fetch for the tag of a content that has just been made is served. -/
theorem served_again (fetch : Fetch) (words : String) (elapsed : Duration) {id : EntryId} {text : String}
    {now : Instant} (maps : cache.store.lookup fetch.key = some id) (known : cache.heap.holds id = true)
    (unlocked : (cache.heap.get id).hold = none) (served : (cache.heap.get id).served = some text)
    (filled : (cache.heap.get id).content = some text) (lasting : (cache.heap.get id).ttl ≠ .zero)
    (updated : (cache.heap.get id).updated = now) (tagged : (cache.heap.get id).tag = fetch.options.tag)
    (unforced : fetch.options.forceRefresh = false) (enough : 10 ≤ moments.length)
    (still : ∀ moment ∈ moments, moment.monotonic = .ok now) :
    fetch.course words elapsed (start, cache) moments =
      ((.finished (.fetched (.cached text)), cache), 0) := by
  have kept : ∀ moment ∈ moments, ∃ now, moment.monotonic = .ok now ∧
      (cache.heap.get id).isAbandoned now = false := fun moment inside =>
    ⟨now, still moment inside, by simp [Entry.isAbandoned, unlocked]⟩
  have looked : (fetch.lookup.solo (.finding, cache) moments).1 = (.finished (.ok id), cache) :=
    Lookup.solo_kept maps kept (by omega)
  obtain ⟨asking, making, committing, left, rest, decided⟩ :=
    fetch.decided_of_lookup words elapsed enough (congrArg Prod.fst looked) (by rwa [looked])
  have read : asking.monotonic = .ok now := by
    refine still asking ((fetch.lookup.solo_suffix .finding cache moments).subset ?_)
    rw [rest]
    exact List.mem_cons_self
  rw [looked] at decided
  have fresh : ¬ fetch.Renews (cache.heap.get id) asking.monotonic := by
    rintro (⟨hold, held, -⟩ | ⟨-, time, readAs, forced | missing | expired | ⟨tag, other, apart⟩⟩)
    · rw [unlocked] at held
      cases held
    · rw [unforced] at forced
      cases forced
    · rw [filled] at missing
      cases missing
    · obtain rfl := Except.ok.inj (read.symm.trans readAs)
      have aged : now.since (cache.heap.get id).updated = .zero := by
        simp [updated, Instant.since, Duration.zero]
      rw [aged, Duration.le_iff] at expired
      exact absurd (Duration.nanos_pos lasting) (Nat.not_lt.mpr expired)
    · exact apart (other.symm.trans tagged)
  have idle : (fetch.course words elapsed (start, cache) moments).2 = 0 := by
    have once := decided.once
    have none := mt decided.renews.mp fresh
    omega
  have ended := decided.refused idle fun _ => ⟨now, read⟩
  have same := decided.untouched idle
  have answered : fetch.answer (cache.heap.get id) = .fetched (.cached text) := by
    simp [answer, served]
  rw [answered] at ended
  exact Prod.ext (Prod.ext ended same) idle

/-- What comes of a lone fetch whose lookup gives an entry, on a store with a history. -/
structure Concludes (fetch : Fetch) (text : String) (start : Traffic) (history : List Move) (id : EntryId)
    (asking committing : Reading) (after : Cache) (phase : Phase) (runs : Nat) : Prop where
  maps : (start.run history).lookup fetch.key = some id
  known : (start.run history).cache.heap.holds id = true
  decided : fetch.Decided text id asking committing (start.run history).cache after phase runs
  /-- Without its producer it is served by an entry ever committed or copied. -/
  served : runs = 0 → (((start.run history).state id).hold = none → ∃ now, asking = .ok now) →
    start.Occurs history (·.fills · id) → ∃ content, ((start.run history).state id).content = some content ∧
      phase = .finished (.fetched (.cached content))
  /-- It gives up only without content, or after a commit that could not read the clock. -/
  gaveUp : ∀ error, phase = .finished (.failed (.timedOut error)) →
    (((start.run history).state id).content = none ∧
      ∃ hold, ((start.run history).state id).hold = some hold ∧ hold.owner ≠ fetch.caller) ∨
    start.Occurs history (·.breaksOn · id)
  /-- At the reading of its commit all who ask for the same are served. -/
  again : runs = 1 → ∀ now, committing = .ok now → ((start.run history).state id).ttl ≠ .zero →
    ∀ repeated : Fetch, repeated.key = fetch.key → repeated.options.tag = fetch.options.tag →
      repeated.options.forceRefresh = false → ∀ words elapsed moments, 10 ≤ moments.length →
        (∀ moment ∈ moments, Moment.monotonic moment = .ok now) →
          repeated.solo words elapsed (Fetch.start, after) moments =
              (.finished (.fetched (.cached text)), after) ∧
            repeated.productions words elapsed (Fetch.start, after) moments = 0

/-- A fetch gives up behind a foreign lock without content, or a closed gate. -/
theorem Decided.closed {id : EntryId} {asking committing : Reading} {before after : Cache} {runs : Nat}
    (decided : fetch.Decided text id asking committing before after phase runs) {error : TimedOut}
    (gaveUp : phase = .finished (.failed (.timedOut error))) :
    ((before.heap.get id).content = none ∧
      ∃ hold, (before.heap.get id).hold = some hold ∧ hold.owner ≠ fetch.caller) ∨
    (before.heap.get id).Withholds := by
  have idle : runs = 0 := by
    by_contra ran
    have one : runs = 1 := by
      have once := decided.once
      omega
    cases committing with
    | ok now =>
        rw [(decided.produced one now rfl).1] at gaveUp
        cases gaveUp
    | error fault =>
        rw [(decided.broken one fault rfl).1] at gaveUp
        cases gaveUp
  have readable : (before.heap.get id).hold = none → ∃ now, asking = .ok now := by
    intro unlocked
    cases asking with
    | ok now => exact ⟨now, rfl⟩
    | error fault =>
        rw [(decided.unread fault unlocked rfl).1] at gaveUp
        cases gaveUp
  have refused : ¬ fetch.Renews (before.heap.get id) asking := mt decided.renews.mpr (by omega)
  have nothing : (before.heap.get id).served = none := by
    rw [decided.refused idle readable, answer] at gaveUp
    split at gaveUp
    · cases gaveUp
    · assumption
  by_cases empty : (before.heap.get id).content = none
  · refine .inl ⟨empty, ?_⟩
    cases held : (before.heap.get id).hold with
    | none =>
        obtain ⟨now, read⟩ := readable held
        exact absurd (.inr ⟨held, now, read, .inr (.inl empty)⟩) refused
    | some hold => exact ⟨hold, rfl, fun mine => refused (.inl ⟨hold, held, mine⟩)⟩
  · refine .inr ⟨empty, ?_⟩
    by_contra isOpen
    exact empty ((if_pos (by simpa using isOpen)).symm.trans nothing)

/-- All who ask for the same at the reading of its commit are served. -/
theorem Decided.again {id : EntryId} {asking committing : Reading} {before after : Cache} {runs : Nat}
    (decided : fetch.Decided text id asking committing before after phase runs)
    (maps : before.store.lookup fetch.key = some id) (known : before.heap.holds id = true)
    (ran : runs = 1) {now : Instant} (read : committing = .ok now)
    (lasting : (before.heap.get id).ttl ≠ .zero) {repeated : Fetch} (sameKey : repeated.key = fetch.key)
    (sameTag : repeated.options.tag = fetch.options.tag)
    (unforced : repeated.options.forceRefresh = false) (words : String)
    (elapsed : Duration) {moments : List Moment} (enough : 10 ≤ moments.length)
    (still : ∀ moment ∈ moments, Moment.monotonic moment = .ok now) :
    repeated.course words elapsed (start, after) moments =
      ((.finished (.fetched (.cached text)), after), 0) := by
  obtain ⟨-, made⟩ := decided.produced ran now read
  have state := Heap.get_set_self known { before.heap.get id with
    content := some text, tag := fetch.options.tag, updated := now, hold := none, gateOpen := true }
  subst made
  have kept : (before.setEntry id { before.heap.get id with
      content := some text, tag := fetch.options.tag, updated := now, hold := none, gateOpen := true }
      ).heap.holds id = true := (before.heap.holds_set _ _ _).trans known
  refine repeated.served_again words elapsed (sameKey ▸ maps) kept ?_ ?_ ?_ ?_ ?_ ?_ unforced enough still
  all_goals simp only [Cache.setEntry, state]
  · rfl
  · exact lasting
  · exact sameTag.symm

/-- What is known of a fetch whose lookup has given an entry. -/
theorem concludes_of_decided {hash : String → Nat} {count : Nat} {positive : 0 < count}
    {ceiling : Duration} {history : List Move} {id : EntryId} {asking committing : Reading}
    {after : Cache} {runs : Nat}
    (maps : ((Traffic.opened hash count positive ceiling).run history).lookup fetch.key = some id)
    (decided : fetch.Decided text id asking committing
      ((Traffic.opened hash count positive ceiling).run history).cache after phase runs) :
    fetch.Concludes text (Traffic.opened hash count positive ceiling) history id asking committing after
      phase runs := by
  have sound := Traffic.sound_run_opened hash count positive ceiling history
  have known := Traffic.holds_of_isShown (sound.mapped fetch.key id maps)
  have gate := Traffic.gateOpen_iff hash count positive ceiling history id
  exact {
    maps := maps
    known := known
    decided := decided
    served := by
      intro idle readable filled
      have isOpen := gate.mpr filled
      obtain ⟨content, there⟩ := Option.ne_none_iff_exists'.mp (sound.served id isOpen)
      refine ⟨content, there, ?_⟩
      have served : (Heap.get _ id).served = some content := (if_pos isOpen).trans there
      rw [decided.refused idle readable, answer, served]
    gaveUp := fun error gaveUp => (decided.closed gaveUp).imp_right Traffic.breaksOn_of_withholds
    again := by
      intro ran now read lasting repeated sameKey sameTag unforced words elapsed moments enough still
      have course := decided.again maps known ran read lasting sameKey sameTag unforced words elapsed
        enough still
      exact ⟨congrArg Prod.fst course, congrArg Prod.snd course⟩ }

/-- What comes of a lone fetch on any store is decided by the entry its lookup gives and by two readings. -/
theorem fetch_decides (hash : String → Nat) (count : Nat) (positive : 0 < count) (ceiling : Duration)
    (moves : List Move) (fetch : Fetch) (text : String) (elapsed : Duration) {moments : List Moment}
    (enough : 10 ≤ moments.length) :
    let first := Traffic.opened hash count positive ceiling
    let traffic := first.run moves
    let looked := fetch.lookup.solo (.finding, traffic.cache) moments
    let ended := fetch.solo text elapsed (start, traffic.cache) moments
    let runs := fetch.productions text elapsed (start, traffic.cache) moments
    ∃ used, moments = used ++ looked.2 ∧
      let history := moves ++ fetch.lookup.moves traffic.calls.length used
      looked.1.2 = (first.run history).cache ∧
      ((∃ fault, looked.1.1 = .finished (.error fault) ∧
          ended = (.finished (.crashed fault.message), looked.1.2) ∧ runs = 0) ∨
        ∃ id asking making committing left, looked.1.1 = .finished (.ok id) ∧
          looked.2 = asking :: making :: committing :: left ∧
          fetch.Concludes text first history id asking.monotonic committing.monotonic ended.2 ended.1
            runs) := by
  intro first traffic looked ended runs
  obtain ⟨used, split, reached⟩ := fetch.lookup.solo_moves traffic moments
  refine ⟨used, split, ?_⟩
  intro history
  have between : looked.1.2 = (first.run history).cache := by
    rw [Traffic.run_append]
    exact reached.symm
  refine ⟨between, ?_⟩
  obtain ⟨⟨outcome, given⟩, -⟩ := fetch.lookup.solo_ends .finding traffic.cache
    (Nat.le_trans (by decide) enough)
  cases outcome with
  | error fault =>
      left
      have goes : fetch.course text elapsed (start, traffic.cache) moments =
          fetch.course text elapsed (afterLookup looked.1.1, looked.1.2) looked.2 :=
        course_looking (by simp [Lookup.remaining]) traffic.cache moments
      rw [given, afterLookup, course_finished] at goes
      exact ⟨fault, given, congrArg Prod.fst goes, congrArg Prod.snd goes⟩
  | ok id =>
      right
      have beginning : fetch.lookup.Stands traffic.cache .finding := trivial
      have stands : fetch.lookup.Stands looked.1.2 looked.1.1 := beginning.solo moments
      rw [given, between] at stands
      have sound := Traffic.sound_run_opened hash count positive ceiling history
      have known := Traffic.holds_of_isShown (sound.mapped fetch.key id stands)
      obtain ⟨asking, making, committing, left, rest, decided⟩ :=
        fetch.decided_of_lookup text elapsed enough given (by rwa [← between] at known)
      rw [show (fetch.lookup.solo (.finding, traffic.cache) moments).1.2 = _ from between] at decided
      exact ⟨id, asking, making, committing, left, given, rest, concludes_of_decided stands decided⟩

/-- The first fetch of a key makes its content. -/
theorem fetch_decides_of_first :
    let fetch : Fetch := ⟨⟨1⟩, "k", .standard ⟨5⟩⟩
    let cache := ((Traffic.opened (fun _ => 0) 1 Nat.one_pos ⟨9⟩).run []).cache
    let moments := List.replicate 10 (⟨.ok ⟨3⟩, .ok ⟨0⟩⟩ : Moment)
    let ended := fetch.solo "x" .zero (start, cache) moments
    ended.1 = .finished (.fetched (.produced "x")) ∧
      fetch.productions "x" .zero (start, cache) moments = 1 ∧
      ∃ entry, ended.2.stored? "k" = some entry ∧ entry.content = some "x" ∧ entry.hold = none := by
  intro fetch cache moments ended
  have ran : fetch.productions "x" .zero (start, cache) moments = 1 := by decide +kernel
  have enough : 10 ≤ moments.length := by simp [moments]
  have readable : ∀ moment ∈ moments, moment.monotonic = .ok ⟨3⟩ := fun moment inside => by
    rw [List.eq_of_mem_replicate inside]
  clear_value moments
  obtain ⟨used, split, -, ⟨fault, -, -, idle⟩ | ⟨id, asking, making, committing, left, -, rest, concludes⟩⟩ :=
    fetch_decides (fun _ => 0) 1 Nat.one_pos ⟨9⟩ [] fetch "x" .zero enough
  · exact absurd (ran.symm.trans idle) (by decide)
  · have read : committing.monotonic = .ok ⟨3⟩ := by
      refine readable committing ?_
      rw [split, rest]
      simp
    obtain ⟨produced, made⟩ := concludes.decided.produced ran ⟨3⟩ read
    refine ⟨produced, ran, ended.2.heap.get id, ?_, ?_, ?_⟩
    · rw [made]
      exact Option.map_eq_some_iff.mpr ⟨id, concludes.maps, rfl⟩
    · rw [made, Cache.setEntry, Heap.get_set_self concludes.known]
    · rw [made, Cache.setEntry, Heap.get_set_self concludes.known]

/-- A lone fetch on a clock that is driven by hand runs its producer. -/
structure Renders (fetch : Fetch) (text : String) (elapsed : Duration) (cache : Cache)
    (clocks : List Clock) : Prop where
  reachable : cache.Reachable
  enough : 10 ≤ clocks.length
  driven : clocks.IsChain fun earlier later => ∃ amount, earlier.advance amount = .ok later
  ran : fetch.productions text elapsed (start, cache) (clocks.map Clock.moment) = 1

/-- A producer moves the clock too far: its content is not returned, and the lock is left behind. -/
theorem not_always_produced :
    (¬ ∀ (fetch : Fetch) text elapsed cache clocks, fetch.Renders text elapsed cache clocks →
      (fetch.solo text elapsed (start, cache) (clocks.map Clock.moment)).1.ending? =
        some (.fetched (.produced text))) ∧
    ¬ ∀ (fetch : Fetch) text elapsed cache clocks, fetch.Renders text elapsed cache clocks →
      ∀ entry, (fetch.solo text elapsed (start, cache) (clocks.map Clock.moment)).2.stored? fetch.key =
        some entry → entry.hold = none := by
  let fetch : Fetch := ⟨⟨1⟩, "k", .standard ⟨5⟩⟩
  let cache := (Traffic.opened (fun _ => 0) 1 Nat.one_pos ⟨9⟩).cache
  let clock : Clock := ⟨.zero, ⟨0⟩⟩
  let moved : Clock := ⟨.ofSeconds 18446744073709551615, ⟨0⟩⟩
  -- The producer is the third step.
  let clocks := List.replicate 3 clock ++ List.replicate 7 moved
  have renders : fetch.Renders "x" .zero cache clocks := {
    reachable := ⟨_, 1, Nat.one_pos, ⟨9⟩, by decide, [], rfl⟩
    enough := by decide
    driven := by
      refine List.isChain_append.mpr ⟨List.isChain_replicate_of_rel 3 ⟨.zero, by decide⟩,
        List.isChain_replicate_of_rel 7 ⟨.zero, by decide +kernel⟩, ?_⟩
      intro last isLast next isNext
      obtain rfl : clock = last := by simpa [clock] using isLast
      obtain rfl : moved = next := by simpa [moved] using isNext
      exact ⟨.ofSeconds 18446744073709551615, by decide +kernel⟩
    ran := by decide +kernel }
  constructor
  · intro always
    have produced := always fetch "x" .zero cache clocks renders
    have crashed : (fetch.solo "x" .zero (start, cache) (clocks.map Clock.moment)).1.ending? =
        some (.crashed ClockFault.instantBeyondPlatform.message) := by decide +kernel
    rw [crashed] at produced
    cases produced
  · intro always
    have unlocked := always fetch "x" .zero cache clocks renders
    have left : ((fetch.solo "x" .zero (start, cache) (clocks.map Clock.moment)).2.stored? "k").map
        Entry.hold = some (some ⟨⟨1⟩, ⟨0⟩⟩) := by decide +kernel
    obtain ⟨entry, there, held⟩ := Option.map_eq_some_iff.mp left
    rw [unlocked entry there] at held
    cases held

end Fetch

end SingleFlight
