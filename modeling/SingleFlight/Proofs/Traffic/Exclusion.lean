import SingleFlight.Proofs.Traffic.Condemned

namespace SingleFlight

namespace Traffic

/-- Nothing happens to a key's locked entry before its lock is due. -/
structure UnderLock (traffic : Traffic) (key : String) (entry : EntryId) (hold : Hold)
    (ceiling : Duration) (due : Prop) : Prop where
  known : traffic.cache.heap.holds entry = true
  held : (traffic.state entry).hold = some hold
  bounded : (traffic.state entry).maxLockHold = ceiling
  judged : ∀ call ∈ traffic.calls, ∀ now, call.reading? = some now →
    now.nanos < (hold.deadline ceiling).nanos ∨ due
  condemned : ∀ call ∈ traffic.calls, call.condemned? = some (key, entry) → due
  stored : traffic.lookup key = some entry ∨ due
  gentle : ∀ call ∈ traffic.calls, call.isRemoval = false

namespace UnderLock
variable {traffic : Traffic} {key : String} {entry : EntryId} {hold : Hold} {ceiling : Duration}
  {due : Prop}

/-- A call's step leaves the key alone unless the lock is due. -/
theorem proceeded (safe : traffic.UnderLock key entry hold ceiling due)
    (nonzero : ceiling ≠ .zero) {move : Move} {number : Nat} {call next : Call} {cache : Cache}
    (place : traffic.calls[number]? = some call)
    (effect : call.Effect move.moment traffic.cache next cache)
    (kind : next.isRemoval = call.isRemoval)
    (late : ∀ now, move.instant? = some now →
      (hold.deadline ceiling).nanos ≤ now.nanos → due) :
    (⟨cache, traffic.calls.set number next⟩ : Traffic).UnderLock key entry hold ceiling due := by
  have inside : call ∈ traffic.calls := List.mem_of_getElem? place
  have kept := effect.keeps safe.known
  exact {
    known := kept.1
    held := (congrArg Entry.hold kept.2).trans safe.held
    bounded := (congrArg Entry.maxLockHold kept.2).trans safe.bounded
    judged := by
      intro other there now known
      rcases mem_set_calls there with rfl | ⟨place, -, old⟩
      · have read : move.instant? = some now := Move.instant?_of_read (effect.reading_eq known)
        by_cases early : now.nanos < (hold.deadline ceiling).nanos
        · exact .inl early
        · exact .inr (late now read (Nat.le_of_not_lt early))
      · exact safe.judged other (List.mem_of_getElem? old) now known
    condemned := by
      intro other there known
      rcases mem_set_calls there with rfl | ⟨place, -, old⟩
      · rcases effect.condemned_cases known with before | ⟨now, read, disposable⟩
        · exact safe.condemned call inside before
        · have bound : (traffic.state entry).maxLockHold ≠ .zero := by rwa [safe.bounded]
          have passed := Entry.deadline_le_of_isDisposable safe.held bound disposable
          rw [safe.bounded] at passed
          exact (safe.judged call inside now read).resolve_left (Nat.not_lt.mpr passed)
      · exact safe.condemned other (List.mem_of_getElem? old) known
    stored := by
      rcases safe.stored with maps | already
      · rcases effect.lookup_kept maps with same | condemned | removal
        · exact .inl same
        · exact .inr (safe.condemned call inside condemned)
        · rw [safe.gentle call inside] at removal
          cases removal
      · exact .inr already
    gentle := by
      intro other there
      rcases mem_set_calls there with rfl | ⟨place, -, old⟩
      · rw [kind]
        exact safe.gentle call inside
      · exact safe.gentle other (List.mem_of_getElem? old) }

/-- While the lock is held a move leaves the key alone unless it is due. -/
theorem take (safe : traffic.UnderLock key entry hold ceiling due) (nonzero : ceiling ≠ .zero)
    {move : Move} (gentle : move.removes = false)
    (late : ∀ now, move.instant? = some now → (hold.deadline ceiling).nanos ≤ now.nanos → due)
    (still : ((traffic.take move).state entry).isLocked = true) :
    (traffic.take move).UnderLock key entry hold ceiling due := by
  have change := traffic.change_take move
  generalize traffic.take move = after at change still
  cases change with
  | nothing => exact safe
  | @begun call _ _ reading _ condemned removal =>
      have explicit : call.isRemoval = false := by
        by_contra is
        rw [removal (by simpa using is)] at gentle
        cases gentle
      exact {
        known := safe.known
        held := safe.held
        bounded := safe.bounded
        judged := List.forall_mem_append.mpr ⟨safe.judged, by simp [reading]⟩
        condemned := List.forall_mem_append.mpr ⟨safe.condemned, by simp [condemned]⟩
        stored := safe.stored
        gentle := List.forall_mem_append.mpr ⟨safe.gentle, by simp [explicit]⟩ }
  | proceeded place effect kind => exact safe.proceeded nonzero place effect kind late
  | @operated target asks shown =>
      have there := holds_of_isShown shown
      have states := Change.state_operated traffic (move.applied (traffic.state target)) there entry
      by_cases same : entry = target
      · subst same
        rw [if_pos rfl] at states
        have locked : (move.applied (traffic.state entry)).isLocked = true := by
          rw [← states]
          exact still
        exact {
          known := by simpa [Cache.setEntry] using safe.known
          held := (congrArg Entry.hold states).trans (move.hold_applied safe.held locked)
          bounded := (congrArg Entry.maxLockHold states).trans
            ((move.continues_applied _).ceiling.trans safe.bounded)
          judged := safe.judged
          condemned := safe.condemned
          stored := safe.stored
          gentle := safe.gentle }
      · rw [if_neg same] at states
        exact {
          known := by simpa [Cache.setEntry] using safe.known
          held := (congrArg Entry.hold states).trans safe.held
          bounded := (congrArg Entry.maxLockHold states).trans safe.bounded
          judged := safe.judged
          condemned := safe.condemned
          stored := safe.stored
          gentle := safe.gentle }
  | evicted removal => rw [removal] at gentle; cases gentle

/-- While the lock is held a run leaves the key alone unless it is due. -/
theorem run (safe : traffic.UnderLock key entry hold ceiling due) (nonzero : ceiling ≠ .zero)
    {moves : List Move} (gentle : ∀ move ∈ moves, move.removes = false)
    (late : ∀ move ∈ moves, ∀ now, move.instant? = some now →
      (hold.deadline ceiling).nanos ≤ now.nanos → due)
    (still : traffic.Throughout moves fun later => (later.state entry).isLocked = true) :
    (traffic.run moves).UnderLock key entry hold ceiling due := by
  induction moves generalizing traffic with
  | nil => exact safe
  | cons move rest ih =>
      have after := (throughout_cons still).2
      have next := safe.take nonzero (gentle move List.mem_cons_self)
        (late move List.mem_cons_self) (after [] List.nil_prefix)
      exact ih next (fun other there => gentle other (List.mem_cons_of_mem move there))
        (fun other there => late other (List.mem_cons_of_mem move there)) after

end UnderLock

variable {traffic : Traffic} {key : String} {entry : EntryId} {hold : Hold} {ceiling : Duration}

/-- Moves during which a thread keeps a lock, without explicit removals. -/
structure Keeps (traffic : Traffic) (holder : ThreadId) (entry : EntryId) (moves : List Move) :
    Prop where
  gentle : ∀ move ∈ moves, move.removes = false
  kept : traffic.Throughout moves fun later => (later.state entry).isHeldBy holder = true

/-- Before the deadline nobody else is granted the lock of the key's entry. -/
def Exclusive (traffic : Traffic) (past : List Move) (key : String) (entry : EntryId) (hold : Hold)
    (ceiling : Duration) : Prop :=
  ∀ between move rival other time, traffic.Keeps hold.owner entry between →
    Forward (past ++ between ++ [move]) → (traffic.run between).lookup key = some other →
    (traffic.run between).grants move rival other time → rival ≠ hold.owner →
    (hold.deadline ceiling).nanos ≤ time.nanos

/-- The key maps to its entry until the clock has shown the deadline. -/
def Lasting (traffic : Traffic) (past : List Move) (key : String) (entry : EntryId) (hold : Hold)
    (ceiling : Duration) : Prop :=
  ∀ between, traffic.Keeps hold.owner entry between → Forward (past ++ between) →
    (traffic.run between).lookup key = some entry ∨
      ∃ move ∈ between, ∃ now, move.instant? = some now ∧
        (hold.deadline ceiling).nanos ≤ now.nanos

/-- A grant changes the lock of its entry, and no call and no key. -/
theorem grants_spec {grant : Move} {holder : ThreadId} {start : Instant}
    (granted : traffic.grants grant holder entry start) :
    (traffic.take grant).calls = traffic.calls ∧
      (traffic.take grant).cache.store = traffic.cache.store ∧
      (traffic.take grant).cache.heap.holds entry = true ∧
      ((traffic.take grant).state entry).hold = some ⟨holder, start⟩ := by
  obtain ⟨request, asks, read, shown, outcome⟩ := granted
  have known := holds_of_isShown shown
  have change : traffic.take grant = ⟨traffic.cache.setEntry entry
      ((traffic.state entry).acquire holder request (.ok start)).2, traffic.calls⟩ := by
    simp [take, asks, onEntry, shown, read, state]
  rw [change]
  refine ⟨rfl, rfl, by simpa [Cache.setEntry] using known, ?_⟩
  have states := Change.state_operated traffic
    ((traffic.state entry).acquire holder request (.ok start)).2 known entry
  rw [if_pos rfl] at states
  refine (congrArg Entry.hold states).trans ?_
  cases held : (traffic.state entry).hold with
  | some hold =>
      rw [Entry.acquire, held] at outcome
      dsimp only at outcome
      split at outcome <;> cases outcome
  | none =>
      rw [Entry.acquire, held] at outcome ⊢
      dsimp only at outcome ⊢
      split
      · rfl
      · next refused => rw [if_neg refused] at outcome; cases outcome

/-- A locked entry is not granted to another thread. -/
theorem not_grants_of_held (held : (traffic.state entry).hold = some hold) {move : Move}
    {rival : ThreadId} {time : Instant} : ¬ traffic.grants move rival entry time := by
  rintro ⟨request, -, -, -, outcome⟩
  rw [Entry.acquire, held] at outcome
  dsimp only at outcome
  split at outcome <;> cases outcome

/-- An unlocked entry of a key is granted to whoever forces it. -/
theorem grants_of_unlocked (sound : traffic.Sound) (maps : traffic.lookup key = some entry)
    (unlocked : (traffic.state entry).hold = none) (rival : ThreadId) {moment : Moment}
    {time : Instant} (read : moment.monotonic = .ok time) :
    traffic.grants ⟨.acquire rival entry .forced, moment⟩ rival entry time := by
  refine ⟨.forced, rfl, read, sound.mapped key entry maps, ?_⟩
  simp [Entry.acquire, unlocked, Entry.grants]

/-- Moves aside leave the lock with its holder. -/
theorem keeps_of_aside (known : traffic.cache.heap.holds entry = true)
    (held : (traffic.state entry).hold = some hold) {moves : List Move} {moment : Moment}
    (aside : ∀ move ∈ moves, move.Aside moment) : traffic.Keeps hold.owner entry moves where
  gentle move inside := (aside move inside).removes
  kept passed inside := by
    have same := state_run_aside known fun move there => aside move (inside.subset there)
    simp [same, Entry.isHeldBy, held]

section Grant
variable {hash : String → Nat} {count : Nat} {positive : 0 < count} {before : List Move}
  {grant : Move} {holder : ThreadId} {start : Instant}

/-- A granted entry stays until due, unless a call has condemned it before. -/
theorem underLock_of_grant (nonzero : ceiling ≠ .zero)
    (gentle : ∀ move ∈ before, move.removes = false) (clock : Forward (before ++ [grant]))
    (stored : ((opened hash count positive ceiling).run before).lookup key = some entry)
    (granted : ((opened hash count positive ceiling).run before).grants grant holder entry start)
    (free : ∀ call ∈ ((opened hash count positive ceiling).run (before ++ [grant])).calls,
      call.condemned? ≠ some (key, entry)) (due : Prop) :
    ((opened hash count positive ceiling).run (before ++ [grant])).UnderLock key entry
      ⟨holder, start⟩ ceiling due := by
  have sound := sound_run_opened hash count positive ceiling (before ++ [grant])
  obtain ⟨calls, store, known, held⟩ := grants_spec granted
  have asked : grant.instant? = some start := by
    obtain ⟨request, -, read, -⟩ := granted
    exact Move.instant?_of_read read
  rw [run_append] at free sound ⊢
  exact {
    known := known
    held := held
    bounded := by
      refine (sound.ceiling entry known).trans ?_
      exact (ceiling_run _ [grant]).trans (ceiling_run _ before)
    judged := by
      intro call inside now reading
      have there : call ∈ ((opened hash count positive ceiling).run before).calls := by
        rw [← calls]
        exact inside
      rcases origin_of_run _ _ reading_origin _ before call there reading with
        ⟨old, none, -⟩ | ⟨move, earlier, shown⟩
      · cases none
      · left
        exact Nat.lt_of_le_of_lt (clock.le_last earlier shown asked)
          (Hold.since_lt_deadline ⟨holder, start⟩ nonzero)
    condemned := fun call inside condemned => (free call inside condemned).elim
    stored := by
      left
      show (((opened hash count positive ceiling).run before).take grant).cache.store.lookup key = _
      rw [store]
      exact stored
    gentle := by
      intro call inside
      have there : call ∈ ((opened hash count positive ceiling).run before).calls := by
        rw [← calls]
        exact inside
      by_contra explicit
      rcases origin_of_run _ _ removal_origin _ before call there (by simpa using explicit) with
        ⟨old, none, -⟩ | ⟨move, earlier, removes⟩
      · cases none
      · rw [gentle move earlier] at removes
        cases removes }

/-- While the lock is kept a run leaves the key alone or comes to the deadline. -/
theorem underLock_of_keeps (nonzero : ceiling ≠ .zero)
    (gentle : ∀ move ∈ before, move.removes = false) (clock : Forward (before ++ [grant]))
    (stored : ((opened hash count positive ceiling).run before).lookup key = some entry)
    (granted : ((opened hash count positive ceiling).run before).grants grant holder entry start)
    (free : ∀ call ∈ ((opened hash count positive ceiling).run (before ++ [grant])).calls,
      call.condemned? ≠ some (key, entry)) {between : List Move}
    (keeps : ((opened hash count positive ceiling).run (before ++ [grant])).Keeps holder entry
      between) :
    (((opened hash count positive ceiling).run (before ++ [grant])).run between).UnderLock key entry
      ⟨holder, start⟩ ceiling (∃ move ∈ between, ∃ now, move.instant? = some now ∧
        (Hold.deadline ⟨holder, start⟩ ceiling).nanos ≤ now.nanos) := by
  have begins := underLock_of_grant nonzero gentle clock stored granted free
  refine (begins _).run nonzero keeps.gentle ?_ ?_
  · intro move inside now read late
    exact ⟨move, inside, now, read, late⟩
  · intro passed inside
    exact Entry.isLocked_of_isHeldBy (keeps.kept passed inside)

/-- A call that has condemned a key's entry may let another one in at once. -/
theorem takeover_of_condemned
    (clock : Forward (before ++ [grant]))
    (stored : ((opened hash count positive ceiling).run before).lookup key = some entry)
    (granted : ((opened hash count positive ceiling).run before).grants grant holder entry start)
    {call : Call}
    (inside : call ∈ ((opened hash count positive ceiling).run (before ++ [grant])).calls)
    (condemned : call.condemned? = some (key, entry)) :
    ∃ between other rival, rival ≠ holder ∧
      ((opened hash count positive ceiling).run (before ++ [grant])).Keeps holder entry between ∧
      Forward (before ++ [grant] ++ between ++ [⟨.acquire rival other .forced, grant.moment⟩]) ∧
      (((opened hash count positive ceiling).run (before ++ [grant])).run between).lookup key =
        some other ∧
      (((opened hash count positive ceiling).run (before ++ [grant])).run between).grants
        ⟨.acquire rival other .forced, grant.moment⟩ rival other start := by
  have sound := sound_run_opened hash count positive ceiling (before ++ [grant])
  obtain ⟨-, store, known, held⟩ := grants_spec granted
  have read : grant.moment.monotonic = .ok start := by
    obtain ⟨request, -, read, -⟩ := granted
    exact read
  have shows (move : Move) (same : move.moment = grant.moment) : move.instant? = some start :=
    Move.instant?_of_read (same ▸ read)
  have opening : (opened hash count positive ceiling).run (before ++ [grant]) =
      ((opened hash count positive ceiling).run before).take grant := run_append _ _ _
  rw [← opening] at known held store
  have maps : ((opened hash count positive ceiling).run (before ++ [grant])).lookup key =
      some entry := (congrArg (Store.lookup · key) store).trans stored
  obtain ⟨between, aside, other, next, unlocked⟩ :=
    takenOver_of_condemned sound inside condemned maps read
  have still (move : Move) (there : move ∈ between) := shows move (aside move there).shown
  refine ⟨between, other, ⟨holder.index + 1⟩, ?_, keeps_of_aside known held aside, ?_,
    next, grants_of_unlocked (sound.run between) next unlocked _ read⟩
  · intro same
    simpa using congrArg ThreadId.index same
  · rw [List.append_assoc]
    refine clock.stand (shows grant rfl) fun move there => ?_
    rcases List.mem_append.mp there with old | new
    · exact still move old
    · exact shows move (by rw [List.mem_singleton.mp new])

/-- A grant excludes all others until its deadline, unless a call has already condemned the entry. -/
theorem single_flight (nonzero : ceiling ≠ .zero)
    (gentle : ∀ move ∈ before, move.removes = false) (clock : Forward (before ++ [grant]))
    (stored : ((opened hash count positive ceiling).run before).lookup key = some entry)
    (granted : ((opened hash count positive ceiling).run before).grants grant holder entry start)
    (free : ∀ call ∈ ((opened hash count positive ceiling).run (before ++ [grant])).calls,
      call.condemned? ≠ some (key, entry)) :
    let traffic := (opened hash count positive ceiling).run (before ++ [grant])
    traffic.Exclusive (before ++ [grant]) key entry ⟨holder, start⟩ ceiling ∧
      traffic.Lasting (before ++ [grant]) key entry ⟨holder, start⟩ ceiling := by
  refine ⟨?_, ?_⟩
  · intro between move rival other time keeps forward next taken apart
    have later := underLock_of_keeps nonzero gentle clock stored granted free keeps
    rcases later.stored with same | ⟨late, inside, now, read, passed⟩
    · obtain rfl := Option.some.inj (same.symm.trans next)
      exact (not_grants_of_held later.held taken).elim
    · obtain ⟨request, -, shows, -⟩ := taken
      have last := Move.instant?_of_read shows
      have there := List.mem_append_right (before ++ [grant]) inside
      exact Nat.le_trans passed (forward.le_last there read last)
  · intro between keeps _
    exact (underLock_of_keeps nonzero gentle clock stored granted free keeps).stored

/-- The condition of single flight is needed: a call that has condemned the entry lets another thread in. -/
theorem free_of_exclusive (nonzero : ceiling ≠ .zero) (clock : Forward (before ++ [grant]))
    (stored : ((opened hash count positive ceiling).run before).lookup key = some entry)
    (granted : ((opened hash count positive ceiling).run before).grants grant holder entry start)
    (exclusive : ((opened hash count positive ceiling).run (before ++ [grant])).Exclusive
      (before ++ [grant]) key entry ⟨holder, start⟩ ceiling) :
    ∀ call ∈ ((opened hash count positive ceiling).run (before ++ [grant])).calls,
      call.condemned? ≠ some (key, entry) := by
  intro call inside condemned
  obtain ⟨between, other, rival, apart, keeps, forward, next, taken⟩ :=
    takeover_of_condemned clock stored granted inside condemned
  have early := Hold.since_lt_deadline ⟨holder, start⟩ nonzero
  exact Nat.not_le.mpr early (exclusive between _ rival other start keeps forward next taken apart)

end Grant

/-- The first thread with the lock of a new entry has it alone. -/
theorem exclusive_after_creation :
    let past := [Move.timed 0 (.begin (.lookup ⟨"k", none, ⟨5⟩⟩)), .timed 0 (.proceed 0),
      .timed 1 (.acquire ⟨1⟩ ⟨0⟩ (.ifStale none))]
    ((opened (fun _ => 0) 1 Nat.one_pos ⟨9⟩).run past).Exclusive past "k" ⟨0⟩ ⟨⟨1⟩, ⟨1⟩⟩ ⟨9⟩ := by
  intro past
  have before : past = [Move.timed 0 (.begin (.lookup ⟨"k", none, ⟨5⟩⟩)), .timed 0 (.proceed 0)] ++
      [.timed 1 (.acquire ⟨1⟩ ⟨0⟩ (.ifStale none))] := rfl
  rw [before]
  refine (single_flight (by decide) (by decide) ?_ (by decide) ?_ (by decide)).1
  · simp [Forward, Move.timed, Move.instant?, Except.toOption]
  · exact ⟨.ifStale none, rfl, rfl, by decide, by rfl⟩

/-- A lookup has found a lock abandoned, and overtakes the next holder. -/
theorem not_always_exclusive :
    ¬ ∀ hash count, ∀ positive : 0 < count, ∀ ceiling before grant key entry holder start,
      ceiling ≠ .zero → (∀ move ∈ before, Move.removes move = false) →
      Forward (before ++ [grant]) →
      ((opened hash count positive ceiling).run before).lookup key = some entry →
      ((opened hash count positive ceiling).run before).grants grant holder entry start →
      ((opened hash count positive ceiling).run (before ++ [grant])).Exclusive (before ++ [grant])
        key entry ⟨holder, start⟩ ceiling := by
  intro always
  let before := [Move.timed 0 (.begin (.lookup ⟨"k", none, ⟨5⟩⟩)), .timed 0 (.proceed 0),
    .timed 0 (.acquire ⟨1⟩ ⟨0⟩ .forced), .timed 9 (.begin (.lookup ⟨"k", none, ⟨5⟩⟩)),
    .timed 9 (.proceed 1), .timed 9 (.proceed 1), .timed 9 (.proceed 1),
    .timed 9 (.release ⟨1⟩ ⟨0⟩)]
  let grant := Move.timed 9 (.acquire ⟨2⟩ ⟨0⟩ .forced)
  have clock : Forward (before ++ [grant]) := by
    simp [before, grant, Forward, Move.timed, Move.instant?, Except.toOption]
  have stored : ((opened (fun _ => 0) 1 Nat.one_pos ⟨9⟩).run before).lookup "k" = some ⟨0⟩ := by
    decide +kernel
  have granted : ((opened (fun _ => 0) 1 Nat.one_pos ⟨9⟩).run before).grants grant ⟨2⟩ ⟨0⟩ ⟨9⟩ :=
    ⟨.forced, rfl, rfl, by decide +kernel, by decide +kernel⟩
  have exclusive := always (fun _ => 0) 1 Nat.one_pos ⟨9⟩ before grant "k" ⟨0⟩ ⟨2⟩ ⟨9⟩ (by decide)
    (by decide) clock stored granted
  have condemned : ∃ call ∈ ((opened (fun _ => 0) 1 Nat.one_pos ⟨9⟩).run (before ++ [grant])).calls,
      call.condemned? = some ("k", ⟨0⟩) := by decide +kernel
  obtain ⟨call, inside, known⟩ := condemned
  exact free_of_exclusive (by decide) clock stored granted exclusive call inside known

end Traffic

end SingleFlight
