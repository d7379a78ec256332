import SingleFlight.Proofs.Traffic.Condemned

namespace SingleFlight

namespace Call

/-- What a call carries it has copied out of its entry. -/
theorem found?_of_carried? {call : Call} {heap : Heap} {key : String} {entry : EntryId}
    {copied : Option String} (carried : call.carried? heap = some (key, entry, copied)) :
    call.found? = some entry := by
  unfold carried? at carried
  split at carried <;> simp_all [found?]

/-- What a call carries stays the same as long as its candidate does. -/
theorem carried?_congr {call : Call} {before after : Heap}
    (same : ∀ entry, call.candidate? = some entry → after.get entry = before.get entry) :
    call.carried? after = call.carried? before := by
  unfold carried?
  split
  · rfl
  · next asked found candidate => rw [same candidate rfl]
  · rfl

namespace Effect
variable {call next : Call} {moment : Moment} {cache after : Cache}

/-- A call carries what it has carried, or what it has just copied. -/
theorem carried_cases (effect : call.Effect moment cache next after) {key : String}
    {entry : EntryId} {copied : Option String}
    (carried : next.carried? after.heap = some (key, entry, copied)) :
    call.carried? cache.heap = some (key, entry, copied) ∨
      copied = (cache.heap.get entry).content := by
  cases effect with
  | quiet _ _ _ _ _ copies => exact .inr (copies key entry copied carried)
  | stamped starts =>
      subst starts
      left
      simpa [carried?, Entry.seeded] using carried
  | _ => cases carried

/-- After a step a key keeps its entry, or gets a carried copy. -/
theorem lookup_carried (effect : call.Effect moment cache next after) {key : String}
    {entry other : EntryId} (maps : cache.store.lookup key = some entry)
    (later : after.store.lookup key = some other) :
    other = entry ∨
      (call.candidate? = some other ∧
        call.carried? cache.heap = some (key, entry, (cache.heap.get other).content) ∧
        after.heap = cache.heap ∧ next.found? = none) := by
  cases effect with
  | quiet mapping =>
      rw [mapping, maps] at later
      exact .inl (Option.some.inj later).symm
  | created starts absent =>
      rw [Store.lookup_create] at later
      split at later
      · next same => rw [same, absent] at maps; cases maps
      · rw [maps] at later
        exact .inl (Option.some.inj later).symm
  | stamped =>
      rw [maps] at later
      exact .inl (Option.some.inj later).symm
  | copied =>
      rw [maps] at later
      exact .inl (Option.some.inj later).symm
  | replaced starts vacant =>
      rw [Store.lookup_replace] at later
      split at later
      · next same =>
          subst same starts
          rw [maps] at vacant
          obtain rfl := Option.some.inj (vacant.resolve_right (by simp))
          obtain rfl := Option.some.inj later
          exact .inr ⟨rfl, rfl, rfl, rfl⟩
      · rw [maps] at later
        exact .inl (Option.some.inj later).symm
  | evicted starts current =>
      rw [Store.lookup_evict] at later
      split at later
      · cases later
      · rw [maps] at later
        exact .inl (Option.some.inj later).symm
  | removed starts mapping =>
      rcases mapping key with same | gone
      · rw [same, maps] at later
        exact .inl (Option.some.inj later).symm
      · rw [gone] at later
        cases later

end Effect

end Call

/-- Only a commit by the holder changes the content of an entry. -/
theorem Move.content_applied (move : Move) (entry : Entry)
    (idle : ∀ thread target content tag, move.action = .commit thread target content tag →
      entry.isHeldBy thread = false) : (move.applied entry).content = entry.content := by
  unfold applied
  split
  · unfold Entry.acquire
    repeat' split
    all_goals rfl
  · next asks => simp [Entry.commit_eq, idle _ _ _ _ asks]
  · unfold Entry.release
    split <;> rfl
  all_goals rfl

namespace Traffic
variable {traffic : Traffic} {key content : String}

/-- A commit by the holder of a key's entry; it writes even if its reading fails. -/
def writes (traffic : Traffic) (key : String) (move : Move) : Prop :=
  ∃ thread entry content tag, move.action = .commit thread entry content tag ∧
    traffic.lookup key = some entry ∧ (traffic.state entry).isHeldBy thread = true

/-- Moves that neither take a key out nor write to its entry. -/
structure Rests (traffic : Traffic) (key : String) (moves : List Move) : Prop where
  present : traffic.Throughout moves fun later => later.lookup key ≠ none
  unwritten : ∀ passed move, passed ++ [move] <+: moves → ¬ (traffic.run passed).writes key move

/-- A key serves a content until it is taken out or written. -/
def Durable (traffic : Traffic) (key content : String) : Prop :=
  ∀ moves, traffic.Rests key moves → ∃ current, (traffic.run moves).lookup key = some current ∧
    ((traffic.run moves).state current).content = some content

/-- A key serves a content, and no call is about to displace it. -/
def Carries (traffic : Traffic) (key content : String) : Prop :=
  ∃ current, traffic.lookup key = some current ∧
    (traffic.state current).content = some content ∧
    ∀ call ∈ traffic.calls, ∀ copied,
      call.carried? traffic.cache.heap = some (key, current, copied) → copied = some content

theorem Rests.cons {move : Move} {rest : List Move} (present : traffic.lookup key ≠ none)
    (unwritten : ¬ traffic.writes key move) (rests : (traffic.take move).Rests key rest) :
    traffic.Rests key (move :: rest) where
  present passed inside := by
    cases passed with
    | nil => exact present
    | cons first passed =>
        obtain ⟨rfl, inner⟩ := List.cons_prefix_cons.mp inside
        exact rests.present passed inner
  unwritten passed last inside := by
    cases passed with
    | nil =>
        obtain ⟨rfl, -⟩ := List.cons_prefix_cons.mp inside
        exact unwritten
    | cons first passed =>
        obtain ⟨rfl, inner⟩ := List.cons_prefix_cons.mp inside
        exact rests.unwritten passed last inner

theorem Rests.tail {move : Move} {rest : List Move} (rests : traffic.Rests key (move :: rest)) :
    (traffic.take move).lookup key ≠ none ∧ ¬ traffic.writes key move ∧
      (traffic.take move).Rests key rest := by
  have later := (throughout_cons rests.present).2
  refine ⟨later [] List.nil_prefix, rests.unwritten [] move (by simp), later, ?_⟩
  intro passed last inside
  exact rests.unwritten (move :: passed) last ((List.prefix_cons_inj move).mpr inside)

/-- A step of a call keeps what a key serves. -/
theorem Carries.proceeded (carries : traffic.Carries key content) (sound : traffic.Sound)
    {number : Nat} {call next : Call} {moment : Moment} {cache : Cache}
    (place : traffic.calls[number]? = some call)
    (effect : call.Effect moment traffic.cache next cache)
    (present : cache.store.lookup key ≠ none) :
    (⟨cache, traffic.calls.set number next⟩ : Traffic).Carries key content := by
  obtain ⟨current, maps, serves, carried⟩ := carries
  obtain ⟨other, later⟩ := Option.ne_none_iff_exists'.mp present
  have inside : call ∈ traffic.calls := List.mem_of_getElem? place
  have known := holds_of_isShown (sound.mapped key current maps)
  have same (others : Call) (there : others ∈ traffic.calls) :
      others.carried? cache.heap = others.carried? traffic.cache.heap :=
    Call.carried?_congr fun entry made => (effect.keeps (sound.hidden others there entry made).1).2
  rcases effect.lookup_carried maps later with rfl | ⟨candidate, takes, heap, unused⟩
  · refine ⟨other, later, ?_, ?_⟩
    · exact (congrArg Entry.content (effect.keeps known).2).trans serves
    · intro others there copied carries
      rcases mem_set_calls there with rfl | ⟨_, -, old⟩
      · rcases effect.carried_cases carries with before | now
        · exact carried call inside copied before
        · exact now.trans serves
      · have old := List.mem_of_getElem? old
        rw [same others old] at carries
        exact carried others old copied carries
  · refine ⟨other, later, ?_, ?_⟩
    · show (cache.heap.get other).content = some content
      rw [heap]
      exact carried call inside _ takes
    · intro others there copied carries
      rcases mem_set_calls there with rfl | ⟨_, -, old⟩
      · rw [Call.found?_of_carried? carries] at unused
        cases unused
      · -- No call works on an entry that was hidden until now.
        have old := List.mem_of_getElem? old
        have seen := sound.found others old other (Call.found?_of_carried? carries)
        exact (Sound.ne_of_shown inside candidate seen rfl).elim

/-- A lock operation that does not write keeps what a key serves. -/
theorem Carries.operated (carries : traffic.Carries key content) {move : Move} {entry : EntryId}
    (target : move.target? = some entry)
    (shown : traffic.isShown entry = true) (unwritten : ¬ traffic.writes key move) :
    (⟨traffic.cache.setEntry entry (move.applied (traffic.state entry)), traffic.calls⟩ :
      Traffic).Carries key content := by
  obtain ⟨current, maps, serves, carried⟩ := carries
  have known := holds_of_isShown shown
  have states := Change.state_operated traffic (move.applied (traffic.state entry)) known
  refine ⟨current, maps, ?_, ?_⟩
  · show ((traffic.cache.setEntry entry _).heap.get current).content = some content
    rw [states current]
    split
    · next same =>
        subst same
        rw [move.content_applied, serves]
        intro thread target' content tag asks
        by_contra held
        obtain rfl : target' = current := by simpa [Move.target?, asks] using target
        exact unwritten ⟨thread, target', content, tag, asks, maps, by simpa using held⟩
    · exact serves
  · intro call inside copied carries
    have mine : call ∈ traffic.calls := inside
    refine carried call mine copied ?_
    rw [← carries]
    refine (Call.carried?_congr fun candidate made => ?_).symm
    rw [states candidate, if_neg (Sound.ne_of_shown mine made shown)]
    rfl

/-- A move that neither takes out nor writes a key keeps its content. -/
theorem Carries.take (carries : traffic.Carries key content) (sound : traffic.Sound) {move : Move}
    (present : (traffic.take move).lookup key ≠ none) (unwritten : ¬ traffic.writes key move) :
    (traffic.take move).Carries key content := by
  have change := traffic.change_take move
  generalize traffic.take move = after at change present
  cases change with
  | nothing => exact carries
  | begun _ _ _ unloaded =>
      obtain ⟨current, maps, serves, carried⟩ := carries
      exact ⟨current, maps, serves,
        List.forall_mem_append.mpr ⟨carried, by simp [unloaded]⟩⟩
  | proceeded place effect => exact carries.proceeded sound place effect present
  | operated target shown => exact carries.operated target shown unwritten
  | evicted =>
      obtain ⟨current, maps, serves, carried⟩ := carries
      refine ⟨current, ?_, serves, carried⟩
      simp only [lookup, Store.lookup_evict] at present ⊢
      split at present
      · exact (present rfl).elim
      · next kept => rw [if_neg kept]; exact maps

/-- What a key serves lasts until the key is removed or written. -/
theorem Carries.durable (carries : traffic.Carries key content) (sound : traffic.Sound) :
    traffic.Durable key content := by
  intro moves rests
  induction moves generalizing traffic with
  | nil =>
      obtain ⟨current, maps, serves, -⟩ := carries
      exact ⟨current, maps, serves⟩
  | cons move rest ih =>
      obtain ⟨present, unwritten, later⟩ := rests.tail
      exact ih (carries.take sound present unwritten) (sound.take move) later

/-- A durable content is there now. -/
theorem Durable.serves (durable : traffic.Durable key content)
    (present : traffic.lookup key ≠ none) :
    ∃ current, traffic.lookup key = some current ∧
      (traffic.state current).content = some content := by
  refine durable [] ⟨fun passed inside => ?_, fun passed move inside => ?_⟩
  · rw [List.prefix_nil.mp inside]
    exact present
  · simp at inside

/-- A durable content outlasts a move that does not write it. -/
theorem Durable.take (durable : traffic.Durable key content) (present : traffic.lookup key ≠ none)
    {move : Move} (unwritten : ¬ traffic.writes key move) :
    (traffic.take move).Durable key content :=
  fun moves rests => durable (move :: moves) (rests.cons present unwritten)

/-- The next step of a call does not write to an entry. -/
theorem not_writes_proceed (number : Nat) (moment : Moment) :
    ¬ traffic.writes key ⟨.proceed number, moment⟩ := by
  rintro ⟨thread, entry, content, tag, asks, -⟩
  cases asks

/-- The copy of a lookup at its swap has the durable content. -/
theorem Durable.content_of_swapping (durable : traffic.Durable key content) {number : Nat}
    {asked : Lookup} {entry candidate : EntryId} (named : asked.key = key)
    (place : traffic.calls[number]? = some (.lookup asked (.swapping entry candidate)))
    (maps : traffic.lookup key = some entry) (moment : Moment) :
    (traffic.state candidate).content = some content := by
  subst named
  have present : traffic.lookup asked.key ≠ none := by simp [maps]
  have swapped := take_swapping place maps moment
  have placed : (traffic.take ⟨.proceed number, moment⟩).lookup asked.key = some candidate := by
    simp [swapped, lookup, Store.lookup_replace]
  have next := durable.take present (not_writes_proceed number moment)
  obtain ⟨current, later, serves⟩ := next.serves (by simp [placed])
  obtain rfl := Option.some.inj (placed.symm.trans later)
  simpa [swapped, state] using serves

/-- What a lookup carries to the key is the durable content. -/
theorem Durable.carried_eq (durable : traffic.Durable key content) {call : Call}
    (inside : call ∈ traffic.calls) {entry : EntryId} (maps : traffic.lookup key = some entry)
    {copied : Option String}
    (carried : call.carried? traffic.cache.heap = some (key, entry, copied)) :
    copied = some content := by
  obtain ⟨number, place⟩ := List.mem_iff_getElem?.mp inside
  have bound := (List.getElem?_eq_some_iff.mp place).1
  -- The lookup goes on at once, at any time that can be read.
  obtain ⟨moment, read⟩ : ∃ moment : Moment, moment.monotonic = .ok ⟨0⟩ :=
    ⟨⟨.ok ⟨0⟩, .ok ⟨0⟩⟩, rfl⟩
  unfold Call.carried? at carried
  split at carried
  · next asked found held =>
      obtain ⟨rfl, rfl, rfl⟩ : asked.key = key ∧ found = entry ∧ held = copied := by
        simpa using carried
      have stamped := take_stamping place read
      have made : (traffic.take ⟨.proceed number, moment⟩).calls[number]? =
          some (.lookup asked (.swapping found traffic.cache.heap.next)) := by
        simp [stamped, bound]
      have still : (traffic.take ⟨.proceed number, moment⟩).lookup asked.key = some found := by
        simpa [stamped, lookup] using maps
      have next := durable.take (by simp [maps]) (not_writes_proceed number moment)
      have serves := next.content_of_swapping rfl made still moment
      simpa [stamped, state, Entry.seeded] using serves
  · next asked found candidate =>
      obtain ⟨rfl, rfl, rfl⟩ : asked.key = key ∧ found = entry ∧
          (traffic.cache.heap.get candidate).content = copied := by simpa using carried
      exact durable.content_of_swapping rfl place maps moment
  · cases carried

/-- A commit changes its entry's content, and no call and no key. -/
theorem commits_spec {move : Move} {entry : EntryId}
    (committed : traffic.commits move entry content) :
    (traffic.take move).calls = traffic.calls ∧
      (traffic.take move).cache.store = traffic.cache.store ∧
      ((traffic.take move).state entry).content = some content := by
  obtain ⟨thread, tag, asks, shown, outcome⟩ := committed
  have known := holds_of_isShown shown
  have change : traffic.take move = ⟨traffic.cache.setEntry entry
      ((traffic.state entry).commit thread content tag move.moment.monotonic).2,
      traffic.calls⟩ := by
    simp [take, asks, onEntry, shown, state]
  rw [change]
  refine ⟨rfl, rfl, ?_⟩
  have states := Change.state_operated traffic
    ((traffic.state entry).commit thread content tag move.moment.monotonic).2 known entry
  rw [if_pos rfl] at states
  refine (congrArg Entry.content states).trans ?_
  rw [Entry.commit_eq] at outcome ⊢
  split
  · cases read : move.moment.monotonic <;> rfl
  · next other => rw [if_neg other] at outcome; cases outcome

/-- A commit lasts exactly if no lookup under way has copied another content out of its entry. -/
theorem commit_durable {hash : String → Nat} {count : Nat} {positive : 0 < count}
    {ceiling : Duration} {before : List Move} {move : Move} {entry : EntryId}
    (stored : ((opened hash count positive ceiling).run before).lookup key = some entry)
    (committed : ((opened hash count positive ceiling).run before).commits move entry content) :
    let traffic := (opened hash count positive ceiling).run (before ++ [move])
    traffic.Durable key content ↔
      ∀ call ∈ traffic.calls, ∀ copied,
        call.carried? traffic.cache.heap = some (key, entry, copied) → copied = some content := by
  intro traffic
  have sound : traffic.Sound := sound_run_opened hash count positive ceiling (before ++ [move])
  have opening : traffic = ((opened hash count positive ceiling).run before).take move :=
    run_append _ _ _
  obtain ⟨-, store, serves⟩ := commits_spec committed
  rw [← opening] at store serves
  have maps : traffic.lookup key = some entry := (congrArg (Store.lookup · key) store).trans stored
  constructor
  · intro durable call inside copied carried
    exact durable.carried_eq inside maps carried
  · intro carried
    have carries : traffic.Carries key content := ⟨entry, maps, serves, carried⟩
    exact carries.durable sound

/-- The first content of a new entry lasts. -/
theorem commit_durable_after_creation :
    let moves := [Move.timed 0 (.begin (.lookup ⟨"k", none, ⟨5⟩⟩)), .timed 0 (.proceed 0),
      .timed 1 (.acquire ⟨1⟩ ⟨0⟩ (.ifStale none)), .timed 2 (.commit ⟨1⟩ ⟨0⟩ "x" none)]
    ((opened (fun _ => 0) 1 Nat.one_pos ⟨9⟩).run moves).Durable "k" "x" := by
  intro moves
  have before : moves = [Move.timed 0 (.begin (.lookup ⟨"k", none, ⟨5⟩⟩)), .timed 0 (.proceed 0),
      .timed 1 (.acquire ⟨1⟩ ⟨0⟩ (.ifStale none))] ++ [.timed 2 (.commit ⟨1⟩ ⟨0⟩ "x" none)] := rfl
  rw [before]
  have stored : ((opened (fun _ => 0) 1 Nat.one_pos ⟨9⟩).run
      [Move.timed 0 (.begin (.lookup ⟨"k", none, ⟨5⟩⟩)), .timed 0 (.proceed 0),
        .timed 1 (.acquire ⟨1⟩ ⟨0⟩ (.ifStale none))]).lookup "k" = some ⟨0⟩ := by decide +kernel
  refine (commit_durable stored ?_).mpr ?_
  · exact ⟨⟨1⟩, none, rfl, by decide +kernel, by rfl⟩
  · have unloaded : ∀ call ∈ ((opened (fun _ => 0) 1 Nat.one_pos ⟨9⟩).run moves).calls,
        call.carried? ((opened (fun _ => 0) 1 Nat.one_pos ⟨9⟩).run moves).cache.heap = none := by
      decide +kernel
    intro call inside copied carried
    have nothing := unloaded call inside
    exact absurd (nothing.symm.trans carried) (by simp)

/-- A lookup with a copy of the missing content overtakes the holder's commit. -/
theorem not_always_durable :
    ¬ ∀ hash count, ∀ positive : 0 < count, ∀ ceiling before move key entry content,
      ((opened hash count positive ceiling).run before).lookup key = some entry →
      ((opened hash count positive ceiling).run before).commits move entry content →
      ((opened hash count positive ceiling).run (before ++ [move])).Durable key content := by
  intro always
  let before := [Move.timed 0 (.begin (.lookup ⟨"k", none, ⟨5⟩⟩)), .timed 0 (.proceed 0),
    .timed 0 (.acquire ⟨1⟩ ⟨0⟩ .forced), .timed 9 (.begin (.lookup ⟨"k", none, ⟨5⟩⟩)),
    .timed 9 (.proceed 1), .timed 9 (.proceed 1), .timed 9 (.proceed 1), .timed 9 (.proceed 1)]
  let move := Move.timed 9 (.commit ⟨1⟩ ⟨0⟩ "x" none)
  have stored : ((opened (fun _ => 0) 1 Nat.one_pos ⟨9⟩).run before).lookup "k" = some ⟨0⟩ := by
    decide +kernel
  have committed : ((opened (fun _ => 0) 1 Nat.one_pos ⟨9⟩).run before).commits move ⟨0⟩ "x" :=
    ⟨⟨1⟩, none, rfl, by decide +kernel, by decide +kernel⟩
  have durable := always (fun _ => 0) 1 Nat.one_pos ⟨9⟩ before move "k" ⟨0⟩ "x" stored committed
  have maps : ((opened (fun _ => 0) 1 Nat.one_pos ⟨9⟩).run (before ++ [move])).lookup "k" =
      some ⟨0⟩ := by decide +kernel
  have carries : ∃ call ∈ ((opened (fun _ => 0) 1 Nat.one_pos ⟨9⟩).run (before ++ [move])).calls,
      call.carried? ((opened (fun _ => 0) 1 Nat.one_pos ⟨9⟩).run (before ++ [move])).cache.heap =
        some ("k", ⟨0⟩, none) := by decide +kernel
  obtain ⟨call, inside, carried⟩ := carries
  have lost := durable.carried_eq inside maps carried
  cases lost

end Traffic

end SingleFlight
