import SingleFlight.Proofs.Entry.Attempts
import SingleFlight.Proofs.Traffic.Openings
import SingleFlight.Proofs.Traffic.Origins

namespace SingleFlight.Traffic
variable {traffic start : Traffic} {moves : List Move} {move : Move} {entry : EntryId}

/-- A holder's commit on an entry, with or without its reading. -/
def writesText (traffic : Traffic) (move : Move) (entry : EntryId) (text : String) : Prop :=
  traffic.written? move = some entry ∧ move.text? = some text

/-- A holder's commit returns true, or fails with its reading. -/
theorem commits_or_breaksOn {text : String} (writes : traffic.writesText move entry text) :
    traffic.commits move entry text ∨ traffic.breaksOn move entry := by
  obtain ⟨target, gives⟩ := writes
  obtain ⟨action, moment⟩ := move
  cases action with
  | commit caller name content tag =>
      obtain rfl : content = text := by simpa [Move.text?] using gives
      simp only [written?] at target
      split at target
      · next may =>
          obtain rfl := Option.some.inj target
          obtain ⟨shown, held⟩ := Bool.and_eq_true_iff.mp may
          rcases (traffic.state name).commit_cases caller content tag moment.monotonic with
            ⟨other, -⟩ | ⟨-, fault, -, fails⟩ | ⟨-, now, -, returns⟩
          · rw [held] at other
            cases other
          · exact .inr ⟨caller, content, tag, fault, rfl, shown, by rw [fails]⟩
          · exact .inl ⟨caller, tag, rfl, shown, by rw [returns]⟩
      · cases target
  | _ => simp [written?] at target

/-- The entry of a holder's commit is one that threads can see. -/
theorem isShown_of_written (writes : traffic.written? move = some entry) : traffic.isShown entry = true := by
  unfold written? at writes
  split at writes
  · split at writes
    · next may =>
        obtain rfl := Option.some.inj writes
        exact (Bool.and_eq_true_iff.mp may).1
    · cases writes
  · cases writes

/-- A commit that returns true has read the clock. -/
theorem not_breaksOn_of_commits {text : String} (commits : traffic.commits move entry text) :
    ¬ traffic.breaksOn move entry := by
  rintro ⟨thread, content, tag, fault, asks, -, fails⟩
  obtain ⟨caller, label, also, -, returns⟩ := commits
  cases asks.symm.trans also
  rw [fails] at returns
  cases returns

/-- A commit that fails with its reading is one by the holder. -/
theorem writesText_of_breaksOn (breaks : traffic.breaksOn move entry) :
    ∃ text, traffic.writesText move entry text := by
  obtain ⟨thread, content, tag, fault, asks, shown, fails⟩ := breaks
  have held := (Entry.commit_of_fault _ _ fails).2.1
  exact ⟨content, by simp [written?, asks, shown, held], by simp [Move.text?, asks]⟩

/-- After a holder's commit there is a content. -/
theorem content_of_writesText {text : String} (writes : traffic.writesText move entry text)
    (known : traffic.cache.heap.holds entry = true) :
    ((traffic.take move).state entry).content = some text := by
  rw [content_take (holds_take move known), if_pos writes.1, writes.2]

/-- A content stays, or another one takes its place. -/
theorem content_stays (known : traffic.cache.heap.holds entry = true)
    (filled : (traffic.state entry).content ≠ none) (move : Move) :
    ((traffic.take move).state entry).content ≠ none := by
  rw [content_take (holds_take move known), if_neg (Heap.ne_next_of_holds _ known)]
  split
  · next target =>
      obtain ⟨action, moment⟩ := move
      cases action <;> simp [written?, Move.text?] at target ⊢
  · exact filled

/-- A commit by the holder leaves some content for good. -/
theorem filled_of_breaksOn {hash : String → Nat} {count : Nat} {positive : 0 < count} {ceiling : Duration}
    (breaks : (opened hash count positive ceiling).Occurs moves (·.breaksOn · entry)) :
    (((opened hash count positive ceiling).run moves).state entry).content ≠ none := by
  induction moves using List.reverseRecOn with
  | nil =>
      obtain ⟨passed, move, begins, -⟩ := breaks
      simp at begins
  | append_singleton moves move ih =>
      rw [run_append, run_cons, run_nil]
      have known (shown : ((opened hash count positive ceiling).run moves).isShown entry = true) :=
        holds_of_isShown shown
      rcases occurs_concat_iff.mp breaks with before | now
      · refine content_stays ?_ (ih before) move
        by_contra unknown
        have blank := ih before
        rw [state, Heap.get_of_not_holds (by simpa using unknown)] at blank
        exact blank rfl
      · obtain ⟨text, writes⟩ := writesText_of_breaksOn now
        obtain ⟨_, _, _, _, _, shown, _⟩ := now
        rw [content_of_writesText writes (known shown)]
        simp

/-- A gate is open exactly over content, unless commits failed and none came through. -/
theorem isTidy_iff (hash : String → Nat) (count : Nat) (positive : 0 < count) (ceiling : Duration)
    (moves : List Move) (entry : EntryId) :
    (((opened hash count positive ceiling).run moves).state entry).IsTidy ↔
      (opened hash count positive ceiling).Occurs moves (·.fills · entry) ∨
        ¬ (opened hash count positive ceiling).Occurs moves (·.breaksOn · entry) := by
  have gate := gateOpen_iff hash count positive ceiling moves entry
  have sound := sound_run_opened hash count positive ceiling moves
  by_cases isOpen : (((opened hash count positive ceiling).run moves).state entry).gateOpen = true
  · have filled := sound.served entry isOpen
    refine iff_of_true ?_ (.inl (gate.mp isOpen))
    rw [Entry.IsTidy, isOpen, Option.isSome_iff_ne_none.mpr filled]
  · rw [← gate, or_iff_right isOpen]
    constructor
    · intro tidy breaks
      have filled := filled_of_breaksOn breaks
      rw [Entry.IsTidy, Option.isSome_iff_ne_none.mpr filled] at tidy
      exact isOpen tidy
    · intro whole
      have empty : (((opened hash count positive ceiling).run moves).state entry).content = none := by
        by_contra filled
        exact whole (breaksOn_of_withholds ⟨filled, by simpa using isOpen⟩)
      rw [Entry.IsTidy, empty]
      simpa using isOpen

/-- The commit that brought an entry's content, there or where it was copied. -/
def Brings (start : Traffic) (moves passed : List Move) (move : Move) (entry : EntryId) : Prop :=
  passed ++ [move] <+: moves ∧ (start.origins moves).content entry = some passed.length

/-- The last commit on an entry by the holder of its lock. -/
def LastWrite (start : Traffic) (moves passed : List Move) (move : Move) (entry : EntryId) : Prop :=
  ∃ later, moves = passed ++ move :: later ∧ (start.run passed).written? move = some entry ∧
    ¬ (start.run (passed ++ [move])).Occurs later fun traffic other => traffic.written? other = some entry

/-- What the record names is a commit by the holder of a lock. -/
theorem written_of_origin {number : Nat}
    (named : (start.origins moves).content entry = some number ∨
      ∃ call, (start.origins moves).copied call = some number) :
    ∃ passed move target, passed ++ [move] <+: moves ∧ passed.length = number ∧
      (start.run passed).written? move = some target := by
  induction moves using List.reverseRecOn generalizing entry number with
  | nil => rcases named with named | ⟨call, named⟩ <;> cases named
  | append_singleton moves move ih =>
      have earlier (named : (∃ entry, (start.origins moves).content entry = some number) ∨
          ∃ call, (start.origins moves).copied call = some number) :
          ∃ passed last target, passed ++ [last] <+: moves ++ [move] ∧ passed.length = number ∧
            (start.run passed).written? last = some target := by
        obtain ⟨passed, last, target, begins, length, writes⟩ : ∃ passed last target,
            passed ++ [last] <+: moves ∧ passed.length = number ∧
              (start.run passed).written? last = some target := by
          rcases named with ⟨entry, named⟩ | named
          · exact ih (.inl named)
          · exact @ih entry number (.inr named)
        exact ⟨passed, last, target, begins.trans (List.prefix_append _ _), length, writes⟩
      rw [origins_concat] at named
      simp only [Origins.take] at named
      rcases named with named | ⟨call, named⟩
      · split at named
        · next writes => exact ⟨moves, move, entry, List.prefix_rfl, Option.some.inj named, writes⟩
        · split at named
          · obtain ⟨made, -, named⟩ := Option.bind_eq_some_iff.mp named
            exact earlier (.inr ⟨made.1, named⟩)
          · exact earlier (.inl ⟨entry, named⟩)
      · split at named
        · next source _ => exact earlier (.inl ⟨source, named⟩)
        · exact earlier (.inr ⟨call, named⟩)

/-- Every content has been committed by the holder of a lock. -/
theorem brings_of_content (hash : String → Nat) (count : Nat) (positive : 0 < count) (ceiling : Duration)
    (moves : List Move) (entry : EntryId) {text : String}
    (filled : (((opened hash count positive ceiling).run moves).state entry).content = some text) :
    ∃ passed move target, (opened hash count positive ceiling).Brings moves passed move entry ∧
      ((opened hash count positive ceiling).run passed).writesText move target text := by
  have known : ((opened hash count positive ceiling).run moves).cache.heap.holds entry = true := by
    by_contra unknown
    rw [state, Heap.get_of_not_holds (by simpa using unknown)] at filled
    cases filled
  have recorded := (recorded_run hash count positive ceiling moves).content entry known
  obtain ⟨number, named, told⟩ := Option.bind_eq_some_iff.mp (recorded.symm.trans filled)
  obtain ⟨passed, move, target, ⟨later, rfl⟩, rfl, writes⟩ := written_of_origin (.inl named)
  refine ⟨passed, move, target, ⟨List.prefix_append _ _, named⟩, writes, ?_⟩
  simpa [textAt] using told

/-- An entry's content is that of the last commit by a holder. -/
theorem LastWrite.brings {passed : List Move} (last : start.LastWrite moves passed move entry) :
    start.Brings moves passed move entry := by
  obtain ⟨later, rfl, writes, untouched⟩ := last
  have known := holds_of_isShown (isShown_of_written writes)
  refine ⟨⟨later, by simp⟩, ?_⟩
  induction later using List.reverseRecOn with
  | nil =>
      rw [origins_concat]
      simp only [Origins.take, writes, if_true]
  | append_singleton later other ih =>
      rw [occurs_concat_iff, not_or] at untouched
      have before := ih untouched.1
      have split : passed ++ move :: (later ++ [other]) = passed ++ move :: later ++ [other] := by simp
      have there : (start.run (passed ++ move :: later)).cache.heap.holds entry = true := by
        rw [run_append]
        exact holds_run known _
      have idle : (start.run (passed ++ move :: later)).written? other ≠ some entry := by
        have same : start.run (passed ++ move :: later) = (start.run (passed ++ [move])).run later := by simp
        rw [same]
        exact untouched.2
      rw [split, origins_concat]
      simp only [Origins.take, if_neg idle, if_neg (Heap.ne_next_of_holds _ there)]
      exact before

/-- Without a reading only commits leave something, and only their gates may be closed over content. -/
theorem only_commits_tear (hash : String → Nat) (count : Nat) (positive : 0 < count) (ceiling : Duration)
    (moves : List Move) (entry : EntryId) :
    let start := opened hash count positive ceiling
    let state := (start.run moves).state entry
    (∀ caller task, state.IsTimeless caller task ∨ state.Fails caller task (state.leftBy task)) ∧
    (∀ task, state.leftBy task = state ↔ ∀ content condition, task = .change (.commit content condition) →
      state.content = some content ∧ state.tag = Tag.normalized condition) ∧
    (state.IsTidy ↔ start.Occurs moves (·.fills · entry) ∨ ¬ start.Occurs moves (·.breaksOn · entry)) ∧
    (∀ caller condition ttl now, ∃ copy,
      state.attempt caller (.copy condition ttl) (.ok now) = (.ok (.copy copy), state) ∧
        copy.IsTidy ∧ copy.served = state.content) ∧
    (∀ text, state.content = some text → ∃ passed move target,
      start.Brings moves passed move entry ∧ (start.run passed).writesText move target text ∧
        ((start.run passed).commits move target text ↔ ¬ (start.run passed).breaksOn move target)) ∧
    ∀ passed move, start.LastWrite moves passed move entry → start.Brings moves passed move entry := by
  intro start state
  refine ⟨state.timeless_or_fails, Entry.leftBy_eq_iff, isTidy_iff hash count positive ceiling moves entry,
    ?_, ?_, fun _ _ => LastWrite.brings⟩
  · intro caller condition ttl now
    refine ⟨Entry.seeded state.content (Tag.normalized condition) ttl state.maxLockHold now, rfl, rfl, ?_⟩
    cases filled : state.content <;> rfl
  · intro text filled
    obtain ⟨passed, move, target, brings, writes⟩ :=
      brings_of_content hash count positive ceiling moves entry filled
    exact ⟨passed, move, target, brings, writes, ⟨not_breaksOn_of_commits, (commits_or_breaksOn writes).resolve_right⟩⟩

/-- A thread has taken the lock of a new entry. -/
def locked : List Move :=
  [.timed 0 (.begin (.lookup ⟨"k", none, ⟨5⟩⟩)), .timed 0 (.proceed 0), .timed 0 (.acquire ⟨1⟩ ⟨0⟩ .forced)]

/-- It commits, and the clock cannot be read. -/
def interruption : Move := ⟨.commit ⟨1⟩ ⟨0⟩ "x" none, ⟨.error .instantBeyondPlatform, .ok ⟨0⟩⟩⟩

/-- The gate is closed over a content. A copy fails too, or serves it once the clock is read. -/
theorem only_commits_tear_of_interrupted :
    let start := opened (fun _ => 0) 1 Nat.one_pos ⟨9⟩
    let state := (start.run (locked ++ [interruption])).state ⟨0⟩
    start.Brings (locked ++ [interruption]) locked interruption ⟨0⟩ ∧ ¬ state.IsTidy ∧
      state.Fails ⟨2⟩ (.copy none ⟨5⟩) state ∧
      ∃ copy, state.attempt ⟨2⟩ (.copy none ⟨5⟩) (.ok ⟨0⟩) = (.ok (.copy copy), state) ∧
        copy.served = some "x" := by
  intro start state
  obtain ⟨tears, -, -, copies, -, last⟩ :=
    only_commits_tear (fun _ => 0) 1 Nat.one_pos ⟨9⟩ (locked ++ [interruption]) ⟨0⟩
  refine ⟨last _ _ ⟨[], rfl, by decide +kernel, ?_⟩, by simp only [Entry.IsTidy]; decide +kernel, ?_, ?_⟩
  · rintro ⟨passed, move, begins, -⟩
    simp at begins
  · apply (tears ⟨2⟩ (.copy none ⟨5⟩)).resolve_left
    rintro ⟨answer, after, timeless⟩
    cases timeless (.error .instantBeyondPlatform)
  · obtain ⟨copy, made, -, served⟩ := copies ⟨2⟩ none ⟨5⟩ ⟨0⟩
    exact ⟨copy, made, served.trans (by decide +kernel)⟩

/-- A task without its reading may change the entry, and close the gate over content. -/
theorem not_always_whole :
    (¬ ∀ (hash : String → Nat) (count : Nat) (positive : 0 < count) (ceiling : Duration) (moves : List Move)
      (entry : EntryId) (caller : ThreadId) (task : EntryTask) (fault : ClockFault),
      let state := ((opened hash count positive ceiling).run moves).state entry
      (state.attempt caller task (.error fault)).1.isOk = true ∨
        (state.attempt caller task (.error fault)).2 = state) ∧
    ¬ ∀ (hash : String → Nat) (count : Nat) (positive : 0 < count) (ceiling : Duration) (moves : List Move)
      (entry : EntryId), (((opened hash count positive ceiling).run moves).state entry).IsTidy := by
  constructor
  · intro always
    have spared := always (fun _ => 0) 1 Nat.one_pos ⟨9⟩ locked ⟨0⟩ ⟨1⟩ (.change (.commit "x" none))
      .instantBeyondPlatform
    revert spared
    decide +kernel
  · intro always
    have tidy := always (fun _ => 0) 1 Nat.one_pos ⟨9⟩ (locked ++ [interruption]) ⟨0⟩
    simp only [Entry.IsTidy] at tidy
    revert tidy
    decide +kernel

end SingleFlight.Traffic
