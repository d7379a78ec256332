import SingleFlight.Proofs.Entry.Cases
import SingleFlight.Proofs.Entry.History

namespace SingleFlight

/-- All that a thread can ask of an entry that may need the time. -/
inductive EntryTask where
  | change (operation : EntryOperation)
  | isAbandoned
  | isDisposable
  | copy (condition : Option String) (ttl : Duration)
  deriving DecidableEq, Repr

/-- What a thread gets from an entry. -/
inductive EntryAnswer where
  | nothing
  | flag (holds : Bool)
  | copy (made : Entry)
  deriving DecidableEq, Repr

namespace Entry

/-- A lock operation by a thread at a reading. -/
def attemptChange (entry : Entry) (caller : ThreadId) (operation : LockOperation) (reading : Reading) :
    Except ClockFault EntryAnswer × Entry :=
  match operation with
  | .acquire request =>
    let (outcome, next) := entry.acquire caller request reading
    (outcome.map fun outcome => .flag outcome.held, next)
  | .commit content tag =>
    let (outcome, next) := entry.commit caller content tag reading
    (outcome.map .flag, next)
  | .release => (.ok .nothing, entry.release caller)

/-- What a thread asks of an entry at a reading. -/
def attempt (entry : Entry) (caller : ThreadId) (task : EntryTask) (reading : Reading) :
    Except ClockFault EntryAnswer × Entry :=
  match task with
  | .change operation => entry.attemptChange caller operation.onLock reading
  | .isAbandoned => ((entry.tellAbandoned reading).map .flag, entry)
  | .isDisposable => ((entry.tellDisposable reading).map .flag, entry)
  | .copy condition ttl => ((entry.copyAt (Tag.normalized condition) ttl reading).map .copy, entry)

/-- The entry after a task that has failed; only a commit has written by then. -/
def leftBy (entry : Entry) : EntryTask → Entry
  | .change (.commit content condition) =>
    { entry with content := some content, tag := Tag.normalized condition }
  | _ => entry

/-- A task does not need the time. -/
def IsTimeless (entry : Entry) (caller : ThreadId) (task : EntryTask) : Prop :=
  ∃ answer after, ∀ reading, entry.attempt caller task reading = (.ok answer, after)

/-- A task fails with its reading and leaves the entry in a state. -/
def Fails (entry : Entry) (caller : ThreadId) (task : EntryTask) (after : Entry) : Prop :=
  ∀ fault, entry.attempt caller task (.error fault) = (.error fault, after)

/-- An acquisition needs the time if nobody holds the lock. -/
theorem attemptChange_acquire (entry : Entry) (caller : ThreadId) (request : Request) :
    (∃ answer, ∀ reading, entry.attemptChange caller (.acquire request) reading = (.ok answer, entry)) ∨
      ∀ fault, entry.attemptChange caller (.acquire request) (.error fault) = (.error fault, entry) := by
  cases held : entry.hold with
  | some hold =>
      refine .inl ⟨.flag (if hold.owner = caller then Acquisition.reentrant else .heldElsewhere).held, ?_⟩
      intro reading
      simp only [attemptChange, acquire, held, Except.map]
  | none =>
      refine .inr fun fault => ?_
      simp only [attemptChange, acquire, held, Except.map]

/-- A commit by the holder needs the time, and has written when it looks. -/
theorem attemptChange_commit (entry : Entry) (caller : ThreadId) (content : String) (tag : Option Tag) :
    (∀ reading, entry.attemptChange caller (.commit content tag) reading = (.ok (.flag false), entry)) ∨
      ∀ fault, entry.attemptChange caller (.commit content tag) (.error fault) =
        (.error fault, { entry with content := some content, tag := tag }) := by
  cases held : entry.isHeldBy caller with
  | false =>
      refine .inl fun reading => ?_
      simp [attemptChange, commit_eq, held, Except.map]
  | true =>
      refine .inr fun fault => ?_
      simp [attemptChange, commit_eq, held, Except.map]

/-- A task whose reading fails completes, or fails with what it has written. -/
theorem timeless_or_fails (entry : Entry) (caller : ThreadId) (task : EntryTask) :
    entry.IsTimeless caller task ∨ entry.Fails caller task (entry.leftBy task) := by
  have acquired (operation : EntryOperation) (request : Request)
      (asks : operation.onLock = .acquire request) (kept : entry.leftBy (.change operation) = entry) :
      entry.IsTimeless caller (.change operation) ∨
        entry.Fails caller (.change operation) (entry.leftBy (.change operation)) := by
    rw [kept, IsTimeless, Fails]
    simp only [attempt, asks]
    rcases attemptChange_acquire entry caller request with ⟨answer, same⟩ | fails
    · exact .inl ⟨answer, entry, same⟩
    · exact .inr fails
  cases task with
  | change operation =>
      cases operation with
      | tryAcquire condition => exact acquired (.tryAcquire condition) _ rfl rfl
      | forceAcquire => exact acquired .forceAcquire _ rfl rfl
      | commit content condition =>
          rcases attemptChange_commit entry caller content (Tag.normalized condition) with same | fails
          · exact .inl ⟨.flag false, entry, same⟩
          · exact .inr fails
      | release => exact .inl ⟨.nothing, entry.release caller, fun _ => rfl⟩
  | isAbandoned | isDisposable | copy condition ttl => exact .inr fun _ => rfl

/-- Only a failed commit of something else leaves an entry changed. -/
theorem leftBy_eq_iff {entry : Entry} (task : EntryTask) : entry.leftBy task = entry ↔
    ∀ content condition, task = .change (.commit content condition) →
      entry.content = some content ∧ entry.tag = Tag.normalized condition := by
  constructor
  · rintro same content condition rfl
    rw [← same]
    exact ⟨rfl, rfl⟩
  · intro same
    unfold leftBy
    split
    · next content condition =>
        obtain ⟨content, tag⟩ := same content condition rfl
        rw [← content, ← tag]
    · rfl

end Entry

end SingleFlight
