import SingleFlight.Gate
import SingleFlight.Proofs.Entry.LockHistory

namespace SingleFlight

/-- A condition as a text, of which the empty one means none. -/
def givenText (condition : Option String) : Option String := condition.filter (· ≠ "")

namespace Tag

/-- The text of a normalized condition is the text that was given. -/
theorem text_normalized (condition : Option String) :
    (normalized condition).map Tag.text = givenText condition := by
  cases condition with
  | none => rfl
  | some text =>
      by_cases empty : text = "" <;> simp [normalized, ofText?, givenText, Option.filter, empty]

theorem text_injective : Function.Injective Tag.text := by
  rintro ⟨text, nonempty⟩ ⟨other, _⟩ (rfl : text = other)
  rfl

/-- Conditions are normalized to one tag exactly if the texts are equal. -/
theorem normalized_eq_iff (first second : Option String) :
    normalized first = normalized second ↔ givenText first = givenText second := by
  rw [← text_normalized, ← text_normalized]
  exact (Option.map_injective text_injective).eq_iff.symm

end Tag

/-- An operation that can change an entry, with conditions as texts. -/
inductive EntryOperation where
  | tryAcquire (condition : Option String)
  | forceAcquire
  | commit (content : String) (condition : Option String)
  | release
  deriving DecidableEq, Repr

/-- The operation once its condition is normalized. -/
def EntryOperation.onLock : EntryOperation → LockOperation
  | .tryAcquire condition => .acquire (.ifStale (Tag.normalized condition))
  | .forceAcquire => .acquire .forced
  | .commit content condition => .commit content (Tag.normalized condition)
  | .release => .release

/-- An operation by a thread; `now` is what the clock shows if it is read. -/
structure EntryUse where
  caller : ThreadId
  operation : EntryOperation
  now : Instant
  deriving DecidableEq, Repr

namespace EntryUse

def lockCall (use : EntryUse) : LockCall := ⟨use.caller, use.operation.onLock, use.now⟩

/-- The entry after an operation. -/
def after (use : EntryUse) (entry : Entry) : Entry := use.lockCall.after entry

/-- What an operation returns. A release returns nothing. -/
def answer (use : EntryUse) (entry : Entry) : Option Bool := use.lockCall.answer entry

end EntryUse

/-- An operation that is over, and what it has returned. -/
structure Deed where
  use : EntryUse
  answer : Option Bool
  deriving DecidableEq, Repr

/-- What an entry was made from: nothing, or the content of another one. -/
inductive Origin where
  | new (maxLockHold : Duration)
  | clone (source : Entry)

namespace Origin

def content : Origin → Option String
  | .new _ => none
  | .clone source => source.content

def maxLockHold : Origin → Duration
  | .new ceiling => ceiling
  | .clone source => source.maxLockHold

/-- The entry at its construction. -/
def entry (origin : Origin) (condition : Option String) (ttl : Duration) (made : Instant) : Entry :=
  match origin with
  | .new ceiling => Entry.fresh (Tag.normalized condition) ttl ceiling made
  | .clone source =>
    Entry.seeded source.content (Tag.normalized condition) ttl source.maxLockHold made

end Origin

/-- A content, its condition, and the time from which on it counts. -/
structure Version where
  content : Option String
  condition : Option String
  time : Instant
  deriving DecidableEq, Repr

/-- A commit that returned true brings a new version. -/
def Version.next (version : Version) (deed : Deed) : Version :=
  match deed.use.operation with
  | .commit content condition =>
    if deed.answer = some true then ⟨some content, condition, deed.use.now⟩ else version
  | .tryAcquire _ | .forceAcquire | .release => version

/-- The version after a history. -/
def Version.latest (seed : Version) (history : List Deed) : Version :=
  history.foldl Version.next seed

/-- A grant opens on a true acquisition by another; its thread's commit or release closes it. -/
def Hold.next (current : Option Hold) (deed : Deed) : Option Hold :=
  match deed.use.operation with
  | .tryAcquire _ | .forceAcquire =>
    if deed.answer = some true ∧ current.map Hold.owner ≠ some deed.use.caller then
      some ⟨deed.use.caller, deed.use.now⟩
    else current
  | .commit _ _ => if deed.answer = some true then none else current
  | .release => if current.map Hold.owner = some deed.use.caller then none else current

/-- The open grant after a history, with the reading at which it was made. -/
def Hold.latest (current : Option Hold) (history : List Deed) : Option Hold :=
  history.foldl Hold.next current

namespace Entry

/-- The entry after operations one after the other. -/
def afterUses (entry : Entry) (uses : List EntryUse) : Entry :=
  uses.foldl (fun entry use => use.after entry) entry

/-- The operations on an entry, one after the other, with what they returned. -/
def history (entry : Entry) : List EntryUse → List Deed
  | [] => []
  | use :: rest => ⟨use, use.answer entry⟩ :: (use.after entry).history rest

/-- An entry is in the state that its history tells. -/
structure Tells (entry : Entry) (ttl ceiling : Duration) (version : Version)
    (grant : Option Hold) : Prop where
  content : entry.content = version.content
  tag : entry.tag = Tag.normalized version.condition
  updated : entry.updated = version.time
  gate : entry.gateOpen = version.content.isSome
  hold : entry.hold = grant
  ttl : entry.ttl = ttl
  ceiling : entry.maxLockHold = ceiling

/-- All that an entry shows and decides, by its version and its grant. -/
structure Shows (entry : Entry) (ttl ceiling : Duration) (version : Version)
    (grant : Option Hold) : Prop where
  content : entry.content = version.content
  condition : entry.tag.map Tag.text = givenText version.condition
  updated : entry.updated = version.time
  initialized : entry.gateOpen = true ↔ version.content ≠ none
  served : ∀ text, version.content = some text → ∀ timeout,
    Reader.arriving.look timeout entry = .returned (.ok text)
  owner : entry.owner? = grant.map Hold.owner
  /-- An unlocked entry is granted exactly if its version is stale. -/
  granted : entry.isLocked = false → ∀ caller condition now,
    (EntryUse.answer ⟨caller, .tryAcquire condition, now⟩ entry = some true ↔
      version.content = none ∨ ttl ≤ now.since version.time ∨
        givenText version.condition ≠ none ∧ givenText version.condition ≠ givenText condition)
  denied : ∀ use : EntryUse, use.answer entry = some false → use.after entry = entry
  abandoned : ∀ now, entry.isAbandoned now = true ↔
    ∃ hold, grant = some hold ∧ ceiling ≤ now.since hold.since
  disposable : ∀ now, entry.isDisposable now = true ↔
    (∃ hold, grant = some hold ∧ ceiling ≤ now.since hold.since) ∨
      grant = none ∧ ttl ≤ now.since version.time

section
variable {entry : Entry} {ttl ceiling : Duration} {version : Version} {grant : Option Hold}

/-- An acquisition leaves the version, and grants exactly if it opens a grant. -/
theorem Tells.acquire (tells : entry.Tells ttl ceiling version grant) (caller : ThreadId)
    (request : Request) (now : Instant) :
    let call : LockCall := ⟨caller, .acquire request, now⟩
    (call.after entry).Tells ttl ceiling version
      (if call.answer entry = some true ∧ grant.map Hold.owner ≠ some caller then
        some ⟨caller, now⟩ else grant) := by
  intro call
  obtain ⟨content, tag, updated, gate, rfl, lasts, bound⟩ := tells
  cases held : entry.hold with
  | some hold =>
      have same : call.after entry = entry := by simp [call, LockCall.after, Entry.acquire, held]
      have kept : ¬ (call.answer entry = some true ∧ some hold.owner ≠ some caller) := by
        by_cases own : hold.owner = caller <;>
          simp [call, LockCall.answer, Entry.acquire, held, own, Except.toOption, Acquisition.held]
      rw [same, Option.map_some, if_neg kept]
      exact ⟨content, tag, updated, gate, held, lasts, bound⟩
  | none =>
      by_cases granted : entry.grants request now = true
      · have after : call.after entry = { entry with hold := some ⟨caller, now⟩ } := by
          simp [call, LockCall.after, Entry.acquire, held, granted]
        have answer : call.answer entry = some true := by
          simp [call, LockCall.answer, Entry.acquire, held, granted, Except.toOption,
            Acquisition.held]
        rw [after, if_pos ⟨answer, by simp⟩]
        exact ⟨content, tag, updated, gate, rfl, lasts, bound⟩
      · have same : call.after entry = entry := by
          simp [call, LockCall.after, Entry.acquire, held, granted]
        have answer : call.answer entry = some false := by
          simp [call, LockCall.answer, Entry.acquire, held, granted, Except.toOption,
            Acquisition.held]
        rw [same, if_neg (by simp [answer])]
        exact ⟨content, tag, updated, gate, held, lasts, bound⟩

/-- Every operation keeps an entry in the state that its history tells. -/
theorem Tells.use (tells : entry.Tells ttl ceiling version grant) (use : EntryUse) :
    (use.after entry).Tells ttl ceiling (version.next ⟨use, use.answer entry⟩)
      (Hold.next grant ⟨use, use.answer entry⟩) := by
  obtain ⟨caller, operation, now⟩ := use
  cases operation with
  | tryAcquire condition => exact tells.acquire caller (.ifStale (Tag.normalized condition)) now
  | forceAcquire => exact tells.acquire caller .forced now
  | commit content condition =>
      obtain ⟨old, tag, updated, gate, rfl, lasts, bound⟩ := tells
      by_cases held : entry.isHeldBy caller = true
      · simp only [EntryUse.after, EntryUse.answer, EntryUse.lockCall, EntryOperation.onLock,
          LockCall.after, LockCall.answer, Entry.commit_eq, held, Except.toOption, Version.next,
          Hold.next, if_true]
        exact ⟨rfl, rfl, rfl, rfl, rfl, lasts, bound⟩
      · simp only [EntryUse.after, EntryUse.answer, EntryUse.lockCall, EntryOperation.onLock,
          LockCall.after, LockCall.answer, Entry.commit_eq, held, Except.toOption, Version.next,
          Hold.next]
        exact ⟨old, tag, updated, gate, rfl, lasts, bound⟩
  | release =>
      obtain ⟨old, tag, updated, gate, rfl, lasts, bound⟩ := tells
      have owner : entry.hold.map Hold.owner = some caller ↔ entry.isHeldBy caller = true :=
        (entry.isHeldBy_iff caller).symm
      by_cases held : entry.isHeldBy caller = true
      · simp only [EntryUse.after, EntryUse.lockCall, EntryOperation.onLock, LockCall.after,
          Entry.release, Version.next, Hold.next, owner, held, if_true]
        exact ⟨old, tag, updated, gate, rfl, lasts, bound⟩
      · simp only [EntryUse.after, EntryUse.lockCall, EntryOperation.onLock, LockCall.after,
          Entry.release, Version.next, Hold.next, owner, held]
        exact ⟨old, tag, updated, gate, rfl, lasts, bound⟩

/-- Operations keep an entry in the state that its history tells. -/
theorem Tells.run (tells : entry.Tells ttl ceiling version grant) (uses : List EntryUse) :
    (entry.afterUses uses).Tells ttl ceiling (version.latest (entry.history uses))
      (Hold.latest grant (entry.history uses)) := by
  induction uses generalizing entry version grant with
  | nil => exact tells
  | cons use rest ih => exact ih (tells.use use)

/-- A new entry is in the state of its seed, unlocked. -/
theorem tells_origin (origin : Origin) (condition : Option String) (ttl : Duration)
    (made : Instant) :
    (origin.entry condition ttl made).Tells ttl origin.maxLockHold
      ⟨origin.content, condition, made⟩ none := by
  cases origin <;> exact ⟨rfl, rfl, rfl, rfl, rfl, rfl, rfl⟩

/-- What the staleness of an entry means for its version. -/
theorem Tells.isStale_iff (tells : entry.Tells ttl ceiling version grant)
    (condition : Option String) (now : Instant) :
    entry.isStale (Tag.normalized condition) now = true ↔
      version.content = none ∨ ttl ≤ now.since version.time ∨
        givenText version.condition ≠ none ∧
          givenText version.condition ≠ givenText condition := by
  have present : (Tag.normalized version.condition).isSome = true ↔
      givenText version.condition ≠ none := by
    rw [← Tag.text_normalized, ← Option.isSome_iff_ne_none, Option.isSome_map]
  have changed : Tag.normalized version.condition ≠ Tag.normalized condition ↔
      givenText version.condition ≠ givenText condition :=
    (Tag.normalized_eq_iff version.condition condition).not
  simp only [isStale, isExpired, isOutdated, tells.content, tells.ttl, tells.updated, tells.tag,
    Bool.or_eq_true, Bool.and_eq_true, Option.isNone_iff_eq_none, decide_eq_true_eq, bne_iff_ne,
    present, changed, or_assoc]

/-- An operation that is refused changes nothing. -/
theorem after_of_refused (use : EntryUse) (refused : use.answer entry = some false) :
    use.after entry = entry := by
  obtain ⟨caller, operation, now⟩ := use
  have acquired (request : Request)
      (refused : LockCall.answer ⟨caller, .acquire request, now⟩ entry = some false) :
      LockCall.after ⟨caller, .acquire request, now⟩ entry = entry := by
    cases held : entry.hold with
    | some hold => simp [LockCall.after, Entry.acquire, held]
    | none =>
        by_cases granted : entry.grants request now = true
        · simp [LockCall.answer, Entry.acquire, held, granted, Except.toOption,
            Acquisition.held] at refused
        · simp [LockCall.after, Entry.acquire, held, granted]
  cases operation with
  | tryAcquire condition => exact acquired _ refused
  | forceAcquire => exact acquired _ refused
  | commit content condition =>
      by_cases held : entry.isHeldBy caller = true
      · simp [EntryUse.answer, EntryUse.lockCall, EntryOperation.onLock, LockCall.answer,
          Entry.commit_eq, held, Except.toOption] at refused
      · simp [EntryUse.after, EntryUse.lockCall, EntryOperation.onLock, LockCall.after,
          Entry.commit_eq, held]
  | release => cases refused

/-- An entry in the state its history tells shows what its history says. -/
theorem Tells.shows (tells : entry.Tells ttl ceiling version grant) :
    entry.Shows ttl ceiling version grant where
  content := tells.content
  condition := by rw [tells.tag, Tag.text_normalized]
  updated := tells.updated
  initialized := by rw [tells.gate, Option.isSome_iff_ne_none]
  served := by
    intro text there timeout
    have isOpen : entry.gateOpen = true := by rw [tells.gate, there]; rfl
    have content : entry.content = some text := tells.content.trans there
    simp [Reader.look, Reader.conclude, Entry.served, isOpen, content]
  owner := by rw [← tells.hold]; rfl
  granted := by
    intro unlocked caller condition now
    have free : entry.hold = none := by simpa [isLocked] using unlocked
    rw [← tells.isStale_iff]
    cases stale : entry.isStale (Tag.normalized condition) now <;>
      simp [EntryUse.answer, EntryUse.lockCall, EntryOperation.onLock, LockCall.answer,
        Entry.acquire, free, Entry.grants, stale, Except.toOption, Acquisition.held]
  denied := after_of_refused
  abandoned := by
    intro now
    cases grant <;> simp [isAbandoned, tells.hold, tells.ceiling]
  disposable := by
    intro now
    cases grant <;>
      simp [isDisposable, isLocked, isAbandoned, isExpired, tells.hold, tells.ceiling, tells.ttl,
        tells.updated]

end

/-- After every run an entry shows its latest version, or its seed, and its open grant. -/
theorem refines_history (origin : Origin) (condition : Option String) (ttl : Duration)
    (made : Instant) (uses : List EntryUse) :
    let start := origin.entry condition ttl made
    let history := start.history uses
    (start.afterUses uses).Shows ttl origin.maxLockHold
      (Version.latest ⟨origin.content, condition, made⟩ history) (Hold.latest none history) := by
  intro start history
  exact ((tells_origin origin condition ttl made).run uses).shows

end Entry

end SingleFlight
