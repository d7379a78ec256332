import SingleFlight.Text.Quoted
import SingleFlight.Time.Clock

namespace SingleFlight

/-- The version of the input that a content is made from. -/
structure Tag where
  text : String
  nonempty : text ≠ ""
  deriving DecidableEq, Repr

/-- The tag that a caller gives; an empty text gives none. -/
def Tag.ofText? (text : String) : Option Tag :=
  if empty : text = "" then none else some ⟨text, empty⟩

/-- The tag of a text that may be missing. -/
def Tag.normalized (text : Option String) : Option Tag := text.bind Tag.ofText?

/-- A thread of the program. -/
structure ThreadId where
  index : Nat
  deriving DecidableEq, Repr, Inhabited

/-- A lock that is held: by whom and since when. -/
structure Hold where
  owner : ThreadId
  since : Instant
  deriving DecidableEq, Repr

/-- One cached content and the lock for its update. -/
structure Entry where
  ttl : Duration
  maxLockHold : Duration
  content : Option String
  tag : Option Tag
  updated : Instant
  hold : Option Hold
  gateOpen : Bool
  deriving DecidableEq, Repr

/-- What an acquisition asks for: the lock if the content is stale, or always. -/
inductive Request where
  | ifStale (tag : Option Tag)
  | forced
  deriving DecidableEq, Repr

/-- How an acquisition ends. -/
inductive Acquisition where
  | granted
  | reentrant
  | heldElsewhere
  | fresh
  deriving DecidableEq, Repr

/-- Whether the caller holds the lock after the acquisition. -/
def Acquisition.held : Acquisition → Bool
  | .granted | .reentrant => true
  | .heldElsewhere | .fresh => false

/-- What a commit does, and whether it signals at the gate. -/
structure Committed where
  outcome : Except ClockFault Bool
  entry : Entry
  signals : Bool

namespace Entry

-- Each operation is one critical section of the entry. One that needs the time is handed a reading
-- of the clock, which may be a failure.

/-- An unlocked entry. Its gate is open if there is content to serve. -/
def seeded (content : Option String) (tag : Option Tag) (ttl maxLockHold : Duration)
    (updated : Instant) : Entry where
  ttl := ttl
  maxLockHold := maxLockHold
  content := content
  tag := tag
  updated := updated
  hold := none
  gateOpen := content.isSome

/-- An entry that waits for its first commit. -/
def fresh (tag : Option Tag) (ttl maxLockHold : Duration) (now : Instant) : Entry :=
  seeded none tag ttl maxLockHold now

/-- Whether a thread holds the lock. -/
def isHeldBy (entry : Entry) (caller : ThreadId) : Bool :=
  match entry.hold with
  | some hold => hold.owner == caller
  | none => false

/-- Whether any thread holds the lock. -/
def isLocked (entry : Entry) : Bool := entry.hold.isSome

/-- Whether the time to live has passed since the last commit. -/
def isExpired (entry : Entry) (now : Instant) : Bool := entry.ttl ≤ now.since entry.updated

/-- Whether the content carries a tag other than the one asked for. -/
def isOutdated (entry : Entry) (tag : Option Tag) : Bool :=
  entry.tag.isSome && entry.tag != tag

/-- Whether the content is missing, too old, or of another tag. -/
def isStale (entry : Entry) (tag : Option Tag) (now : Instant) : Bool :=
  entry.content.isNone || entry.isExpired now || entry.isOutdated tag

/-- Whether a request is granted on an unlocked entry. -/
def grants (entry : Entry) (request : Request) (now : Instant) : Bool :=
  match request with
  | .ifStale tag => entry.isStale tag now
  | .forced => true

/-- Asks for the lock. The reading counts only if nobody holds the lock. -/
def acquire (entry : Entry) (caller : ThreadId) (request : Request) (reading : Reading) :
    Except ClockFault Acquisition × Entry :=
  match entry.hold with
  | some hold => (.ok (if hold.owner = caller then .reentrant else .heldElsewhere), entry)
  | none =>
    match reading with
    | .error fault => (.error fault, entry)
    | .ok now =>
      if entry.grants request now then
        (.ok .granted, { entry with hold := some ⟨caller, now⟩ })
      else (.ok .fresh, entry)

/-- A commit by the holder of the lock, with its signal to the readers. -/
def commitAndSignal (entry : Entry) (caller : ThreadId) (content : String) (tag : Option Tag)
    (reading : Reading) : Committed :=
  if entry.isHeldBy caller then
    -- The content and its tag are in place before the reading, and stay if it fails.
    let written := { entry with content := some content, tag := tag }
    match reading with
    | .error fault => ⟨.error fault, written, false⟩
    | .ok now =>
      let unlocked := { written with updated := now, hold := none }
      if entry.gateOpen then ⟨.ok true, unlocked, false⟩
      else ⟨.ok true, { unlocked with gateOpen := true }, true⟩
  else ⟨.ok false, entry, false⟩

/-- A commit to its caller, who does not see the signal. -/
def commit (entry : Entry) (caller : ThreadId) (content : String) (tag : Option Tag)
    (reading : Reading) : Except ClockFault Bool × Entry :=
  let committed := entry.commitAndSignal caller content tag reading
  (committed.outcome, committed.entry)

/-- Gives the lock back; nothing happens unless the caller holds it. -/
def release (entry : Entry) (caller : ThreadId) : Entry :=
  if entry.isHeldBy caller then { entry with hold := none } else entry

/-- Whether the lock has been held for the longest time allowed. -/
def isAbandoned (entry : Entry) (now : Instant) : Bool :=
  match entry.hold with
  | some hold => entry.maxLockHold ≤ now.since hold.since
  | none => false

/-- Whether the lock is abandoned, or free and the entry expired. -/
def isDisposable (entry : Entry) (now : Instant) : Bool :=
  if entry.isLocked then entry.isAbandoned now else entry.isExpired now

/-- Whether the lock is abandoned, for a caller who reads the clock first. -/
def tellAbandoned (entry : Entry) (reading : Reading) : Except ClockFault Bool :=
  reading.map entry.isAbandoned

/-- Whether a sweep may drop the entry, after a reading. -/
def tellDisposable (entry : Entry) (reading : Reading) : Except ClockFault Bool :=
  reading.map entry.isDisposable

/-- An unlocked copy that serves the same content from the reading on. -/
def copyAt (entry : Entry) (tag : Option Tag) (ttl : Duration) (reading : Reading) :
    Except ClockFault Entry :=
  reading.map fun now => seeded entry.content tag ttl entry.maxLockHold now

/-- What a reader finds: the content behind an open gate. -/
def served (entry : Entry) : Option String := if entry.gateOpen then entry.content else none

/-- An acquisition reads the clock if nobody holds the lock. -/
def acquireReads (entry : Entry) : Bool := !entry.isLocked

/-- A commit reads the clock if the caller holds the lock. -/
def commitReads (entry : Entry) (caller : ThreadId) : Bool := entry.isHeldBy caller

/-- What is shown of an entry: its state, but neither content nor owner. -/
def describe (entry : Entry) : String :=
  Text.record "CacheEntry"
    [("ttl", entry.ttl.text),
      ("condition", Text.optional (fun tag => Text.quoted tag.text) entry.tag),
      ("locked", Text.flag entry.isLocked), ("initialized", Text.flag entry.gateOpen)]

end Entry

end SingleFlight
