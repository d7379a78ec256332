import Mathlib.Data.List.Induction
import SingleFlight.Proofs.Entry.Cases

namespace SingleFlight

/-- An operation on the lock of an entry. -/
inductive LockOperation where
  | acquire (request : Request)
  | commit (content : String) (tag : Option Tag)
  | release
  deriving DecidableEq, Repr

/-- A lock operation by a thread; `now` is what the clock shows if it is read. -/
structure LockCall where
  caller : ThreadId
  operation : LockOperation
  now : Instant
  deriving DecidableEq, Repr

/-- What a lock call can mean for the lock. -/
inductive LockEvent where
  | granted (thread : ThreadId)
  | unlocked (thread : ThreadId)
  deriving DecidableEq, Repr

/-- Closed sessions of some threads in a row, and a grant that is still open. -/
def LockEvent.sessions (closed : List ThreadId) (current : Option ThreadId) : List LockEvent :=
  closed.flatMap (fun thread => [.granted thread, .unlocked thread])
    ++ current.toList.map .granted

/-- The thread that holds the lock. -/
def Entry.owner? (entry : Entry) : Option ThreadId := entry.hold.map Hold.owner

/-- The time at which the lock was taken. -/
def Entry.lockedAt? (entry : Entry) : Option Instant := entry.hold.map Hold.since

namespace LockCall

/-- The entry after a call. -/
def after (call : LockCall) (entry : Entry) : Entry :=
  match call.operation with
  | .acquire request => (entry.acquire call.caller request (.ok call.now)).2
  | .commit content tag => (entry.commit call.caller content tag (.ok call.now)).2
  | .release => entry.release call.caller

/-- What a call returns. A release returns nothing. -/
def answer (call : LockCall) (entry : Entry) : Option Bool :=
  match call.operation with
  | .acquire request =>
    (entry.acquire call.caller request (.ok call.now)).1.toOption.map Acquisition.held
  | .commit content tag => (entry.commit call.caller content tag (.ok call.now)).1.toOption
  | .release => none

/-- An acquisition that returns true to a thread without the lock. -/
def isGrant (call : LockCall) (entry : Entry) : Bool :=
  match call.operation with
  | .acquire _ => call.answer entry == some true && !entry.isHeldBy call.caller
  | .commit _ _ | .release => false

/-- A commit that returns true, or a release that frees the lock. -/
def isUnlock (call : LockCall) (entry : Entry) : Bool :=
  match call.operation with
  | .acquire _ => false
  | .commit _ _ => call.answer entry == some true
  | .release => entry.isLocked && !(call.after entry).isLocked

/-- What a call means for the lock, if anything. -/
def event? (call : LockCall) (entry : Entry) : Option LockEvent :=
  if call.isGrant entry then some (.granted call.caller)
  else if call.isUnlock entry then some (.unlocked call.caller)
  else none

end LockCall

namespace Entry

/-- The entry after calls one after the other. -/
def afterCalls (entry : Entry) (calls : List LockCall) : Entry :=
  calls.foldl (fun entry call => call.after entry) entry

/-- The grants and unlocks of calls one after the other. -/
def lockEvents (entry : Entry) : List LockCall → List LockEvent
  | [] => []
  | call :: rest => (call.event? entry).toList ++ (call.after entry).lockEvents rest

theorem afterCalls_append (entry : Entry) (first rest : List LockCall) :
    entry.afterCalls (first ++ rest) = (entry.afterCalls first).afterCalls rest :=
  List.foldl_append

theorem lockEvents_append (entry : Entry) (first rest : List LockCall) :
    entry.lockEvents (first ++ rest) =
      entry.lockEvents first ++ (entry.afterCalls first).lockEvents rest := by
  induction first generalizing entry with
  | nil => rfl
  | cons call first ih =>
      rw [List.cons_append, lockEvents, lockEvents, ih (call.after entry), List.append_assoc]
      rfl

/-- A thread holds the lock exactly if it is the owner. -/
theorem isHeldBy_iff (entry : Entry) (thread : ThreadId) :
    entry.isHeldBy thread = true ↔ entry.owner? = some thread := by
  cases held : entry.hold <;> simp [isHeldBy, owner?, held]

end Entry

namespace LockCall
variable (call : LockCall) (entry : Entry)

/-- The holder's own acquisitions return true and change nothing. -/
theorem acquire_by_holder (holder : ThreadId) (held : entry.isHeldBy holder = true)
    (own : call.caller = holder) (request : Request) (asks : call.operation = .acquire request) :
    call.answer entry = some true ∧ call.after entry = entry := by
  obtain ⟨hold, locked, rfl⟩ := Option.map_eq_some_iff.mp ((entry.isHeldBy_iff holder).mp held)
  simp [answer, after, asks, Entry.acquire, locked, own, Except.toOption, Acquisition.held]

/-- While a thread holds the lock the calls of others change nothing. -/
theorem call_by_other (holder : ThreadId) (held : entry.isHeldBy holder = true)
    (other : call.caller ≠ holder) :
    (call.operation = .release ∨ call.answer entry = some false) ∧ call.after entry = entry := by
  obtain ⟨hold, locked, rfl⟩ := Option.map_eq_some_iff.mp ((entry.isHeldBy_iff holder).mp held)
  have apart : hold.owner ≠ call.caller := fun same => other same.symm
  have refused : entry.isHeldBy call.caller = false := by simp [Entry.isHeldBy, locked, apart]
  cases asks : call.operation with
  | acquire request =>
      simp [answer, after, asks, Entry.acquire, locked, apart, Except.toOption, Acquisition.held]
  | commit content tag =>
      simp [answer, after, asks, Entry.commit_eq, refused, Except.toOption]
  | release => simp [after, asks, Entry.release, refused]

/-- A call does nothing to the owner, or grants, or unlocks. -/
theorem event?_cases :
    (call.event? entry = none ∧ (call.after entry).owner? = entry.owner?) ∨
    (call.event? entry = some (.granted call.caller) ∧ entry.owner? = none ∧
      (call.after entry).owner? = some call.caller) ∨
    (call.event? entry = some (.unlocked call.caller) ∧ entry.owner? = some call.caller ∧
      (call.after entry).owner? = none) := by
  cases locked : entry.hold with
  | none =>
      have free : entry.isHeldBy call.caller = false := by simp [Entry.isHeldBy, locked]
      cases asks : call.operation with
      | acquire request =>
          by_cases granted : entry.grants request call.now = true
          · right; left
            simp [event?, isGrant, answer, after, asks, Entry.acquire, locked, granted, free,
              Entry.owner?, Except.toOption, Acquisition.held]
          · left
            simp [event?, isGrant, isUnlock, answer, after, asks, Entry.acquire, locked, granted,
              Except.toOption, Acquisition.held]
      | commit content tag =>
          left
          simp [event?, isGrant, isUnlock, answer, after, asks, Entry.commit_eq, free,
            Except.toOption]
      | release =>
          left
          simp [event?, isGrant, isUnlock, after, asks, Entry.release, free]
  | some hold =>
      have owned : entry.owner? = some hold.owner := by simp [Entry.owner?, locked]
      by_cases own : call.caller = hold.owner
      · have owns : entry.owner? = some call.caller := own ▸ owned
        have holds : entry.isHeldBy call.caller = true := (entry.isHeldBy_iff call.caller).mpr owns
        cases asks : call.operation with
        | acquire request =>
            left
            have same := call.acquire_by_holder entry call.caller holds rfl request asks
            simp [event?, isGrant, isUnlock, asks, same.2, holds]
        | commit content tag =>
            right; right
            refine ⟨?_, owns, ?_⟩ <;>
              simp [event?, isGrant, isUnlock, answer, after, asks, Entry.commit_eq, holds,
                Entry.owner?, Except.toOption]
        | release =>
            right; right
            refine ⟨?_, owns, ?_⟩ <;>
              simp [event?, isGrant, isUnlock, after, asks, Entry.release, holds, Entry.owner?,
                Entry.isLocked, locked]
      · left
        have refused := call.call_by_other entry hold.owner
          ((entry.isHeldBy_iff hold.owner).mpr owned) own
        obtain ⟨release | denied, same⟩ := refused
        · simp [event?, isGrant, isUnlock, release, same]
        · refine ⟨?_, by rw [same]⟩
          cases asks : call.operation <;> simp [event?, isGrant, isUnlock, asks, denied, same]

end LockCall

/-- A lock that is kept in two fields. -/
structure LockFields where
  owner : Option ThreadId
  lockedAt : Option Instant
  deriving DecidableEq, Repr

namespace LockFields

def lockFor (fields : LockFields) (thread : ThreadId) (now : Instant) : LockFields :=
  { fields with owner := some thread, lockedAt := some now }

def unlock (fields : LockFields) : LockFields := { fields with owner := none, lockedAt := none }

/-- The fields after a call on an entry that grants some requests. -/
def after (fields : LockFields) (call : LockCall) (grants : Request → Bool) : LockFields :=
  match call.operation with
  | .acquire request =>
    match fields.owner with
    | some _ => fields
    | none => if grants request then fields.lockFor call.caller call.now else fields
  | .commit _ _ | .release => if fields.owner = some call.caller then fields.unlock else fields

/-- Both fields are set, or neither is. -/
def IsPaired (fields : LockFields) : Prop := fields.owner.isSome = fields.lockedAt.isSome

/-- A call sets or clears both fields together. -/
theorem IsPaired.after {fields : LockFields} (paired : fields.IsPaired) (call : LockCall)
    (grants : Request → Bool) : (fields.after call grants).IsPaired := by
  unfold LockFields.after
  split
  · split
    · exact paired
    · split
      · rfl
      · exact paired
  all_goals
    split
    · rfl
    · exact paired

end LockFields

namespace Entry

/-- The lock of an entry in two fields. -/
def lockFields (entry : Entry) : LockFields := ⟨entry.owner?, entry.lockedAt?⟩

/-- An entry that the holder alone unlocks has its fields cleared by the holder alone. -/
theorem lockFields_unlocked (entry : Entry) (caller : ThreadId) {unlocked : Entry}
    (free : unlocked.hold = none) :
    (if entry.isHeldBy caller then unlocked else entry).lockFields =
      if entry.lockFields.owner = some caller then entry.lockFields.unlock else entry.lockFields := by
  have mine : entry.isHeldBy caller = true ↔ entry.lockFields.owner = some caller :=
    entry.isHeldBy_iff caller
  by_cases own : entry.isHeldBy caller = true
  · rw [if_pos own, if_pos (mine.mp own)]
    simp [lockFields, owner?, lockedAt?, free, LockFields.unlock]
  · rw [if_neg own, if_neg (own ∘ mine.mpr)]

/-- A call on the entry is the call on the two fields. -/
theorem lockFields_after (call : LockCall) (entry : Entry) :
    (call.after entry).lockFields = entry.lockFields.after call (entry.grants · call.now) := by
  cases asks : call.operation with
  | acquire request =>
      cases held : entry.hold with
      | some hold =>
          simp [LockCall.after, LockFields.after, asks, acquire, lockFields, owner?, held]
      | none =>
          by_cases granted : entry.grants request call.now = true <;>
            simp [LockCall.after, LockFields.after, LockFields.lockFor, asks, acquire, lockFields,
              owner?, lockedAt?, held, granted]
  | commit content tag =>
      simp only [LockCall.after, LockFields.after, asks, commit_eq, apply_ite Prod.snd]
      exact lockFields_unlocked entry call.caller rfl
  | release =>
      simp only [LockCall.after, LockFields.after, asks, release]
      exact lockFields_unlocked entry call.caller rfl

/-- The two fields after some calls, beside the entry they belong to. -/
def fieldsAfter (entry : Entry) (fields : LockFields) : List LockCall → LockFields
  | [] => fields
  | call :: rest =>
    (call.after entry).fieldsAfter (fields.after call (entry.grants · call.now)) rest

/-- The lock of an entry refines the two fields, whatever is called. -/
theorem lockFields_afterCalls (entry : Entry) (calls : List LockCall) :
    (entry.afterCalls calls).lockFields = entry.fieldsAfter entry.lockFields calls := by
  induction calls generalizing entry with
  | nil => rfl
  | cons call rest ih =>
      rw [fieldsAfter, ← lockFields_after]
      exact ih (call.after entry)

theorem isPaired_fieldsAfter (entry : Entry) {fields : LockFields} (paired : fields.IsPaired)
    (calls : List LockCall) : (entry.fieldsAfter fields calls).IsPaired := by
  induction calls generalizing entry fields with
  | nil => exact paired
  | cons call rest ih => exact ih (call.after entry) (paired.after call _)

end Entry

namespace LockEvent

/-- A session that ends closes the open grant. -/
theorem sessions_unlocked (closed : List ThreadId) (thread : ThreadId) :
    sessions closed (some thread) ++ [.unlocked thread] = sessions (closed ++ [thread]) none := by
  simp [sessions, List.flatMap_append]

/-- A grant opens a session. -/
theorem sessions_granted (closed : List ThreadId) (thread : ThreadId) :
    sessions closed none ++ [.granted thread] = sessions closed (some thread) := by
  simp [sessions]

end LockEvent

namespace Entry

/-- The history of an unlocked entry is a row of sessions. -/
theorem lockEvents_eq_sessions (entry : Entry) (unlocked : entry.hold = none)
    (calls : List LockCall) :
    ∃ closed, entry.lockEvents calls = LockEvent.sessions closed (entry.afterCalls calls).owner? := by
  induction calls using List.reverseRecOn with
  | nil => exact ⟨[], by simp [lockEvents, afterCalls, owner?, unlocked, LockEvent.sessions]⟩
  | append_singleton earlier call ih =>
      obtain ⟨closed, history⟩ := ih
      have owner : entry.afterCalls (earlier ++ [call]) = call.after (entry.afterCalls earlier) := by
        rw [afterCalls_append]; rfl
      rw [lockEvents_append, history, owner]
      simp only [lockEvents, List.append_nil]
      rcases call.event?_cases (entry.afterCalls earlier) with
        ⟨event, same⟩ | ⟨event, free, owned⟩ | ⟨event, owned, free⟩
      · exact ⟨closed, by rw [event, same]; simp⟩
      · exact ⟨closed, by rw [event, owned, free]; exact LockEvent.sessions_granted closed _⟩
      · exact ⟨closed ++ [call.caller], by
          rw [event, owned, free]; exact LockEvent.sessions_unlocked closed _⟩

/-- Grants and unlocks alternate by thread, holders re-enter, and intruders change nothing. -/
theorem lock_discipline (content : Option String) (tag : Option Tag) (ttl ceiling : Duration)
    (made : Instant) (calls : List LockCall) :
    let start := seeded content tag ttl ceiling made
    let entry := start.afterCalls calls
    (∃ closed, start.lockEvents calls = LockEvent.sessions closed entry.owner?) ∧
    entry.owner?.isSome = entry.lockedAt?.isSome ∧
    ∀ holder, entry.isHeldBy holder = true → ∀ call : LockCall,
      (call.caller = holder → ∀ request, call.operation = .acquire request →
        call.answer entry = some true ∧ call.after entry = entry) ∧
      (call.caller ≠ holder →
        (call.operation = .release ∨ call.answer entry = some false) ∧
          call.after entry = entry) := by
  intro start entry
  have paired : entry.lockFields.IsPaired := by
    rw [lockFields_afterCalls]
    have unlocked : start.lockFields.IsPaired := rfl
    exact start.isPaired_fieldsAfter unlocked calls
  refine ⟨start.lockEvents_eq_sessions rfl calls, paired, ?_⟩
  intro holder held call
  exact ⟨call.acquire_by_holder entry holder held, call.call_by_other entry holder held⟩

/-- A late commit: the lock has been given back and taken by another. -/
theorem late_commit_refused :
    let start := seeded none none ⟨5⟩ ⟨9⟩ ⟨0⟩
    let calls : List LockCall := [⟨⟨1⟩, .acquire .forced, ⟨2⟩⟩, ⟨⟨1⟩, .release, ⟨3⟩⟩,
      ⟨⟨2⟩, .acquire (.ifStale none), ⟨1⟩⟩]
    let late : LockCall := ⟨⟨1⟩, .commit "late" none, ⟨4⟩⟩
    (start.afterCalls calls).isHeldBy ⟨2⟩ = true ∧
      late.answer (start.afterCalls calls) = some false := by
  intro start calls late
  have held : (start.afterCalls calls).isHeldBy ⟨2⟩ = true := by decide
  have refused := ((lock_discipline none none ⟨5⟩ ⟨9⟩ ⟨0⟩ calls).2.2 ⟨2⟩ held late).2 (by decide)
  exact ⟨held, refused.1.resolve_left (by decide)⟩

end Entry

end SingleFlight
