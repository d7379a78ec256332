import SingleFlight.Error
import SingleFlight.Entry

namespace SingleFlight

/-- Where a reader stands. -/
inductive Reader where
  | arriving
  /-- In the wait, and not woken. -/
  | parked
  /-- Woken by the commit that opened the gate, before it looks again. -/
  | notified
  /-- Out of the wait because its time is up, before its last look. -/
  | late
  | returned (result : Except TimedOut String)
  deriving Repr

namespace Reader

/-- What a reader returns that does not wait any longer. -/
def conclude (timeout : Duration) (entry : Entry) : Except TimedOut String :=
  match entry.served with
  | some content => .ok content
  | none => .error ⟨timeout⟩

/-- A look at the gate. A reader in the wait does not look. -/
def look (timeout : Duration) (entry : Entry) : Reader → Reader
  | .arriving | .notified =>
    -- The look and the entrance into the wait are one critical section of the entry.
    if entry.gateOpen then .returned (conclude timeout entry) else .parked
  | .late => .returned (conclude timeout entry)
  | .parked => .parked
  | .returned result => .returned result

/-- The signal that the gate has opened: it ends the wait. -/
def notify : Reader → Reader
  | .parked => .notified
  | reader => reader

/-- The deadline: it ends a wait that no signal has ended. -/
def expire : Reader → Reader
  | .parked => .late
  | reader => reader

/-- Whether the reader is in the wait. -/
def isParked : Reader → Bool
  | .parked => true
  | _ => false

end Reader

end SingleFlight
