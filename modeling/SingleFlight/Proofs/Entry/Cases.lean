import SingleFlight.Entry

namespace SingleFlight.Entry
variable (entry : Entry) (caller : ThreadId)

/-- An acquisition finds the lock held, or fails, or is granted, or finds fresh content. -/
theorem acquire_cases (request : Request) (reading : Reading) :
    (∃ hold, entry.hold = some hold ∧ entry.acquire caller request reading =
      (.ok (if hold.owner = caller then .reentrant else .heldElsewhere), entry)) ∨
    (entry.hold = none ∧ ∃ fault, reading = .error fault ∧
      entry.acquire caller request reading = (.error fault, entry)) ∨
    (entry.hold = none ∧ ∃ now, reading = .ok now ∧ entry.grants request now = true ∧
      entry.acquire caller request reading =
        (.ok .granted, { entry with hold := some ⟨caller, now⟩ })) ∨
    (entry.hold = none ∧ ∃ now, reading = .ok now ∧ entry.grants request now = false ∧
      entry.acquire caller request reading = (.ok .fresh, entry)) := by
  cases held : entry.hold with
  | some hold => exact .inl ⟨hold, rfl, by simp [acquire, held]⟩
  | none =>
      right
      cases reading with
      | error fault => exact .inl ⟨rfl, fault, rfl, by simp [acquire, held]⟩
      | ok now =>
          right
          cases granted : entry.grants request now with
          | true => exact .inl ⟨rfl, now, rfl, granted, by simp [acquire, held, granted]⟩
          | false => exact .inr ⟨rfl, now, rfl, granted, by simp [acquire, held, granted]⟩

/-- What a commit comes to, with its gate open before or not. -/
theorem commit_eq (content : String) (tag : Option Tag) (reading : Reading) :
    entry.commit caller content tag reading =
      if entry.isHeldBy caller then
        match reading with
        | .error fault => (.error fault, { entry with content := some content, tag := tag })
        | .ok now => (.ok true, { entry with
            content := some content, tag := tag, updated := now, hold := none, gateOpen := true })
      else (.ok false, entry) := by
  unfold commit commitAndSignal
  split
  · cases reading with
    | error fault => rfl
    | ok now =>
        cases gate : entry.gateOpen <;> simp
  · rfl

/-- Whether a change of an entry opens its gate. -/
def opensGate (before after : Entry) : Bool := !before.gateOpen && after.gateOpen

@[simp] theorem opensGate_self : entry.opensGate entry = false := by simp [opensGate]

/-- A commit signals exactly if it opens the gate. -/
theorem signals_commit (content : String) (tag : Option Tag) (reading : Reading) :
    (entry.commitAndSignal caller content tag reading).signals =
      entry.opensGate (entry.commit caller content tag reading).2 := by
  unfold commit commitAndSignal opensGate
  split
  · cases reading with
    | error fault => simp
    | ok now => cases gate : entry.gateOpen <;> simp
  · simp

/-- A commit is refused, or fails after it has written, or returns true. -/
theorem commit_cases (content : String) (tag : Option Tag) (reading : Reading) :
    (entry.isHeldBy caller = false ∧ entry.commit caller content tag reading = (.ok false, entry)) ∨
    (entry.isHeldBy caller = true ∧ ∃ fault, reading = .error fault ∧
      entry.commit caller content tag reading =
        (.error fault, { entry with content := some content, tag := tag })) ∨
    (entry.isHeldBy caller = true ∧ ∃ now, reading = .ok now ∧
      entry.commit caller content tag reading =
        (.ok true, { entry with
          content := some content, tag := tag, updated := now, hold := none, gateOpen := true })) := by
  cases held : entry.isHeldBy caller with
  | false => exact .inl ⟨rfl, by simp [commit_eq, held]⟩
  | true =>
      right
      cases reading with
      | error fault => exact .inl ⟨rfl, fault, rfl, by simp [commit_eq, held]⟩
      | ok now => exact .inr ⟨rfl, now, rfl, by simp [commit_eq, held]⟩

/-- A lock has one holder. -/
theorem isHeldBy_of_other {entry : Entry} {caller thread : ThreadId}
    (held : entry.isHeldBy caller = true) (apart : caller ≠ thread) :
    entry.isHeldBy thread = false := by
  unfold isHeldBy at held ⊢
  split at held
  · next hold _ =>
      obtain rfl : hold.owner = caller := by simpa using held
      simpa using apart
  · cases held

/-- An acquisition after which the caller holds the lock has it held. -/
theorem isHeldBy_acquire {entry : Entry} {caller : ThreadId} {request : Request} {reading : Reading}
    (held : (entry.acquire caller request reading).1.map Acquisition.held = .ok true) :
    (entry.acquire caller request reading).2.isHeldBy caller = true := by
  rcases entry.acquire_cases caller request reading with
    ⟨hold, before, same⟩ | ⟨-, fault, -, same⟩ | ⟨-, now, -, -, same⟩ | ⟨-, now, -, -, same⟩
  · rw [same] at held ⊢
    by_cases own : hold.owner = caller
    · simp [isHeldBy, before, own]
    · simp [own, Except.map, Acquisition.held] at held
  · rw [same] at held
    cases held
  · rw [same]
    simp [isHeldBy]
  · rw [same] at held
    cases held

/-- An acquisition without a grant leaves the entry, and its caller without the lock. -/
theorem acquire_of_not_held {entry : Entry} {caller : ThreadId} {request : Request}
    {reading : Reading}
    (refused : (entry.acquire caller request reading).1.map Acquisition.held ≠ .ok true) :
    (entry.acquire caller request reading).2 = entry ∧ entry.isHeldBy caller = false := by
  rcases entry.acquire_cases caller request reading with
    ⟨hold, before, same⟩ | ⟨none, fault, -, same⟩ | ⟨none, now, -, -, same⟩ | ⟨none, now, -, -, same⟩
  · refine ⟨by rw [same], ?_⟩
    rw [same] at refused
    by_cases own : hold.owner = caller
    · simp [own, Except.map, Acquisition.held] at refused
    · simp [isHeldBy, before, own]
  · exact ⟨by rw [same], by simp [isHeldBy, none]⟩
  · rw [same] at refused
    exact absurd rfl refused
  · exact ⟨by rw [same], by simp [isHeldBy, none]⟩

/-- After a commit that returned its caller does not hold the lock. -/
theorem isHeldBy_commit {content : String} {tag : Option Tag} {reading : Reading} {outcome : Bool}
    (returns : (entry.commit caller content tag reading).1 = .ok outcome) :
    (entry.commit caller content tag reading).2.isHeldBy caller = false := by
  rcases entry.commit_cases caller content tag reading with
    ⟨before, same⟩ | ⟨-, fault, -, same⟩ | ⟨-, now, -, same⟩
  · rw [same]
    exact before
  · rw [same] at returns
    cases returns
  · rw [same]
    rfl

/-- A commit fails only for the holder and with its reading; the lock stays. -/
theorem commit_of_fault {content : String} {tag : Option Tag} {reading : Reading} {fault : ClockFault}
    (fails : (entry.commit caller content tag reading).1 = .error fault) :
    reading = .error fault ∧ entry.isHeldBy caller = true ∧
      (entry.commit caller content tag reading).2.isHeldBy caller = true := by
  rcases entry.commit_cases caller content tag reading with
    ⟨-, same⟩ | ⟨held, other, failed, same⟩ | ⟨-, now, -, same⟩
  · rw [same] at fails
    cases fails
  · rw [same] at fails ⊢
    cases fails
    exact ⟨failed, held, held⟩
  · rw [same] at fails
    cases fails

/-- After a release its caller does not hold the lock. -/
theorem isHeldBy_release : (entry.release caller).isHeldBy caller = false := by
  unfold release
  split
  · rfl
  · next other => simpa using other

/-- Unlocked content on which an acquisition is denied carries its tag or none. -/
theorem imprint_of_denied {entry : Entry} {caller : ThreadId} {asked : Tag} {reading : Reading}
    (unlocked : entry.hold = none)
    (denied : (entry.acquire caller (.ifStale (some asked)) reading).1.map Acquisition.held =
      .ok false) :
    ∃ content, entry.content = some content ∧ (entry.tag = none ∨ entry.tag = some asked) := by
  rcases entry.acquire_cases caller (.ifStale (some asked)) reading with
    ⟨hold, held, -⟩ | ⟨-, fault, -, failed⟩ | ⟨-, now, -, -, granted⟩ | ⟨-, now, -, fresh, -⟩
  · rw [unlocked] at held
    cases held
  · rw [failed] at denied
    cases denied
  · rw [granted] at denied
    cases denied
  · cases there : entry.content with
    | none => simp [grants, isStale, there] at fresh
    | some content =>
        have current : entry.isOutdated (some asked) = false := by
          simp only [grants, isStale, Bool.or_eq_false_iff] at fresh
          exact fresh.2
        refine ⟨content, rfl, ?_⟩
        cases tag : entry.tag with
        | none => exact .inl rfl
        | some label =>
            right
            simpa [isOutdated, tag] using current

end SingleFlight.Entry
