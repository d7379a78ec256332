import SingleFlight.Proofs.Traffic.Sound

namespace SingleFlight

/-- No step of a call takes a lock. -/
theorem Call.Effect.hold_cases {call next : Call} {moment : Moment} {cache after : Cache}
    (effect : call.Effect moment cache next after) {entry : EntryId} {hold : Hold}
    (held : (after.heap.get entry).hold = some hold) : (cache.heap.get entry).hold = some hold := by
  have added (state : Entry) (unlocked : state.hold = none)
      (held : ((cache.heap.add state).get entry).hold = some hold) :
      (cache.heap.get entry).hold = some hold := by
    by_cases new : entry = cache.heap.next
    · subst new
      rw [Heap.get_add_next, unlocked] at held
      cases held
    · rwa [Heap.get_add_of_ne new] at held
  cases effect with
  | created => exact added _ rfl held
  | stamped => exact added _ rfl held
  | copied => exact added _ rfl held
  | _ => exact held

/-- A held lock was held before the operation, or taken at its reading. -/
theorem Move.hold_cases {move : Move} {entry : Entry} {hold : Hold}
    (held : (move.applied entry).hold = some hold) :
    entry.hold = some hold ∨ move.instant? = some hold.since := by
  unfold applied at held
  split at held
  · unfold Entry.acquire at held
    split at held
    · exact .inl held
    · split at held
      · exact .inl held
      · next now read =>
          split at held
          · obtain rfl := Option.some.inj held
            exact .inr (Move.instant?_of_read read)
          · exact .inl held
  · rw [Entry.commit_eq] at held
    split at held
    · cases read : move.moment.monotonic with
      | error fault => exact .inl (by simpa [read] using held)
      | ok now => simp [read] at held
    · exact .inl held
  · unfold Entry.release at held
    split at held
    · cases held
    · exact .inl held
  all_goals exact .inl held

namespace Traffic
variable {traffic : Traffic} {entry : EntryId} {hold : Hold}

theorem hold_take {move : Move} (held : ((traffic.take move).state entry).hold = some hold) :
    (traffic.state entry).hold = some hold ∨ move.instant? = some hold.since := by
  have change := traffic.change_take move
  generalize traffic.take move = after at change held
  cases change with
  | proceeded place effect => exact .inl (effect.hold_cases held)
  | @operated target asks shown =>
      have changed : ((traffic.cache.setEntry target (move.applied (traffic.state target))).heap.get
        entry).hold = some hold := held
      rw [Change.state_operated traffic _ (holds_of_isShown shown) entry] at changed
      split at changed
      · next same => rw [same]; exact Move.hold_cases changed
      · exact .inl changed
  | _ => exact .inl held

/-- A held lock was held before the run, or taken in it. -/
theorem hold_run {moves : List Move} (held : ((traffic.run moves).state entry).hold = some hold) :
    (traffic.state entry).hold = some hold ∨
      ∃ move ∈ moves, move.instant? = some hold.since := by
  induction moves generalizing traffic with
  | nil => exact .inl held
  | cons move rest ih =>
      rcases ih held with before | ⟨later, there, read⟩
      · rcases hold_take before with old | read
        · exact .inl old
        · exact .inr ⟨move, List.mem_cons_self, read⟩
      · exact .inr ⟨later, List.mem_cons_of_mem move there, read⟩

/-- On an empty store every lock was taken at a move's reading. -/
theorem hold_run_opened {hash : String → Nat} {count : Nat} {positive : 0 < count}
    {ceiling : Duration} {moves : List Move}
    (held : (((opened hash count positive ceiling).run moves).state entry).hold = some hold) :
    ∃ move ∈ moves, move.instant? = some hold.since := by
  rcases hold_run held with before | taken
  · rw [state_opened] at before
    cases before
  · exact taken

end Traffic

end SingleFlight
