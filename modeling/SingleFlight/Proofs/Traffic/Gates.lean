import SingleFlight.Proofs.Traffic.Sound

namespace SingleFlight

/-- Whether the gate of an entry is open exactly if there is content. -/
def Entry.IsTidy (entry : Entry) : Prop := entry.gateOpen = entry.content.isSome

/-- A lock operation whose reading comes through keeps an entry tidy. -/
theorem Move.isTidy_applied {move : Move} (readable : move.instant? ≠ none) {entry : Entry}
    (tidy : entry.IsTidy) : (move.applied entry).IsTidy := by
  unfold applied
  split
  · unfold Entry.acquire
    repeat' split
    all_goals exact tidy
  · rw [Entry.commit_eq]
    split
    · cases read : move.moment.monotonic with
      | error fault => simp [instant?, read, Except.toOption] at readable
      | ok now => rfl
    · exact tidy
  · unfold Entry.release
    split <;> exact tidy
  all_goals exact tidy

namespace Traffic

/-- A move whose reading comes through keeps all entries tidy. -/
theorem isTidy_take {traffic : Traffic} {move : Move} (readable : move.instant? ≠ none)
    (tidy : ∀ entry, (traffic.state entry).IsTidy) (entry : EntryId) :
    ((traffic.take move).state entry).IsTidy := by
  have change := traffic.change_take move
  generalize traffic.take move = after at change
  cases change with
  | proceeded place effect =>
      rcases effect.state_cases entry with ⟨same, -⟩ | ⟨-, gate⟩
      · show (Heap.get _ entry).IsTidy
        rw [same]
        exact tidy entry
      · exact gate
  | @operated target asks shown =>
      have known := holds_of_isShown shown
      show ((traffic.cache.setEntry target _).heap.get entry).IsTidy
      rw [Change.state_operated traffic _ known entry]
      split
      · exact move.isTidy_applied readable (tidy target)
      · exact tidy entry
  | _ => exact tidy entry

/-- A run whose readings come through keeps all entries tidy. -/
theorem isTidy_run {traffic : Traffic} {moves : List Move}
    (readable : ∀ move ∈ moves, move.instant? ≠ none)
    (tidy : ∀ entry, (traffic.state entry).IsTidy) (entry : EntryId) :
    ((traffic.run moves).state entry).IsTidy := by
  induction moves generalizing traffic with
  | nil => exact tidy entry
  | cons move rest ih =>
      have next := isTidy_take (readable move List.mem_cons_self) tidy
      exact ih (fun other there => readable other (List.mem_cons_of_mem move there)) next

/-- All entries of an empty store are tidy. -/
theorem isTidy_opened (hash : String → Nat) (count : Nat) (positive : 0 < count) (ceiling : Duration)
    (entry : EntryId) : ((opened hash count positive ceiling).state entry).IsTidy := by
  rw [state_opened]
  rfl

end Traffic

/-- In a steady cache every gate is open exactly if there is content. -/
theorem Cache.Steady.isTidy {cache : Cache} (steady : cache.Steady) (entry : EntryId) :
    (cache.heap.get entry).IsTidy := by
  obtain ⟨hash, count, positive, ceiling, -, moves, readable, rfl⟩ := steady
  exact Traffic.isTidy_run readable (Traffic.isTidy_opened hash count positive ceiling) entry

/-- A clock that can be read could be read before. -/
theorem Clock.now_of_le {earlier later : Clock} (forward : earlier.elapsed ≤ later.elapsed)
    {now : Instant} (readable : later.now = .ok now) :
    earlier.now = .ok ⟨earlier.elapsed.nanos⟩ := by
  have held : (Instant.mk later.elapsed.nanos).isHeld = true := by
    by_contra beyond
    simp [Clock.now, beyond] at readable
  have before : (Instant.mk earlier.elapsed.nanos).isHeld = true := by
    have seconds : earlier.elapsed.nanos / Duration.nanosPerSecond ≤
        later.elapsed.nanos / Duration.nanosPerSecond := Nat.div_le_div_right forward
    simp only [Instant.isHeld, decide_eq_true_eq] at held ⊢
    omega
  simp [Clock.now, before]

/-- What traffic on an empty store leaves behind on a forward clock. -/
def Cache.ReachedOn (cache : Cache) (clock : Clock) : Prop :=
  ∃ hash count positive ceiling, ceiling ≠ Duration.zero ∧ ∃ moves : List Move,
    (∀ move ∈ moves, ∃ earlier : Clock, earlier.elapsed ≤ clock.elapsed ∧
      move.moment.monotonic = earlier.now) ∧
    cache = ((Traffic.opened hash count positive ceiling).run moves).cache

/-- A clock that can be read has never failed. -/
theorem Cache.ReachedOn.steady {cache : Cache} {clock : Clock} (reached : cache.ReachedOn clock)
    {now : Instant} (readable : clock.now = .ok now) : cache.Steady := by
  obtain ⟨hash, count, positive, ceiling, nonzero, moves, shown, rfl⟩ := reached
  refine ⟨hash, count, positive, ceiling, nonzero, moves, fun move inside failed => ?_, rfl⟩
  obtain ⟨earlier, forward, read⟩ := shown move inside
  rw [Move.instant?, read, Clock.now_of_le forward readable] at failed
  cases failed

end SingleFlight
