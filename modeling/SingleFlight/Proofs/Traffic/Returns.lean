import SingleFlight.Proofs.Traffic.Course
import SingleFlight.Proofs.Traffic.Departed
import SingleFlight.Proofs.Traffic.Provenance

namespace SingleFlight

namespace Lookup

/-- The entry that a lookup has found or returned. -/
def Phase.known? : Phase → Option EntryId
  | .timing found | .judging found _ | .copying found | .stamping found _ | .swapping found _
  | .finished (.ok found) => some found
  | .finding | .finished (.error _) => none

variable {asked : Lookup} {phase : Phase} {moment : Moment} {cache : Cache}

/-- A lookup knows what it knew, or what its key maps to at the step. -/
theorem known_step {entry : EntryId}
    (known : (asked.step phase moment cache).1.known? = some entry) :
    phase.known? = some entry ∨ remaining phase ≠ 0 ∧
      (cache.store.lookup asked.key = some entry ∨
        (asked.step phase moment cache).2.1.store.lookup asked.key = some entry) := by
  cases phase with
  | finding =>
      refine .inr ⟨by simp [remaining], ?_⟩
      simp only [step, find] at known ⊢
      split at known
      · next found there =>
          obtain rfl : found = entry := by simpa [Phase.known?] using known
          exact .inl there
      · split at known
        · cases known
        · obtain rfl : cache.heap.next = entry := by simpa [Phase.known?] using known
          right
          simp [*, Store.lookup_create]
  | timing found | stamping found _ =>
      simp only [step] at known
      split at known
      · cases known
      · exact .inl known
  | judging found now =>
      simp only [step] at known
      split at known <;> exact .inl known
  | copying found => exact .inl known
  | swapping found candidate =>
      refine .inr ⟨by simp [remaining], ?_⟩
      simp only [step, swap] at known ⊢
      split at known
      · next current there =>
          split at known
          · next same =>
              obtain rfl : candidate = entry := by simpa [Phase.known?] using known
              simp [there, same, Store.lookup_replace]
          · obtain rfl : current = entry := by simpa [Phase.known?] using known
            exact .inl there
      · next absent =>
          obtain rfl : candidate = entry := by simpa [Phase.known?] using known
          simp [absent, Store.lookup_replace]
  | finished outcome => exact .inl known

/-- A lookup fails at a reading that fails. -/
theorem fault_step {fault : ClockFault}
    (failed : (asked.step phase moment cache).1 = .finished (.error fault)) :
    phase = .finished (.error fault) ∨ moment.monotonic = .error fault := by
  cases phase with
  | finding =>
      simp only [step, find] at failed
      split at failed
      · cases failed
      · split at failed
        · next read => cases failed; exact .inr read
        · cases failed
  | timing found | stamping found _ =>
      simp only [step] at failed
      split at failed
      · next read => cases failed; exact .inr read
      · cases failed
  | judging found now => simp only [step] at failed; split at failed <;> cases failed
  | copying found => cases failed
  | swapping found candidate =>
      simp only [step, swap] at failed
      repeat' split at failed
      all_goals cases failed
  | finished outcome => exact .inl failed

end Lookup

namespace Traffic

/-- At a lookup's step, before or after, its key maps to an entry. -/
def sees (traffic : Traffic) (move : Move) (number : Nat) (asked : Lookup) (entry : EntryId) : Prop :=
  move.proceeds number = true ∧
    (∃ phase, traffic.calls[number]? = some (.lookup asked phase) ∧ Lookup.remaining phase ≠ 0) ∧
    (traffic.lookup asked.key = some entry ∨ (traffic.take move).lookup asked.key = some entry)

variable {traffic start : Traffic} {moves : List Move} {number : Nat} {asked : Lookup}
  {phase : Lookup.Phase}

/-- A lookup after a move has made a step, or stayed, or begun. -/
theorem lookup_call_cases {move : Move}
    (there : (traffic.take move).calls[number]? = some (.lookup asked phase)) :
    (∃ old, move.proceeds number = true ∧ traffic.calls[number]? = some (.lookup asked old) ∧
      phase = (asked.step old move.moment traffic.cache).1 ∧
      (traffic.take move).cache = (asked.step old move.moment traffic.cache).2.1) ∨
    (move.proceeds number = false ∧ traffic.calls[number]? = some (.lookup asked phase)) ∨
    (phase = .finding ∧ move.action = .begin (.lookup asked)) := by
  rcases call_cases there with ⟨own, call, before, step, cache⟩ | ⟨idle, before⟩ |
    ⟨-, -, task, asks, begins⟩
  · cases call with
    | lookup other old =>
        obtain ⟨rfl, rfl⟩ := Call.lookup.inj step
        exact .inl ⟨old, own, before, rfl, cache⟩
    | _ => cases step
  · exact .inr (.inl ⟨idle, before⟩)
  · cases task with
    | lookup other =>
        obtain ⟨rfl, rfl⟩ := Call.lookup.inj begins
        exact .inr (.inr ⟨rfl, asks⟩)
    | _ => cases begins

/-- The entry a lookup knows was seen at its key. -/
theorem seen_of_known (fresh : start.calls = []) (number : Nat) (asked : Lookup)
    (phase : Lookup.Phase) (there : (start.run moves).calls[number]? = some (.lookup asked phase))
    (entry : EntryId) (known : phase.known? = some entry) :
    start.Occurs moves (·.sees · number asked entry) := by
  induction moves using List.reverseRecOn generalizing phase with
  | nil =>
      rw [run_nil, fresh] at there
      cases there
  | append_singleton moves move ih =>
      rw [run_append, run_cons, run_nil] at there
      rw [occurs_concat_iff]
      rcases lookup_call_cases there with ⟨old, own, before, rfl, cache⟩ | ⟨-, before⟩ | ⟨rfl, -⟩
      · rcases Lookup.known_step known with earlier | ⟨running, sight⟩
        · exact .inl (ih old before earlier)
        · refine .inr ⟨own, ⟨old, before, running⟩, ?_⟩
          simp only [lookup, cache]
          exact sight
      · exact .inl (ih phase before known)
      · cases known

/-- Threads see a candidate once its call has let go of it. -/
theorem isShown_of_let_go (sound : traffic.Sound) {move : Move} {call : Call} {candidate : EntryId}
    (own : move.proceeds number = true) (there : traffic.calls[number]? = some call)
    (made : call.candidate? = some candidate)
    (lets : (call.step move.moment traffic.cache).1.candidate? = none) :
    (traffic.take move).isShown candidate = true := by
  have known := (sound.hidden call (List.mem_of_getElem? there) candidate made).1
  rw [take_of_proceeds own there]
  refine (isShown_iff _ _).mpr ⟨?_, fun other inside same => ?_⟩
  · exact ((Call.effect_step move.moment traffic.cache call).keeps known).1
  · rcases mem_set_calls inside with rfl | ⟨place, apart, old⟩
    · rw [lets] at same
      cases same
    · exact apart (sound.single place number other call old there candidate same made)

/-- A lookup that finds another entry at its swap takes that one. -/
theorem take_of_lost {move : Move} {found candidate current : EntryId}
    (own : move.proceeds number = true)
    (swaps : traffic.calls[number]? = some (.lookup asked (.swapping found candidate)))
    (there : traffic.lookup asked.key = some current) (other : current ≠ found) :
    traffic.take move =
      ⟨traffic.cache, traffic.calls.set number (.lookup asked (.finished (.ok current)))⟩ := by
  rw [take_of_proceeds own swaps]
  simp only [lookup] at there
  simp [Call.step, Lookup.step, Lookup.swap, there, other]

/-- No key ever maps to a copy dropped at the swap. -/
theorem not_mapped_of_lost (sound : start.Sound) {passed rest : List Move} {move : Move}
    {found candidate current : EntryId} (own : move.proceeds number = true)
    (swaps : (start.run passed).calls[number]? = some (.lookup asked (.swapping found candidate)))
    (there : (start.run passed).lookup asked.key = some current) (other : current ≠ found)
    {reached : List Move} (inside : reached <+: passed ++ move :: rest) (key : String) :
    (start.run reached).lookup key ≠ some candidate := by
  intro maps
  have before := sound.run passed
  have place := List.mem_of_getElem? swaps
  have unseen : (start.run passed).isShown candidate ≠ true := fun shown =>
    Sound.ne_of_shown place rfl shown rfl
  rcases List.prefix_or_prefix_of_prefix inside (List.prefix_append passed (move :: rest)) with
    early | late
  · obtain ⟨more, rfl⟩ := early
    rw [run_append] at unseen
    exact unseen (isShown_run ((sound.run reached).mapped key candidate maps) more)
  · obtain ⟨more, rfl⟩ := late
    cases more with
    | nil =>
        rw [List.append_nil] at maps
        exact unseen (before.mapped key candidate maps)
    | cons first more =>
        obtain rfl : first = move := by
          have begins := (List.prefix_append_right_inj passed).mp inside
          exact (List.cons_prefix_cons.mp begins).1
        have step := take_of_lost own swaps there other
        have shown : ((start.run passed).take first).isShown candidate = true := by
          refine isShown_of_let_go before own swaps rfl ?_
          simp only [lookup] at there
          simp [Call.step, Lookup.step, Lookup.swap, there, other, Call.candidate?]
        rw [run_append, run_cons] at maps
        have sight := lookup_of_run shown maps
        rw [step] at sight
        exact unseen (before.mapped key candidate sight)

/-- A copy that was dropped at the swap is returned by nobody. -/
theorem not_returned_of_lost (sound : start.Sound) (fresh : start.calls = []) {passed rest : List Move}
    {move : Move} {found candidate current : EntryId} (own : move.proceeds number = true)
    (swaps : (start.run passed).calls[number]? = some (.lookup asked (.swapping found candidate)))
    (there : (start.run passed).lookup asked.key = some current) (other : current ≠ found)
    (place : Nat) (request : Lookup) :
    (start.run (passed ++ move :: rest)).calls[place]? ≠
      some (.lookup request (.finished (.ok candidate))) := by
  intro returned
  obtain ⟨earlier, last, inside, -, -, sight⟩ :=
    seen_of_known fresh place request _ returned candidate rfl
  rcases sight with before | after
  · have reached := (List.prefix_append earlier [last]).trans inside
    exact not_mapped_of_lost sound own swaps there other reached request.key before
  · have after : (start.run (earlier ++ [last])).lookup request.key = some candidate := by
      rw [run_append]
      exact after
    exact not_mapped_of_lost sound own swaps there other inside request.key after

/-- A failed lookup has met a fault at its own step. -/
theorem fault_of_failed (number : Nat) (asked : Lookup) (fault : ClockFault)
    (later : start.calls.length ≤ number)
    (failed : (start.run moves).calls[number]? = some (.lookup asked (.finished (.error fault)))) :
    ∃ move ∈ moves, move.proceeds number = true ∧ move.moment.monotonic = .error fault := by
  induction moves using List.reverseRecOn with
  | nil =>
      have bound := (List.getElem?_eq_some_iff.mp failed).1
      exact absurd bound (Nat.not_lt.mpr later)
  | append_singleton moves move ih =>
      rw [run_append, run_cons, run_nil] at failed
      have old (before : (start.run moves).calls[number]? =
          some (.lookup asked (.finished (.error fault)))) :
          ∃ other ∈ moves ++ [move], other.proceeds number = true ∧
            other.moment.monotonic = .error fault := by
        obtain ⟨other, inside, so⟩ := ih before
        exact ⟨other, List.mem_append_left _ inside, so⟩
      rcases lookup_call_cases failed with ⟨phase, own, before, step, -⟩ | ⟨-, before⟩ | ⟨none, -⟩
      · rcases Lookup.fault_step step.symm with same | read
        · exact old (same ▸ before)
        · exact ⟨move, by simp, own, read⟩
      · exact old before
      · cases none

/-- A lookup comes to its end in as many steps as remain. -/
theorem over_of_steps (there : traffic.calls[number]? = some (.lookup asked phase))
    (steps : Lookup.remaining phase ≤ moves.countP (·.proceeds number)) :
    ∃ outcome, (traffic.run moves).calls[number]? = some (.lookup asked (.finished outcome)) := by
  induction moves generalizing traffic phase with
  | nil =>
      cases phase with
      | finished outcome => exact ⟨outcome, there⟩
      | _ => simp [Lookup.remaining] at steps
  | cons move rest ih =>
      rw [List.countP_cons] at steps
      cases own : move.proceeds number with
      | false =>
          refine ih (call_take_idle there own) ?_
          simpa [own] using steps
      | true =>
          have bound := (List.getElem?_eq_some_iff.mp there).1
          have next : (traffic.take move).calls[number]? =
              some (.lookup asked (asked.step phase move.moment traffic.cache).1) := by
            rw [take_of_proceeds own there]
            simp [Call.step, bound]
          refine ih next ?_
          have nearer := asked.remaining_step phase move.moment traffic.cache
          rw [own, if_pos rfl] at steps
          by_cases running : Lookup.remaining phase = 0
          · cases phase with
            | finished outcome => simp [Lookup.step, Lookup.remaining]
            | _ => cases running
          · exact Nat.le_of_lt_succ ((nearer running).trans_le steps)

end Traffic

end SingleFlight
