import SingleFlight.Proofs.Traffic.Sound

namespace SingleFlight.Lookup
variable {asked : Lookup} {phase : Phase} {cache : Cache} {moment : Moment} {moments : List Moment}

/-- A lone lookup until it is over, and the moments it has not used. -/
def solo (asked : Lookup) : Phase × Cache → List Moment → (Phase × Cache) × List Moment
  | state, [] => (state, [])
  | state, moment :: rest =>
    if remaining state.1 = 0 then (state, moment :: rest)
    else
      let (next, cache, _) := asked.step state.1 moment state.2
      asked.solo (next, cache) rest

/-- The moves that a lookup makes in the traffic. -/
def moves (asked : Lookup) (number : Nat) (moments : List Moment) : List Move :=
  .timed 0 (.begin (.lookup asked)) :: moments.map (⟨.proceed number, ·⟩)

theorem solo_of_over (isOver : remaining phase = 0) (cache : Cache) (moments : List Moment) :
    asked.solo (phase, cache) moments = ((phase, cache), moments) := by
  cases moments with
  | nil => rfl
  | cons moment rest => rw [solo, if_pos isOver]

theorem solo_of_running (running : remaining phase ≠ 0) (cache : Cache) (moment : Moment)
    (rest : List Moment) :
    asked.solo (phase, cache) (moment :: rest) =
      asked.solo ((asked.step phase moment cache).1, (asked.step phase moment cache).2.1) rest := by
  rw [solo, if_neg running]

/-- A lookup that is over has an outcome. -/
theorem finished_of_remaining (isOver : remaining phase = 0) : ∃ outcome, phase = .finished outcome := by
  cases phase with
  | finished outcome => exact ⟨outcome, rfl⟩
  | _ => simp [remaining] at isOver

/-- A lookup is over after as many steps as it has left. -/
theorem solo_ends (asked : Lookup) (phase : Phase) (cache : Cache) {moments : List Moment}
    (enough : remaining phase ≤ moments.length) :
    (∃ outcome, (asked.solo (phase, cache) moments).1.1 = .finished outcome) ∧
      moments.length ≤ (asked.solo (phase, cache) moments).2.length + remaining phase := by
  induction moments generalizing phase cache with
  | nil => exact ⟨finished_of_remaining (Nat.le_zero.mp enough), Nat.zero_le _⟩
  | cons moment rest ih =>
      by_cases isOver : remaining phase = 0
      · rw [solo_of_over isOver]
        exact ⟨finished_of_remaining isOver, Nat.le_add_right _ _⟩
      · have shorter := asked.remaining_step phase moment cache isOver
        rw [List.length_cons] at enough
        obtain ⟨ended, left⟩ := ih (asked.step phase moment cache).1
          (asked.step phase moment cache).2.1 (by omega)
        rw [solo_of_running isOver, List.length_cons]
        exact ⟨ended, by omega⟩

/-- The moments that a lookup has not used are the last ones. -/
theorem solo_suffix (asked : Lookup) (phase : Phase) (cache : Cache) (moments : List Moment) :
    (asked.solo (phase, cache) moments).2 <:+ moments := by
  induction moments generalizing phase cache with
  | nil => exact List.suffix_rfl
  | cons moment rest ih =>
      by_cases isOver : remaining phase = 0
      · simp only [solo_of_over isOver, List.suffix_rfl]
      · rw [solo_of_running isOver]
        exact (ih _ _).trans (List.suffix_cons moment rest)

/-- A lookup gives the entry it finds if that is never seen abandoned. -/
theorem solo_kept {found : EntryId} (there : cache.store.lookup asked.key = some found)
    (kept : ∀ moment ∈ moments, ∃ now, moment.monotonic = .ok now ∧
      (cache.heap.get found).isAbandoned now = false)
    (enough : 3 ≤ moments.length) :
    (asked.solo (.finding, cache) moments).1 = (.finished (.ok found), cache) := by
  rcases moments with _ | ⟨first, _ | ⟨second, _ | ⟨third, rest⟩⟩⟩
  · simp at enough
  · simp at enough
  · simp at enough
  · obtain ⟨now, read, unabandoned⟩ := kept second (by simp)
    have looked : asked.step .finding first cache = (.timing found, cache, []) := by
      simp [Lookup.step, find, there]
    have timed : asked.step (.timing found) second cache = (.judging found now, cache, []) := by
      simp [Lookup.step, read]
    have judged : asked.step (.judging found now) third cache = (.finished (.ok found), cache, []) := by
      simp [Lookup.step, unabandoned]
    rw [solo_of_running (by simp [remaining]), looked, solo_of_running (by simp [remaining]), timed,
      solo_of_running (by simp [remaining]), judged, solo_of_over rfl]

/-- What the key of a lookup maps to while nothing interferes with it. -/
def Stands (asked : Lookup) (cache : Cache) : Phase → Prop
  | .timing found | .judging found _ | .copying found | .stamping found _ | .swapping found _
  | .finished (.ok found) => cache.store.lookup asked.key = some found
  | .finding | .finished (.error _) => True

/-- A step of a lone lookup keeps track of its key. -/
theorem Stands.step (stands : asked.Stands cache phase) (moment : Moment) :
    asked.Stands (asked.step phase moment cache).2.1 (asked.step phase moment cache).1 := by
  cases phase with
  | finding =>
      simp only [Lookup.step, find]
      cases there : cache.store.lookup asked.key with
      | some found => exact there
      | none =>
          cases moment.monotonic with
          | error fault => trivial
          | ok now => exact cache.store.segments.lookup_insert_self _ _
  | timing found =>
      simp only [Lookup.step]
      split
      · trivial
      · exact stands
  | judging found now =>
      simp only [Lookup.step]
      split <;> exact stands
  | copying found => exact stands
  | stamping found content =>
      simp only [Lookup.step]
      split
      · trivial
      · exact stands
  | swapping found candidate =>
      have maps : cache.store.lookup asked.key = some found := stands
      simp only [Lookup.step, swap, maps, if_true]
      exact cache.store.segments.lookup_insert_self _ _
  | finished outcome => exact stands

/-- A lookup that nothing interferes with gives what its key maps to. -/
theorem Stands.solo (stands : asked.Stands cache phase) (moments : List Moment) :
    asked.Stands (asked.solo (phase, cache) moments).1.2 (asked.solo (phase, cache) moments).1.1 := by
  induction moments generalizing phase cache with
  | nil => exact stands
  | cons moment rest ih =>
      by_cases isOver : remaining phase = 0
      · rwa [solo_of_over isOver]
      · rw [solo_of_running isOver]
        exact ih (stands.step moment)

/-- A lone lookup goes on by its own moves in the traffic. -/
theorem solo_run {traffic : Traffic} {number : Nat}
    (there : traffic.calls[number]? = some (.lookup asked phase)) (moments : List Moment) :
    ∃ used, moments = used ++ (asked.solo (phase, traffic.cache) moments).2 ∧
      (traffic.run (used.map (⟨.proceed number, ·⟩))).cache =
        (asked.solo (phase, traffic.cache) moments).1.2 := by
  induction moments generalizing traffic phase with
  | nil => exact ⟨[], rfl, rfl⟩
  | cons moment rest ih =>
      by_cases isOver : remaining phase = 0
      · rw [solo_of_over isOver]
        exact ⟨[], rfl, rfl⟩
      · let after := traffic.take ⟨.proceed number, moment⟩
        have stepped : after = ⟨(asked.step phase moment traffic.cache).2.1,
            traffic.calls.set number (.lookup asked (asked.step phase moment traffic.cache).1)⟩ := by
          simp [after, Traffic.take, there, Call.step]
        have inside : number < traffic.calls.length := (List.getElem?_eq_some_iff.mp there).1
        have next : after.calls[number]? =
            some (.lookup asked (asked.step phase moment traffic.cache).1) := by
          rw [stepped]
          simp [inside]
        obtain ⟨used, split, reached⟩ := ih next
        rw [stepped] at split reached
        rw [solo_of_running isOver]
        exact ⟨moment :: used, congrArg (moment :: ·) split, by
          rw [List.map_cons, Traffic.run_cons, show traffic.take _ = _ from stepped, reached]⟩

/-- A whole lookup that nothing interferes with is a run of the traffic. -/
theorem solo_moves (asked : Lookup) (traffic : Traffic) (moments : List Moment) :
    ∃ used, moments = used ++ (asked.solo (.finding, traffic.cache) moments).2 ∧
      (traffic.run (asked.moves traffic.calls.length used)).cache =
        (asked.solo (.finding, traffic.cache) moments).1.2 := by
  let begun := traffic.take (.timed 0 (.begin (.lookup asked)))
  have there : begun.calls[traffic.calls.length]? = some (.lookup asked .finding) := by
    simp [begun, Traffic.take, Move.timed, Traffic.admits, Task.start]
  exact solo_run there moments

end SingleFlight.Lookup
