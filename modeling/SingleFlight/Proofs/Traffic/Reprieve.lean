import SingleFlight.Proofs.Traffic.Course
import SingleFlight.Proofs.Traffic.Departed
import SingleFlight.Proofs.Traffic.Provenance

namespace SingleFlight.Traffic

/-- A move of a run takes an entry out of its key. -/
def Leaves (traffic : Traffic) (moves : List Move) (key : String) (entry : EntryId) : Prop :=
  traffic.Occurs moves fun passed move => (key, entry) ∈ passed.takenOut move

variable {traffic : Traffic} {key : String} {entry found : EntryId} {moves : List Move} {move : Move}

/-- A lock operation takes out nothing. -/
theorem takenOut_of_target (inPlace : traffic.cache.store.segments.InPlace)
    (target : move.target? ≠ none) : traffic.takenOut move = [] := by
  refine takenOut_eq_nil inPlace fun key => ?_
  obtain ⟨action, moment⟩ := move
  cases action with
  | acquire _ _ _ | commit _ _ _ _ | release _ _ =>
      simp only [take, lookup, Store.lookup]
      rw [segments_onEntry]
  | _ => exact absurd rfl target

/-- A mapped entry has left once its key maps elsewhere. -/
theorem leaves_iff (sound : traffic.Sound) (inPlace : traffic.cache.store.segments.InPlace)
    (maps : traffic.lookup key = some entry) :
    traffic.Leaves moves key entry ↔ (traffic.run moves).lookup key ≠ some entry := by
  induction moves using List.reverseRecOn with
  | nil => simp [Leaves, Occurs, maps]
  | append_singleton moves last ih =>
      have shown := isShown_run (sound.mapped key entry maps) moves
      rw [Leaves, occurs_concat_iff, run_append, run_cons, run_nil,
        mem_takenOut_iff (inPlace_run inPlace moves)]
      by_cases still : (traffic.run moves).lookup key = some entry
      · have stays : ¬ traffic.Leaves moves key entry := fun left => ih.mp left still
        simp only [Leaves] at stays
        simp [stays, still]
      · have left := ih.mpr still
        exact ⟨fun _ back => still (lookup_of_take shown back), fun _ => .inl left⟩

variable {number : Nat} {progress : Sweep.Progress} {rest : List String}

/-- A sweep that no longer finds its entry changes nothing. -/
theorem take_of_left (own : move.proceeds number = true)
    (judged : traffic.calls[number]? = some (.sweep (.removing progress key found rest)))
    (gone : traffic.lookup key ≠ some found) :
    traffic.take move =
      ⟨traffic.cache, traffic.calls.set number (.sweep (.visiting progress rest))⟩ := by
  simp only [lookup] at gone
  have kept : traffic.cache.store.evict key found = (false, traffic.cache.store) := by
    simp [Store.evict, gone]
  rw [take_of_proceeds own judged]
  simp [Call.step, Sweep.step, kept, Sweep.Progress.count]

/-- A sweep that finds its entry takes it out, whatever its state. -/
theorem take_of_stayed (own : move.proceeds number = true)
    (judged : traffic.calls[number]? = some (.sweep (.removing progress key found rest)))
    (maps : traffic.lookup key = some found) :
    traffic.take move =
      ⟨⟨traffic.cache.heap, (traffic.cache.store.evict key found).2⟩, traffic.calls.set number
        (.sweep (.visiting { progress with evicted := progress.evicted + 1 } rest))⟩ := by
  simp only [lookup] at maps
  rw [take_of_proceeds own judged]
  simp [Call.step, Sweep.step, Store.evict, maps, Sweep.Progress.count]

/-- A judged entry survives its sweep exactly if it has left its key before. -/
theorem saved_iff_leaves (hash : String → Nat) (count : Nat) (positive : 0 < count) (ceiling : Duration)
    {before between : List Move}
    (stored : ((opened hash count positive ceiling).run before).lookup key = some found)
    (judged : ((opened hash count positive ceiling).run before).calls[number]? =
      some (.sweep (.removing progress key found rest)))
    (others : ∀ move ∈ between, move.proceeds number = false)
    (own : move.proceeds number = true) :
    let checked := (opened hash count positive ceiling).run before
    let later := checked.run between
    let after := later.take move
    (checked.Leaves between key found →
      after.calls[number]? = some (.sweep (.visiting progress rest)) ∧
        after.cache = later.cache ∧ ∀ moves, (after.run moves).lookup key ≠ some found) ∧
    (¬ checked.Leaves between key found →
      after.calls[number]? =
          some (.sweep (.visiting { progress with evicted := progress.evicted + 1 } rest)) ∧
        after.lookup key = none ∧ (∀ other ≠ key, after.lookup other = later.lookup other) ∧
        after.cache.store.evictions = later.cache.store.evictions + 1 ∧
        after.cache.heap = later.cache.heap) ∧
    ((∀ move ∈ between, move.target? ≠ none) → ¬ checked.Leaves between key found) := by
  intro checked later after
  have sound : checked.Sound := sound_run_opened hash count positive ceiling before
  have placed : checked.cache.store.segments.InPlace :=
    inPlace_run (Segments.inPlace_empty hash count positive) before
  have still : later.calls[number]? = some (.sweep (.removing progress key found rest)) :=
    call_run_idle judged others
  have bound := (List.getElem?_eq_some_iff.mp still).1
  have left : checked.Leaves between key found ↔ later.lookup key ≠ some found :=
    leaves_iff sound placed stored
  refine ⟨fun leaves => ?_, fun stays => ?_, fun locks leaves => ?_⟩
  · have gone := left.mp leaves
    have unmoved := take_of_left own still gone
    refine ⟨by simp [after, unmoved, bound], by simp only [after, unmoved], fun moves back => gone ?_⟩
    have shown := isShown_run (sound.mapped key found stored) between
    rw [← run_cons] at back
    exact lookup_of_run shown back
  · have maps : later.lookup key = some found := not_not.mp (mt left.mpr stays)
    have taken := take_of_stayed own still maps
    simp only [lookup] at maps
    have lookups (other : String) : after.lookup other =
        if other = key then none else later.lookup other := by
      simp [after, taken, lookup, Store.lookup_evict, maps]
    refine ⟨by simp [after, taken, bound], by simp [lookups], fun other apart => ?_, ?_,
      by simp only [after, taken]⟩
    · rw [lookups, if_neg apart]
    · simp [after, taken, Store.evict, maps]
  · obtain ⟨passed, move, inside, taken⟩ := leaves
    rw [takenOut_of_target (inPlace_run placed passed) (locks move (inside.subset (by simp)))] at taken
    cases taken

/-- An entry has expired when a sweep comes along and judges it. -/
def doomed : List Move :=
  [.timed 0 (.begin (.lookup ⟨"k", none, ⟨5⟩⟩)), .timed 0 (.proceed 0), .timed 5 (.begin .sweep)] ++
    List.replicate 5 (.timed 5 (.proceed 1))

/-- A producer takes the lock of the entry and commits. -/
def rescue : List Move :=
  [.timed 5 (.acquire ⟨1⟩ ⟨0⟩ (.ifStale none)), .timed 5 (.commit ⟨1⟩ ⟨0⟩ "x" none)]

theorem judged_doomed : ((opened (fun _ => 0) 1 Nat.one_pos ⟨9⟩).run doomed).calls[1]? =
    some (.sweep (.removing ⟨⟨5⟩, 1, 0⟩ "k" ⟨0⟩ [])) := rfl

theorem stored_doomed :
    ((opened (fun _ => 0) 1 Nat.one_pos ⟨9⟩).run doomed).lookup "k" = some ⟨0⟩ := by
  decide +kernel

/-- The sweep takes out the content that has just been committed. -/
theorem saved_iff_leaves_of_rescue :
    let later := ((opened (fun _ => 0) 1 Nat.one_pos ⟨9⟩).run doomed).run rescue
    let after := later.take (.timed 5 (.proceed 1))
    (later.state ⟨0⟩).content = some "x" ∧ after.lookup "k" = none ∧
      after.cache.store.evictions = later.cache.store.evictions + 1 := by
  intro later after
  have locks : ∀ move ∈ rescue, move.target? ≠ none := by decide
  have others : ∀ move ∈ rescue, move.proceeds 1 = false := by decide
  obtain ⟨-, removed, unsaved⟩ := saved_iff_leaves (fun _ => 0) 1 Nat.one_pos ⟨9⟩ stored_doomed
    judged_doomed others (show (Move.timed 5 (.proceed 1)).proceeds 1 = true from rfl)
  obtain ⟨-, gone, -, counted, -⟩ := removed (unsaved locks)
  exact ⟨by decide +kernel, gone, counted⟩

/-- An acquisition and a commit do not always save their entry. -/
theorem not_always_saved :
    ¬ ∀ hash count, ∀ positive : 0 < count, ∀ ceiling before between move number progress key found rest,
      ((opened hash count positive ceiling).run before).lookup key = some found →
      ((opened hash count positive ceiling).run before).calls[number]? =
        some (.sweep (.removing progress key found rest)) →
      (((opened hash count positive ceiling).run before).state found).hold = none →
      (∀ move ∈ between, Move.proceeds move number = false) →
      ((opened hash count positive ceiling).run before).Occurs between (fun passed move =>
        (∃ thread time, passed.grants move thread found time) ∨
          ∃ content, passed.commits move found content) →
      Move.proceeds move number = true →
      ((((opened hash count positive ceiling).run before).run between).take move).lookup key =
        some found := by
  intro always
  have others : ∀ move ∈ rescue, move.proceeds 1 = false := by decide
  have produced : ((opened (fun _ => 0) 1 Nat.one_pos ⟨9⟩).run doomed).Occurs rescue
      (fun passed move => (∃ thread time, passed.grants move thread ⟨0⟩ time) ∨
        ∃ content, passed.commits move ⟨0⟩ content) := by
    refine ⟨[], .timed 5 (.acquire ⟨1⟩ ⟨0⟩ (.ifStale none)), ⟨_, rfl⟩, .inl ⟨⟨1⟩, ⟨5⟩, ?_⟩⟩
    exact ⟨.ifStale none, rfl, rfl, by decide +kernel, by decide +kernel⟩
  have stays := always (fun _ => 0) 1 Nat.one_pos ⟨9⟩ doomed rescue (.timed 5 (.proceed 1)) 1 _ "k" ⟨0⟩
    _ stored_doomed judged_doomed (by decide +kernel) others produced rfl
  have gone : ((((opened (fun _ => 0) 1 Nat.one_pos ⟨9⟩).run doomed).run rescue).take
      (.timed 5 (.proceed 1))).lookup "k" = none := by decide +kernel
  rw [gone] at stays
  cases stays

end SingleFlight.Traffic
