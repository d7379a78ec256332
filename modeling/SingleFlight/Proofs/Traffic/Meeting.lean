import SingleFlight.Proofs.Traffic.Agreement
import SingleFlight.Proofs.Traffic.Holds

namespace SingleFlight

namespace Move

/-- Whether a move is an acquisition of a lock. -/
def acquires (move : Move) : Bool :=
  match move.action with
  | .acquire _ _ _ => true
  | _ => false

/-- Whether a thread commits on an entry or releases it. -/
def yields (move : Move) (thread : ThreadId) (entry : EntryId) : Bool :=
  match move.action with
  | .commit caller target _ _ | .release caller target => caller == thread && target == entry
  | _ => false

theorem yields_of_aside {move : Move} (aside : move.target? = none) (thread : ThreadId)
    (entry : EntryId) : move.yields thread entry = false := by
  obtain ⟨action, moment⟩ := move
  cases action <;> first | rfl | cases aside

/-- A lock operation other than an acquisition takes no lock. -/
theorem hold_of_idle {move : Move} (idle : move.acquires = false) {entry : Entry} {hold : Hold}
    (held : (move.applied entry).hold = some hold) : entry.hold = some hold := by
  unfold applied at held
  split at held
  · next asks => simp [acquires, asks] at idle
  · rw [Entry.commit_eq] at held
    split at held
    · cases read : move.moment.monotonic with
      | error fault => simpa [read] using held
      | ok now => simp [read] at held
    · exact held
  · unfold Entry.release at held
    split at held
    · cases held
    · exact held
  all_goals exact held

/-- A locked entry does not change while its owner leaves it alone. -/
theorem applied_of_kept {move : Move} {target : EntryId} (about : move.target? = some target)
    {entry : Entry} {hold : Hold} (held : entry.hold = some hold)
    (kept : ∀ thread, entry.isHeldBy thread = true → move.yields thread target = false) :
    move.applied entry = entry := by
  obtain ⟨action, moment⟩ := move
  cases action with
  | acquire caller name request => simp [applied, Entry.acquire, held]
  | commit caller name content tag =>
      obtain rfl : name = target := by simpa [target?] using about
      have other : entry.isHeldBy caller ≠ true := fun owned => by
        simpa [yields] using kept caller owned
      simp [applied, Entry.commit_eq, other]
  | release caller name =>
      obtain rfl : name = target := by simpa [target?] using about
      have other : entry.isHeldBy caller ≠ true := fun owned => by
        simpa [yields] using kept caller owned
      simp [applied, Entry.release, other]
  | _ => cases about

end Move

/-- A lock that is abandoned is held. -/
theorem Entry.hold_of_isAbandoned {entry : Entry} {now : Instant}
    (abandoned : entry.isAbandoned now = true) : ∃ hold, entry.hold = some hold := by
  cases held : entry.hold with
  | none => simp [isAbandoned, held] at abandoned
  | some hold => exact ⟨hold, rfl⟩

namespace Traffic
variable {start traffic : Traffic} {key : String} {moves : List Move} {move : Move}

/-- Without an acquisition a lock that is held has been held before. -/
theorem hold_take_of_idle (idle : move.acquires = false) {entry : EntryId} {hold : Hold}
    (held : ((traffic.take move).state entry).hold = some hold) :
    (traffic.state entry).hold = some hold := by
  have change := traffic.change_take move
  generalize traffic.take move = after at change held
  cases change with
  | proceeded place effect => exact effect.hold_cases held
  | @operated target asks shown =>
      have changed : ((traffic.cache.setEntry target (move.applied (traffic.state target))).heap.get
        entry).hold = some hold := held
      rw [Change.state_operated traffic _ (holds_of_isShown shown) entry] at changed
      split at changed
      · next same => rw [same]; exact Move.hold_of_idle idle changed
      · exact changed
  | _ => exact held

/-- Without acquisitions an entry that is unlocked stays so. -/
theorem unlocked_run {entry : EntryId} (idle : ∀ move ∈ moves, Move.acquires move = false)
    (unlocked : (start.state entry).hold = none) : ((start.run moves).state entry).hold = none := by
  induction moves generalizing start with
  | nil => exact unlocked
  | cons move rest ih =>
      refine ih (fun other inside => idle other (List.mem_cons_of_mem move inside)) ?_
      by_contra held
      obtain ⟨hold, taken⟩ := Option.ne_none_iff_exists'.mp held
      rw [hold_take_of_idle (idle move List.mem_cons_self) taken] at unlocked
      cases unlocked

/-- A locked entry that its owner leaves alone does not change. -/
theorem state_run_of_kept {entry : EntryId} {hold : Hold}
    (known : start.cache.heap.holds entry = true) (held : (start.state entry).hold = some hold)
    (kept : ∀ move ∈ moves, ∀ thread, (start.state entry).isHeldBy thread = true →
      Move.yields move thread entry = false) :
    (start.run moves).state entry = start.state entry := by
  induction moves generalizing start with
  | nil => rfl
  | cons move rest ih =>
      have same : (start.take move).state entry = start.state entry := by
        cases about : move.target? with
        | none => exact state_take_of_aside about known
        | some target =>
            rw [state_take_of_target about]
            split
            · next mine =>
                obtain ⟨-, rfl⟩ := mine
                exact Move.applied_of_kept about held (kept move List.mem_cons_self)
            · rfl
      rw [run_cons, ih (holds_take move known) (same ▸ held) fun other inside thread owned =>
        kept other (List.mem_cons_of_mem move inside) thread (same ▸ owned), same]

/-- A lock is abandoned at every reading, and its owner stays away. -/
structure Forsaken (start : Traffic) (entry : EntryId) (moves : List Move) : Prop where
  abandoned : ∀ move ∈ moves, ∀ now, move.instant? = some now →
    (start.state entry).isAbandoned now = true
  kept : ∀ move ∈ moves, ∀ thread, (start.state entry).isHeldBy thread = true →
    move.yields thread entry = false

/-- Lookups of a key meet, and only its first entry is judged abandoned. -/
structure Meeting (start : Traffic) (key : String) (moves : List Move) : Prop where
  settled : ∀ call ∈ start.calls, call.isOver = true
  asks : ∀ move ∈ moves, move.asksFor key = true
  fresh : (∀ move ∈ moves, move.acquires = false) ∨
    ¬ start.Occurs moves fun passed move => ∃ found now, passed.judges move found now ∧
      start.lookup key ≠ some found ∧ (passed.state found).isAbandoned now = true

namespace Meeting

/-- At a meeting exactly the first entry is judged abandoned. -/
theorem judged_iff (meeting : start.Meeting key moves) (sound : start.Sound)
    (forsaken : ∀ first, start.lookup key = some first → start.Forsaken first moves)
    {passed : List Move} (inside : passed ++ [move] <+: moves)
    (agrees : start.Agrees (start.run passed) key) {found : EntryId} {now : Instant}
    (judges : (start.run passed).judges move found now) :
    ((start.run passed).state found).isAbandoned now = true ↔ start.lookup key = some found := by
  have rest {move : Move} (there : move ∈ passed) : move ∈ moves :=
    inside.subset (List.mem_append_left _ there)
  have spoils := judges
  obtain ⟨number, asked, own, place⟩ := judges
  have late : start.calls.length ≤ number := by
    by_contra early
    cases agrees.past number _ (Nat.not_le.mp early) place
  obtain ⟨-, first | decided⟩ := agrees.calls number _ late place
  · refine ⟨fun _ => first, fun _ => ?_⟩
    have left := forsaken found first
    obtain ⟨reads, there, read⟩ : ∃ move ∈ passed, move.instant? = some now := by
      rcases origin_of_run (·.reading? = some now) (·.instant? = some now) reading_origin start passed
        _ (List.mem_of_getElem? place) rfl with ⟨old, before, reading⟩ | taken
      · have nothing := Call.reading_of_isOver (meeting.settled old before)
        rw [nothing] at reading
        cases reading
      · exact taken
    have abandoned := left.abandoned reads (rest there) now read
    obtain ⟨hold, held⟩ := Entry.hold_of_isAbandoned abandoned
    have known := holds_of_isShown (sound.mapped key found first)
    rw [state_run_of_kept known held fun move there => left.kept move (rest there)]
    exact abandoned
  · refine ⟨fun abandoned => ?_, fun first => absurd first decided.apart⟩
    rcases meeting.fresh with idle | clean
    · have unmade : (start.state found).hold = none := by
        rw [state, Heap.get_of_not_holds decided.new]
        rfl
      obtain ⟨hold, held⟩ := Entry.hold_of_isAbandoned abandoned
      rw [unlocked_run (fun move there => idle move (rest there)) unmade] at held
      cases held
    · exact absurd ⟨passed, move, inside, found, now, spoils, decided.apart, abandoned⟩ clean

/-- At a meeting the lookups of the key agree. -/
theorem agrees (meeting : start.Meeting key moves) (sound : start.Sound)
    (forsaken : ∀ first, start.lookup key = some first → start.Forsaken first moves) :
    start.Agrees (start.run moves) key :=
  .run sound meeting.settled meeting.asks fun _ _ inside agrees _ _ judges =>
    meeting.judged_iff sound forsaken inside agrees judges

/-- Each lookup of a meeting fails, or returns the new entry of the key. -/
theorem returned (meeting : start.Meeting key moves) (sound : start.Sound)
    (forsaken : ∀ first, start.lookup key = some first → start.Forsaken first moves)
    {number : Nat} {asked : Lookup} {outcome : Except ClockFault EntryId}
    (late : start.calls.length ≤ number)
    (place : (start.run moves).calls[number]? = some (.lookup asked (.finished outcome))) :
    (∃ fault, outcome = .error fault ∧
      ∃ move ∈ moves, move.proceeds number = true ∧ move.moment.monotonic = .error fault) ∨
    ∃ entry, outcome = .ok entry ∧ start.cache.Decided (start.run moves).cache key entry := by
  cases outcome with
  | error fault => exact .inl ⟨fault, rfl, fault_of_failed number asked fault late place⟩
  | ok entry => exact .inr ⟨entry, rfl, ((meeting.agrees sound forsaken).calls number _ late place).2⟩

end Meeting

/-- However the lookups of one key overlap, all return one entry, within six steps. -/
theorem lookups_agree (hash : String → Nat) (count : Nat) (positive : 0 < count) (ceiling : Duration)
    (history : List Move) :
    let empty := opened hash count positive ceiling
    let start := empty.run history
    (∀ key moves number asked outcome, start.Meeting key moves → start.lookup key = none →
      start.calls.length ≤ number →
      (start.run moves).calls[number]? = some (.lookup asked (.finished outcome)) →
        (∃ fault, outcome = .error fault ∧
          ∃ move ∈ moves, move.proceeds number = true ∧ move.moment.monotonic = .error fault) ∨
        ∃ entry, outcome = .ok entry ∧ (start.run moves).lookup key = some entry ∧
          (start.run moves).cache.store.created = start.cache.store.created + 1 ∧
          (start.run moves).cache.store.replaced = start.cache.store.replaced) ∧
    (∀ key moves first number asked outcome, start.Meeting key moves →
      start.lookup key = some first → start.Forsaken first moves → start.calls.length ≤ number →
      (start.run moves).calls[number]? = some (.lookup asked (.finished outcome)) →
        (∃ fault, outcome = .error fault ∧
          ∃ move ∈ moves, move.proceeds number = true ∧ move.moment.monotonic = .error fault) ∨
        ∃ entry, outcome = .ok entry ∧ (start.run moves).lookup key = some entry ∧ entry ≠ first ∧
          start.tally Call.replaces moves = 1 ∧
          (start.run moves).cache.store.replaced = start.cache.store.replaced + 1 ∧
          (start.run moves).cache.store.created = start.cache.store.created) ∧
    (∀ (number : Nat) asked phase moves, start.calls[number]? = some (.lookup asked phase) →
      6 ≤ moves.countP (·.proceeds number) →
        ∃ outcome, (start.run moves).calls[number]? = some (.lookup asked (.finished outcome))) ∧
    (∀ (number : Nat) asked entry, start.calls[number]? = some (.lookup asked (.finished (.ok entry))) →
      empty.Occurs history (·.sees · number asked entry)) ∧
    (∀ passed move rest number asked found candidate current, history = passed ++ move :: rest →
      move.proceeds number = true →
      (empty.run passed).calls[number]? = some (.lookup asked (.swapping found candidate)) →
      (empty.run passed).lookup asked.key = some current → current ≠ found →
        ∀ (place : Nat) request, start.calls[place]? ≠ some (.lookup request (.finished (.ok candidate)))) := by
  intro empty start
  have sound : start.Sound := sound_run_opened hash count positive ceiling history
  refine ⟨?_, ?_, ?_, ?_, ?_⟩
  · intro key moves number asked outcome meeting absent late place
    have forsaken : ∀ first, start.lookup key = some first → start.Forsaken first moves :=
      fun first maps => by rw [absent] at maps; cases maps
    refine (meeting.returned sound forsaken late place).imp_right fun ⟨entry, same, decided⟩ => ?_
    have none : start.cache.store.lookup key = none := absent
    exact ⟨entry, same, decided.maps, by simpa [none] using decided.created,
      by simpa [none] using decided.replaced⟩
  · intro key moves first number asked outcome meeting maps left late place
    have forsaken : ∀ other, start.lookup key = some other → start.Forsaken other moves :=
      fun other same => by rw [← Option.some.inj (maps.symm.trans same)]; exact left
    refine (meeting.returned sound forsaken late place).imp_right fun ⟨entry, same, decided⟩ => ?_
    have some : start.cache.store.lookup key = some first := maps
    have replaced : (start.run moves).cache.store.replaced = start.cache.store.replaced + 1 := by
      simpa [some] using decided.replaced
    have once : _ = start.cache.store.replaced + _ := replaced_run moves
    refine ⟨entry, same, decided.maps, ?_, by omega, replaced, by simpa [some] using decided.created⟩
    rintro rfl
    exact decided.apart maps
  · intro number asked phase moves place steps
    refine over_of_steps place (le_trans ?_ steps)
    cases phase <;> simp [Lookup.remaining]
  · intro number asked entry place
    exact seen_of_known rfl number asked _ place entry rfl
  · rintro passed move rest number asked found candidate current split own swaps there other place request
    have known : start = empty.run (passed ++ move :: rest) := by rw [← split]
    rw [known]
    exact not_returned_of_lost (sound_opened hash count positive ceiling) rfl own swaps there other place
      request

/-- A producer takes the lock of a new entry and is gone. -/
def forsaking : List Move :=
  [.timed 0 (.begin (.lookup ⟨"k", none, ⟨5⟩⟩)), .timed 0 (.proceed 0),
    .timed 0 (.acquire ⟨1⟩ ⟨0⟩ .forced)]

/-- Two lookups have made copies when one comes to its swap. -/
def rivals : List Move :=
  [.timed 9 (.begin (.lookup ⟨"k", none, ⟨5⟩⟩)), .timed 9 (.begin (.lookup ⟨"k", none, ⟨5⟩⟩))] ++
    List.replicate 5 (.timed 9 (.proceed 1)) ++ List.replicate 6 (.timed 9 (.proceed 2)) ++
    [.timed 9 (.proceed 1)]

/-- The second lookup drops its copy and returns the first one's. -/
theorem lookups_agree_of_rivals :
    let start := (opened (fun _ => 0) 1 Nat.one_pos ⟨9⟩).run forsaking
    let moves := rivals
    let traffic := start.run moves
    traffic.calls[1]? = some (.lookup ⟨"k", none, ⟨5⟩⟩ (.finished (.ok ⟨2⟩))) ∧
      traffic.lookup "k" = some ⟨2⟩ ∧ traffic.cache.store.replaced = start.cache.store.replaced + 1 := by
  intro start moves traffic
  have place : traffic.calls[1]? = some (.lookup ⟨"k", none, ⟨5⟩⟩ (.finished (.ok ⟨2⟩))) := by
    decide +kernel
  have meeting : start.Meeting "k" moves := ⟨by decide +kernel, by decide +kernel, .inl (by decide +kernel)⟩
  have stored : start.lookup "k" = some ⟨0⟩ := by decide +kernel
  have late : start.calls.length ≤ 1 := by decide +kernel
  have abandoned : (start.state ⟨0⟩).isAbandoned ⟨9⟩ = true := by decide +kernel
  have times : ∀ move ∈ moves, move.instant? = some ⟨9⟩ := by decide +kernel
  have aside : ∀ move ∈ moves, move.target? = none := by decide +kernel
  -- With the moves in sight, each comparison would run them again; what is known of them is enough.
  clear_value moves
  have forsaken : start.Forsaken ⟨0⟩ moves := by
    refine ⟨fun move inside now read => ?_, fun move inside thread _ => ?_⟩
    · obtain rfl := Option.some.inj ((times move inside).symm.trans read)
      exact abandoned
    · exact Move.yields_of_aside (aside move inside) thread ⟨0⟩
  obtain ⟨-, agree, -⟩ := lookups_agree (fun _ => 0) 1 Nat.one_pos ⟨9⟩ forsaking
  rcases agree "k" moves ⟨0⟩ 1 _ _ meeting stored forsaken late place with
    ⟨fault, failed, -⟩ | ⟨entry, same, maps, -, -, replaced, -⟩
  · cases failed
  · cases same
    exact ⟨place, maps, replaced⟩

end Traffic

end SingleFlight
