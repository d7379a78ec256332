import SingleFlight.Proofs.Traffic.Gates
import SingleFlight.Proofs.Traffic.Provenance

namespace SingleFlight

/-- Behind a closed gate there is a content. -/
def Entry.Withholds (entry : Entry) : Prop := entry.content ≠ none ∧ entry.gateOpen = false

/-- A lock operation leaves the gate alone, unless it is a commit. -/
theorem Move.gate_cases (move : Move) (entry : Entry) :
    ((move.applied entry).gateOpen = entry.gateOpen ∧ (move.applied entry).content = entry.content ∧
      ∀ thread target content tag, move.action = .commit thread target content tag →
        (entry.commit thread content tag move.moment.monotonic).1 = .ok false) ∨
    ∃ thread target content tag, move.action = .commit thread target content tag ∧
      ((entry.commit thread content tag move.moment.monotonic).1 = .ok true ∧
          (move.applied entry).gateOpen = true ∨
        (∃ fault, (entry.commit thread content tag move.moment.monotonic).1 = .error fault) ∧
          (move.applied entry).gateOpen = entry.gateOpen) := by
  obtain ⟨action, moment⟩ := move
  cases action with
  | acquire caller target request =>
      left
      simp only [applied, reduceCtorEq, false_implies, implies_true, and_true]
      rcases entry.acquire_cases caller request moment.monotonic with
        ⟨_, -, same⟩ | ⟨-, _, -, same⟩ | ⟨-, _, -, -, same⟩ | ⟨-, _, -, -, same⟩ <;>
          simp only [same, and_self]
  | release caller target =>
      left
      simp only [applied, reduceCtorEq, false_implies, implies_true, and_true, Entry.release]
      split <;> trivial
  | commit caller target content tag =>
      rcases entry.commit_cases caller content tag moment.monotonic with
        ⟨-, same⟩ | ⟨-, fault, -, same⟩ | ⟨-, now, -, same⟩
      · have kept : applied ⟨.commit caller target content tag, moment⟩ entry = entry := by
          simp only [applied, same]
        refine .inl ⟨by rw [kept], by rw [kept], fun thread name text label asks => ?_⟩
        cases asks
        rw [same]
      · exact .inr ⟨caller, target, content, tag, rfl, .inr ⟨⟨fault, by rw [same]⟩, by
          simp only [applied, same]⟩⟩
      · exact .inr ⟨caller, target, content, tag, rfl, .inl ⟨by rw [same], by
          simp only [applied, same]⟩⟩
  | _ => exact .inl ⟨rfl, rfl, fun _ _ _ _ asks => by cases asks⟩

namespace Traffic
variable {traffic start : Traffic} {moves : List Move} {move : Move} {entry : EntryId}

/-- A commit that returns true, or the making of a copy. -/
def fills (traffic : Traffic) (move : Move) (entry : EntryId) : Prop :=
  (∃ content, traffic.commits move entry content) ∨
    ∃ content tag, traffic.copies move entry content tag

/-- A commit on an entry that cannot read the clock. -/
def breaksOn (traffic : Traffic) (move : Move) (entry : EntryId) : Prop :=
  ∃ thread content tag fault, move.action = .commit thread entry content tag ∧
    traffic.isShown entry = true ∧
    ((traffic.state entry).commit thread content tag move.moment.monotonic).1 = .error fault

/-- An entry whose gate is open has been given out. -/
theorem holds_of_gateOpen (isOpen : (traffic.state entry).gateOpen = true) :
    traffic.cache.heap.holds entry = true := by
  by_contra unknown
  rw [state, Heap.get_of_not_holds (by simpa using unknown)] at isOpen
  cases isOpen

/-- What a call makes as a copy has an open gate. -/
theorem gateOpen_of_copies {content : String} {tag : Option Tag}
    (copies : traffic.copies move entry content tag) :
    ((traffic.take move).state entry).gateOpen = true := by
  obtain ⟨number, call, proceeds, there, imprint, readable, rfl⟩ := copies
  obtain ⟨action, moment⟩ := move
  cases proceeds
  cases read : moment.monotonic with
  | error fault => simp [Move.instant?, read, Except.toOption] at readable
  | ok now =>
      cases call with
      | lookup asked phase =>
          cases phase with
          | stamping found copied =>
              obtain ⟨rfl, -⟩ : copied = some content ∧ asked.tag = tag := by
                simpa [Call.imprint?] using imprint
              simp [take, there, state, Call.step, Lookup.step, read, Entry.seeded]
          | _ => simp [Call.imprint?] at imprint
      | copying asked phase =>
          cases phase with
          | stamping copied =>
              obtain ⟨rfl, -⟩ : copied = some content ∧ asked.tag = tag := by
                simpa [Call.imprint?] using imprint
              simp [take, there, state, Call.step, Copying.step, read, Entry.seeded]
          | _ => simp [Call.imprint?] at imprint
      | _ => simp [Call.imprint?] at imprint

/-- A lock operation opens a gate only by a true commit. -/
theorem gateOpen_of_target {target : EntryId} (about : move.target? = some target) :
    ((traffic.take move).state entry).gateOpen = true ↔
      (traffic.state entry).gateOpen = true ∨ ∃ content, traffic.commits move entry content := by
  rw [traffic.state_take_of_target about entry]
  have names (thread : ThreadId) (name : EntryId) (content : String) (tag : Option Tag)
      (asks : move.action = .commit thread name content tag) : name = target := by
    simpa [Move.target?, asks] using about
  split
  · next same =>
      obtain ⟨shown, rfl⟩ := same
      rcases move.gate_cases (traffic.state entry) with
        ⟨gate, -, refused⟩ | ⟨thread, name, content, tag, asks, ⟨made, isOpen⟩ | ⟨⟨fault, fails⟩, gate⟩⟩
      · rw [gate, or_iff_left]
        rintro ⟨content, thread, tag, asks, -, made⟩
        rw [refused _ _ _ _ asks] at made
        cases made
      · obtain rfl := names _ _ _ _ asks
        exact ⟨fun _ => .inr ⟨content, thread, tag, asks, shown, made⟩, fun _ => isOpen⟩
      · rw [gate, or_iff_left]
        rintro ⟨text, caller, label, also, -, made⟩
        cases asks.symm.trans also
        rw [fails] at made
        cases made
  · next apart =>
      rw [or_iff_left]
      rintro ⟨content, thread, tag, asks, shown, -⟩
      obtain rfl := names _ _ _ _ asks
      exact apart ⟨shown, rfl⟩

/-- Apart from lock operations a gate opens only in the making. -/
theorem gateOpen_of_aside (aside : move.target? = none)
    (isOpen : ((traffic.take move).state entry).gateOpen = true) :
    (traffic.state entry).gateOpen = true ∨ ∃ content tag, traffic.copies move entry content tag := by
  obtain ⟨action, moment⟩ := move
  cases action with
  | proceed number =>
      cases there : traffic.calls[number]? with
      | none =>
          simp only [take, there] at isOpen
          exact .inl isOpen
      | some call =>
          have stepped : (traffic.take ⟨.proceed number, moment⟩).cache =
              (call.step moment traffic.cache).2 := by simp [take, there]
          have effect := Call.effect_step moment traffic.cache call
          rw [← stepped] at effect
          have same (kept : (traffic.take ⟨.proceed number, moment⟩).cache.heap.get entry =
              traffic.cache.heap.get entry) : (traffic.state entry).gateOpen = true := by
            rw [state, ← kept]
            exact isOpen
          rcases effect.state_cases entry with ⟨kept, -⟩ | ⟨-, gate⟩
          · exact .inl (same kept)
          · obtain ⟨content, filled⟩ := Option.isSome_iff_exists.mp (gate.symm.trans isOpen)
            rcases effect.imprint_cases filled with kept | ⟨imprint, ⟨now, read⟩, new⟩
            · exact .inl (same kept)
            · refine .inr ⟨content, _, number, call, rfl, there, imprint, ?_, new⟩
              rw [Move.instant?_of_read read]
              simp
  | begin task =>
      simp only [take] at isOpen
      split at isOpen <;> exact .inl isOpen
  | evict key target => exact .inl isOpen
  | _ => cases aside

/-- A move opens the gate of an entry exactly if it fills it. -/
theorem gateOpen_take :
    ((traffic.take move).state entry).gateOpen = true ↔
      (traffic.state entry).gateOpen = true ∨ traffic.fills move entry := by
  cases about : move.target? with
  | some target =>
      have uncopied : ¬ ∃ content tag, traffic.copies move entry content tag := by
        rintro ⟨content, tag, number, call, proceeds, -⟩
        simp [Move.target?, proceeds] at about
      rw [fills, or_iff_left uncopied]
      exact gateOpen_of_target about
  | none =>
      have uncommitted : ¬ ∃ content, traffic.commits move entry content := by
        rintro ⟨content, thread, tag, commits, -⟩
        simp [Move.target?, commits] at about
      rw [fills, or_iff_right uncommitted]
      constructor
      · exact gateOpen_of_aside about
      · rintro (before | ⟨content, tag, copies⟩)
        · rw [state_take_of_aside about (holds_of_gateOpen before)]
          exact before
        · exact gateOpen_of_copies copies

/-- A gate is open exactly after a true commit, or on a copy. -/
theorem gateOpen_iff (hash : String → Nat) (count : Nat) (positive : 0 < count) (ceiling : Duration)
    (moves : List Move) (entry : EntryId) :
    (((opened hash count positive ceiling).run moves).state entry).gateOpen = true ↔
      (opened hash count positive ceiling).Occurs moves (·.fills · entry) := by
  induction moves using List.reverseRecOn with
  | nil =>
      rw [run_nil, state_opened]
      constructor
      · intro isOpen
        cases isOpen
      · rintro ⟨passed, move, begins, -⟩
        simp at begins
  | append_singleton moves move ih =>
      rw [run_append, run_cons, run_nil, gateOpen_take, occurs_concat_iff, ih]

/-- A content is withheld only by a commit without a reading. -/
theorem withholds_take (after : ((traffic.take move).state entry).Withholds) :
    (traffic.state entry).Withholds ∨ traffic.breaksOn move entry := by
  have change := traffic.change_take move
  generalize traffic.take move = later at change after
  obtain ⟨filled, closed⟩ := after
  cases change with
  | proceeded place effect =>
      rcases effect.state_cases entry with ⟨same, -⟩ | ⟨-, gate⟩
      · rw [state, same] at filled closed
        exact .inl ⟨filled, closed⟩
      · have empty : (Heap.get _ entry).content.isSome = false := gate.symm.trans closed
        rw [state, Option.ne_none_iff_isSome, empty] at filled
        cases filled
  | @operated target asks shown =>
      have states := Change.state_operated traffic (move.applied (traffic.state target))
        (holds_of_isShown shown) entry
      rw [state, states] at filled closed
      split at filled
      · next same =>
          subst same
          rw [if_pos rfl] at closed
          rcases move.gate_cases (traffic.state entry) with
            ⟨gate, content, -⟩ | ⟨thread, name, content, tag, commits, ⟨-, isOpen⟩ | ⟨⟨fault, fails⟩, -⟩⟩
          · exact .inl ⟨content ▸ filled, gate ▸ closed⟩
          · rw [isOpen] at closed
            cases closed
          · obtain rfl : name = entry := by simpa [Move.target?, commits] using asks
            exact .inr ⟨thread, content, tag, fault, commits, shown, fails⟩
      · next apart =>
          rw [if_neg apart] at closed
          exact .inl ⟨filled, closed⟩
  | _ => exact .inl ⟨filled, closed⟩

/-- A withheld content was committed without a reading. -/
theorem breaksOn_of_withholds {hash : String → Nat} {count : Nat} {positive : 0 < count}
    {ceiling : Duration} {moves : List Move} {entry : EntryId}
    (withholds : (((opened hash count positive ceiling).run moves).state entry).Withholds) :
    (opened hash count positive ceiling).Occurs moves (·.breaksOn · entry) := by
  induction moves using List.reverseRecOn with
  | nil =>
      obtain ⟨filled, -⟩ := withholds
      rw [run_nil, state_opened] at filled
      exact absurd rfl filled
  | append_singleton moves move ih =>
      rw [run_append, run_cons, run_nil] at withholds
      rw [occurs_concat_iff]
      exact (withholds_take withholds).imp ih id

end Traffic

end SingleFlight
