import SingleFlight.Proofs.Entry.Cases
import SingleFlight.Proofs.Workshop.Known

namespace SingleFlight

/-- A lock operation does not change whether another thread holds the lock. -/
theorem Move.isHeldBy_applied {move : Move} {thread : ThreadId}
    (other : move.action.caller? ≠ some thread) (entry : Entry) :
    (move.applied entry).isHeldBy thread = entry.isHeldBy thread := by
  obtain ⟨action, moment⟩ := move
  cases action with
  | acquire caller name request =>
      have apart : caller ≠ thread := fun same => other (congrArg some same)
      show (entry.acquire caller request moment.monotonic).2.isHeldBy thread = _
      rcases entry.acquire_cases caller request moment.monotonic with
        ⟨_, -, same⟩ | ⟨-, _, -, same⟩ | ⟨none, _, -, -, same⟩ | ⟨-, _, -, -, same⟩
      · rw [same]
      · rw [same]
      · rw [same]
        simp [Entry.isHeldBy, none, apart]
      · rw [same]
  | commit caller name content tag =>
      have apart : caller ≠ thread := fun same => other (congrArg some same)
      show (entry.commit caller content tag moment.monotonic).2.isHeldBy thread = _
      rcases entry.commit_cases caller content tag moment.monotonic with
        ⟨-, same⟩ | ⟨-, _, -, same⟩ | ⟨held, _, -, same⟩
      · rw [same]
      · rw [same]
        rfl
      · rw [same, Entry.isHeldBy_of_other held apart]
        rfl
  | release caller name =>
      have apart : caller ≠ thread := fun same => other (congrArg some same)
      show (entry.release caller).isHeldBy thread = _
      unfold Entry.release
      split
      · next held =>
          rw [Entry.isHeldBy_of_other held apart]
          rfl
      · rfl
  | _ => rfl

namespace Workshop
variable {workshop after : Workshop} {turn : Turn} {move? : Option Move} {number : Nat}
  {guard : Guard}

/-- A turn after which the guard's thread has the lock by asking. -/
def takes (workshop : Workshop) (turn : Turn) (guard : Guard) : Prop :=
  ∃ request, workshop.move? turn = some ⟨.acquire guard.owner guard.entry request, turn.moment⟩ ∧
    ((workshop.state guard.entry).acquire guard.owner request turn.moment.monotonic).1.map
      Acquisition.held = .ok true

/-- A turn at which the guard's thread gives the lock back in any way. -/
def givesBack (workshop : Workshop) (turn : Turn) (guard : Guard) : Prop :=
  workshop.move? turn = some ⟨.release guard.owner guard.entry, turn.moment⟩ ∨
    ∃ content tag now, turn.moment.monotonic = .ok now ∧
      workshop.move? turn = some ⟨.commit guard.owner guard.entry content tag, turn.moment⟩

/-- A guard's lock has been given back and not taken again. -/
inductive Lost (start : Workshop) (gives : Workshop → Turn → Prop) (number : Nat) (guard : Guard) :
    List Turn → Prop where
  | given {turns : List Turn} {turn : Turn} (live : (start.run turns).Guarded number guard)
      (back : gives (start.run turns) turn) : Lost start gives number guard (turns ++ [turn])
  | since {turns : List Turn} {turn : Turn} (live : (start.run turns).Guarded number guard)
      (lost : Lost start gives number guard turns) (idle : ¬ (start.run turns).takes turn guard) :
      Lost start gives number guard (turns ++ [turn])

theorem not_lost_nil {start : Workshop} {gives : Workshop → Turn → Prop} :
    ¬ start.Lost gives number guard [] := by
  intro lost
  generalize none : [] = turns at lost
  cases lost <;> simp at none

theorem lost_concat_iff {start : Workshop} {gives : Workshop → Turn → Prop} {turns : List Turn} :
    start.Lost gives number guard (turns ++ [turn]) ↔
      (start.run turns).Guarded number guard ∧ (gives (start.run turns) turn ∨
        start.Lost gives number guard turns ∧ ¬ (start.run turns).takes turn guard) := by
  constructor
  · intro lost
    generalize same : turns ++ [turn] = all at lost
    cases lost with
    | given live back =>
        obtain ⟨rfl, rfl⟩ := List.append_singleton_inj.mp same
        exact ⟨live, .inl back⟩
    | since live lost idle =>
        obtain ⟨rfl, rfl⟩ := List.append_singleton_inj.mp same
        exact ⟨live, .inr ⟨lost, idle⟩⟩
  · rintro ⟨live, back | ⟨lost, idle⟩⟩
    · exact .given live back
    · exact .since live lost idle

/-- A move is made at what the clock shows at its turn. -/
theorem Change.moment_eq {move : Move} (change : workshop.Change turn (some move) after) :
    move.moment = turn.moment := by
  generalize moved : some move = move? at change
  cases change with
  | @handled _ _ _ _ lock =>
      cases lock with
      | none => cases moved
      | some action => rw [Option.some.inj moved]
  | plain => rw [Option.some.inj moved]
  | guarded => rw [Option.some.inj moved]
  | denied => rw [Option.some.inj moved]
  | _ => cases moved

/-- A turn makes the move on the lock that it comes to. -/
theorem state_take {move : Move} (moves : workshop.move? turn = some move) {entry : EntryId}
    (target : move.target? = some entry)
    (known : workshop.traffic.cache.heap.holds entry = true) :
    (workshop.take turn).state entry = move.applied (workshop.state entry) := by
  rcases (workshop.change_take turn).state_cases known with ⟨same, moved, -, state⟩ | ⟨none, -⟩
  · rw [moves] at moved
    rw [state, Option.some.inj moved]
  · exact absurd target (none move moves)

theorem isHeldBy_of_takes (known : workshop.traffic.cache.heap.holds guard.entry = true)
    (takes : workshop.takes turn guard) :
    ((workshop.take turn).state guard.entry).isHeldBy guard.owner = true := by
  obtain ⟨request, moves, held⟩ := takes
  rw [state_take moves rfl known]
  exact Entry.isHeldBy_acquire held

theorem isHeldBy_of_givesBack (known : workshop.traffic.cache.heap.holds guard.entry = true)
    (back : workshop.givesBack turn guard) :
    ((workshop.take turn).state guard.entry).isHeldBy guard.owner = false := by
  rcases back with moves | ⟨content, tag, now, read, moves⟩
  · rw [state_take moves rfl known]
    exact Entry.isHeldBy_release _ _
  · rw [state_take moves rfl known]
    have returns : ∃ outcome, ((workshop.state guard.entry).commit guard.owner content tag
        turn.moment.monotonic).1 = .ok outcome := by
      rw [Entry.commit_eq]
      split <;> simp [read]
    obtain ⟨outcome, returns⟩ := returns
    exact Entry.isHeldBy_commit _ _ returns

/-- Any other turn leaves the lock with the thread, or away from it. -/
theorem isHeldBy_of_idle (known : workshop.traffic.cache.heap.holds guard.entry = true)
    (kept : ¬ workshop.givesBack turn guard) (idle : ¬ workshop.takes turn guard) :
    ((workshop.take turn).state guard.entry).isHeldBy guard.owner =
      (workshop.state guard.entry).isHeldBy guard.owner := by
  have change := workshop.change_take turn
  rcases change.state_cases known with ⟨move, moves, target, state⟩ | ⟨-, state⟩
  · rw [state]
    by_cases own : move.action.caller? = some guard.owner
    · rw [moves] at change
      have same := change.moment_eq
      obtain ⟨action, moment⟩ := move
      subst same
      cases action with
      | acquire caller name request =>
          obtain rfl : caller = guard.owner := Option.some.inj own
          obtain rfl : name = guard.entry := Option.some.inj target
          have refused : ((workshop.state guard.entry).acquire guard.owner request
              turn.moment.monotonic).1.map Acquisition.held ≠ .ok true :=
            fun held => idle ⟨request, moves, held⟩
          exact congrArg (Entry.isHeldBy · guard.owner) (Entry.acquire_of_not_held refused).1
      | commit caller name content tag =>
          obtain rfl : caller = guard.owner := Option.some.inj own
          obtain rfl : name = guard.entry := Option.some.inj target
          cases read : turn.moment.monotonic with
          | error fault =>
              rcases (workshop.state guard.entry).commit_cases guard.owner content tag
                turn.moment.monotonic with ⟨-, same⟩ | ⟨-, _, -, same⟩ | ⟨-, now, other, -⟩
              · exact congrArg (fun result => result.2.isHeldBy guard.owner) same
              · exact congrArg (fun result => result.2.isHeldBy guard.owner) same
              · rw [read] at other
                cases other
          | ok now => exact absurd (.inr ⟨content, tag, now, read, moves⟩) kept
      | release caller name =>
          obtain rfl : caller = guard.owner := Option.some.inj own
          obtain rfl : name = guard.entry := Option.some.inj target
          exact absurd (.inl moves) kept
      | _ => cases target
    · exact Move.isHeldBy_applied own _
  · rw [state]

/-- A live guard was live before the turn, or has been made by it. -/
theorem guarded_cases (live : (workshop.take turn).Guarded number guard) :
    workshop.Guarded number guard ∨ workshop.takes turn guard := by
  obtain ⟨keeper, there, keeps⟩ := Option.bind_eq_some_iff.mp live
  rcases (workshop.change_take turn).keepers_cases there with ⟨old, -⟩ |
    ⟨made, request, rfl, -, moves, held⟩ | ⟨asked, rfl⟩ | ⟨old, lock, place, -, moves, effect⟩
  · exact .inl (Option.bind_eq_some_iff.mpr ⟨keeper, old, keeps⟩)
  · obtain rfl : made = guard := Option.some.inj keeps
    exact .inr ⟨request, moves, held⟩
  · cases keeps
  · have before (same : old.guard? = some guard) : workshop.Guarded number guard :=
      Option.bind_eq_some_iff.mpr ⟨old, place, same⟩
    generalize (workshop.take turn).traffic.cache = cache at effect
    cases effect with
    | nothing => exact .inl (before keeps)
    | granted held =>
        obtain rfl := Option.some.inj keeps
        exact .inr ⟨_, moves, held⟩
    | produced => exact .inl (before keeps)
    | failed => exact .inl (before keeps)
    | _ => cases keeps

/-- The entry of a live guard has been made. -/
theorem Known.holds_of_guarded (known : workshop.Known) (live : workshop.Guarded number guard) :
    workshop.traffic.cache.heap.holds guard.entry = true := by
  obtain ⟨keeper, there, keeps⟩ := Option.bind_eq_some_iff.mp live
  refine known.kept keeper (List.mem_of_getElem? there) _ ?_
  cases keeper with
  | guard made =>
      obtain rfl : made = guard := Option.some.inj keeps
      exact List.mem_singleton_self _
  | spent => cases keeps
  | fetch asked phase =>
      cases phase <;> cases keeps <;> exact List.mem_singleton_self _

/-- The entry of a move on a lock has been made. -/
theorem Known.holds_of_target (known : workshop.Known) {move : Move}
    (moves : workshop.move? turn = some move) {entry : EntryId}
    (target : move.target? = some entry) :
    workshop.traffic.cache.heap.holds entry = true := by
  have change := workshop.change_take turn
  rw [moves] at change
  generalize moved : some move = move?, workshop.take turn = after at change
  cases change with
  | nothing => cases moved
  | plain acts free shown =>
      obtain rfl := Option.some.inj moved
      rw [operand?_of_target target] at shown
      exact (holds_of_isShown shown).2
  | guarded acts free shown =>
      obtain rfl := Option.some.inj moved
      obtain rfl := Option.some.inj target
      exact (holds_of_isShown shown).2
  | denied acts free shown =>
      obtain rfl := Option.some.inj moved
      obtain rfl := Option.some.inj target
      exact (holds_of_isShown shown).2
  | begun => cases moved
  | handled acts free place effect =>
      refine known.kept _ (List.mem_of_getElem? place) entry ?_
      cases effect <;> cases moved <;> obtain rfl := Option.some.inj target <;>
        exact List.mem_singleton_self _

/-- A live guard's thread holds the lock exactly if it was not lost. -/
theorem isHeldBy_iff_not_lost {hash : String → Nat} {count : Nat} {positive : 0 < count}
    {ceiling : Duration} {turns : List Turn}
    (live : ((opened hash count positive ceiling).run turns).Guarded number guard) :
    (((opened hash count positive ceiling).run turns).state guard.entry).isHeldBy guard.owner = true ↔
      ¬ (opened hash count positive ceiling).Lost (·.givesBack · guard) number guard turns := by
  induction turns using List.reverseRecOn with
  | nil => cases live
  | append_singleton turns turn ih =>
      have known := Known.run_opened hash count positive ceiling turns
      rw [lost_concat_iff]
      rw [run_concat] at live ⊢
      generalize (opened hash count positive ceiling).run turns = before at live known ih ⊢
      have fresh (taken : before.takes turn guard) :
          ((before.take turn).state guard.entry).isHeldBy guard.owner = true := by
        obtain ⟨request, moves, held⟩ := taken
        exact isHeldBy_of_takes (known.holds_of_target moves rfl) ⟨request, moves, held⟩
      by_cases old : before.Guarded number guard
      · have there := known.holds_of_guarded old
        by_cases back : before.givesBack turn guard
        · simp [isHeldBy_of_givesBack there back, old, back]
        · by_cases taken : before.takes turn guard
          · simp [fresh taken, back, taken]
          · rw [isHeldBy_of_idle there back taken, ih old]
            simp [old, back, taken]
      · have taken := (guarded_cases live).resolve_left old
        simp [fresh taken, old]

end Workshop

end SingleFlight
