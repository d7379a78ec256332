import SingleFlight.Proofs.Workshop.Locks

namespace SingleFlight

/-- The guard of its thread that an action would use up. -/
def Action.unlocks? : Action → Option Guard
  | .commit caller entry _ _ | .release caller entry => some ⟨caller, entry⟩
  | .acquire _ _ _ | .begin _ | .proceed _ | .evict _ _ => none

/-- A handling that unlocks an entry uses up the guard of it. -/
theorem Keeper.Effect.unlocks {moment : Moment} {cache after : Cache} {keeper next : Keeper}
    {action : Action} (effect : keeper.Effect moment cache (some action) next after) {guard : Guard}
    (unlocks : action.unlocks? = some guard) :
    keeper.guard? = some guard ∧ next.guard? = none := by
  cases effect with
  | committed => exact ⟨unlocks, rfl⟩
  | dropped => exact ⟨unlocks, rfl⟩
  | completed => exact ⟨unlocks, rfl⟩
  | broken => exact ⟨unlocks, rfl⟩
  | released => exact ⟨unlocks, rfl⟩
  | _ => cases unlocks

namespace Workshop

/-- Whether a turn locks only through a guard or a fetch. -/
def Turn.usesGuardsOnly (turn : Turn) : Bool :=
  match turn.act with
  | .plain action => action.caller?.isNone
  | .guard _ _ _ | .fetch _ | .handle _ _ => true

/-- A turn finishes a guard and gives its lock back. -/
structure Finishes (workshop : Workshop) (turn : Turn) (number : Nat) (guard : Guard) : Prop where
  about : turn.act.number? = some number
  live : workshop.Guarded number guard
  back : workshop.givesBack turn guard

/-- A guard's thread has finished another guard of its entry meanwhile. -/
def LostToOther (start : Workshop) (number : Nat) (guard : Guard) (turns : List Turn) : Prop :=
  start.Lost (fun workshop turn => ∃ other ≠ number, workshop.Finishes turn other guard) number guard
    turns

variable {workshop after : Workshop} {turn : Turn} {number : Nat} {guard : Guard}

/-- Among guards a lock given back was that of a live one. -/
theorem finished_of_givesBack (guardsOnly : turn.usesGuardsOnly = true)
    (back : workshop.givesBack turn guard) :
    ∃ other, workshop.Finishes turn other guard ∧ ¬ (workshop.take turn).Guarded other guard := by
  suffices ends : ∃ other, turn.act.number? = some other ∧ workshop.Guarded other guard ∧
      ¬ (workshop.take turn).Guarded other guard by
    obtain ⟨other, about, live, ended⟩ := ends
    exact ⟨other, ⟨about, live, back⟩, ended⟩
  have moves : ∃ move, workshop.move? turn = some move ∧ move.action.unlocks? = some guard := by
    rcases back with moves | ⟨content, tag, now, -, moves⟩
    · exact ⟨_, moves, rfl⟩
    · exact ⟨_, moves, rfl⟩
  obtain ⟨move, moves, unlocks⟩ := moves
  have change := workshop.change_take turn
  rw [moves] at change
  generalize moved : some move = move?, workshop.take turn = after at change ⊢
  cases change with
  | nothing => cases moved
  | begun => cases moved
  | @plain action acts =>
      obtain rfl := Option.some.inj moved
      rw [Turn.usesGuardsOnly, acts] at guardsOnly
      cases action with
      | commit => cases guardsOnly
      | release => cases guardsOnly
      | _ => cases unlocks
  | guarded =>
      obtain rfl := Option.some.inj moved
      cases unlocks
  | denied =>
      obtain rfl := Option.some.inj moved
      cases unlocks
  | @handled place handling keeper next lock cache acts free there effect =>
      cases lock with
      | none => cases moved
      | some action =>
          obtain rfl := Option.some.inj moved
          obtain ⟨used, ended⟩ := effect.unlocks unlocks
          have bound : place < workshop.keepers.length := (List.getElem?_eq_some_iff.mp there).1
          refine ⟨place, by rw [acts]; rfl, ?_, ?_⟩
          · simp [Guarded, there, used]
          · simp [Guarded, bound, ended]

/-- Among guards a lock is lost only to another guard. -/
theorem lost_iff_to_other {start : Workshop} {turns : List Turn}
    (guardsOnly : ∀ turn ∈ turns, Turn.usesGuardsOnly turn = true)
    (live : (start.run turns).Guarded number guard) :
    start.Lost (·.givesBack · guard) number guard turns ↔ start.LostToOther number guard turns := by
  induction turns using List.reverseRecOn with
  | nil => exact iff_of_false not_lost_nil not_lost_nil
  | append_singleton turns turn ih =>
      unfold LostToOther
      rw [lost_concat_iff, lost_concat_iff]
      refine and_congr_right fun before => or_congr ?_ (and_congr_left fun _ => ?_)
      · constructor
        · intro back
          obtain ⟨other, finishes, ended⟩ := finished_of_givesBack (guardsOnly turn (by simp)) back
          refine ⟨other, ?_, finishes⟩
          rintro rfl
          rw [run_concat] at live
          exact ended live
        · rintro ⟨other, -, finishes⟩
          exact finishes.back
      · exact ih (fun turn inside => guardsOnly turn (List.mem_append_left _ inside)) before

variable {hash : String → Nat} {count : Nat} {positive : 0 < count} {ceiling : Duration}
  {turns : List Turn}

/-- A live guard's thread holds the lock exactly if it did not finish another guard of that entry. -/
theorem live_guard_holds (guardsOnly : ∀ turn ∈ turns, Turn.usesGuardsOnly turn = true) :
    (∀ number guard, ((opened hash count positive ceiling).run turns).Guarded number guard →
      ((((opened hash count positive ceiling).run turns).state guard.entry).isHeldBy guard.owner =
          true ↔
        ¬ (opened hash count positive ceiling).LostToOther number guard turns)) ∧
    ∀ number other guard rival,
      ((opened hash count positive ceiling).run turns).Guarded number guard →
      ((opened hash count positive ceiling).run turns).Guarded other rival →
      guard.entry = rival.entry → guard.owner ≠ rival.owner →
        (opened hash count positive ceiling).LostToOther number guard turns ∨
          (opened hash count positive ceiling).LostToOther other rival turns := by
  have holds (number : Nat) (guard : Guard)
      (live : ((opened hash count positive ceiling).run turns).Guarded number guard) :
      (((opened hash count positive ceiling).run turns).state guard.entry).isHeldBy guard.owner =
          true ↔
        ¬ (opened hash count positive ceiling).LostToOther number guard turns := by
    rw [isHeldBy_iff_not_lost live, lost_iff_to_other guardsOnly live]
  refine ⟨holds, ?_⟩
  intro number other guard rival live alive same apart
  by_contra neither
  obtain ⟨kept, spared⟩ := not_or.mp neither
  have first := (holds number guard live).mpr kept
  have second := (holds other rival alive).mpr spared
  rw [← same, Entry.isHeldBy_of_other first apart] at second
  cases second

/-- A thread takes two guards of one entry, and drops the second. -/
def doubled : List Turn :=
  [.timed 0 (.plain (.begin (.lookup ⟨"k", none, ⟨5⟩⟩))), .timed 0 (.plain (.proceed 0)),
    .timed 0 (.guard ⟨1⟩ ⟨0⟩ .forced), .timed 0 (.guard ⟨1⟩ ⟨0⟩ .forced),
    .timed 0 (.handle 1 .drop)]

theorem live_guard_holds_of_doubled :
    (opened (fun _ => 0) 1 Nat.one_pos ⟨9⟩).LostToOther 0 ⟨⟨1⟩, ⟨0⟩⟩ doubled := by
  have guardsOnly : ∀ turn ∈ doubled, turn.usesGuardsOnly = true := by decide
  by_contra kept
  have held := ((live_guard_holds guardsOnly).1 0 ⟨⟨1⟩, ⟨0⟩⟩ (by rfl)).mpr kept
  revert held
  decide +kernel

/-- Two threads have live guards on one entry, after a second guard was dropped. -/
theorem not_always_held :
    ¬ ∀ hash count, ∀ positive : 0 < count, ∀ ceiling turns,
      (∀ turn ∈ turns, Turn.usesGuardsOnly turn = true) → ∀ number guard,
        ((opened hash count positive ceiling).run turns).Guarded number guard →
        (((opened hash count positive ceiling).run turns).state guard.entry).isHeldBy guard.owner =
          true := by
  intro always
  have held := always (fun _ => 0) 1 Nat.one_pos ⟨9⟩ (doubled ++ [.timed 0 (.guard ⟨2⟩ ⟨0⟩ .forced)])
    (by decide) 0 ⟨⟨1⟩, ⟨0⟩⟩ (by rfl)
  revert held
  decide +kernel

end Workshop

end SingleFlight
