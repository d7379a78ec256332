import SingleFlight.Proofs.Schedule.Exclusion

namespace SingleFlight

/-- The reading at which a loop takes a step by itself. -/
def RosterMove.reading? (move : RosterMove) (number : Nat) : Option Instant :=
  match move with
  | .turn loop now => if loop = number then some now else none
  | _ => none

theorem RosterMove.reading?_eq_some {move : RosterMove} {number : Nat} {now : Instant} :
    move.reading? number = some now ↔ move = .turn number now := by
  cases move <;> simp [reading?]

/-- What a move makes of the loop of a number. -/
def ReclaimerLoop.Shift (number : Nat) (move : RosterMove) (loop next : ReclaimerLoop) : Prop :=
  loop.GoesOn (move.reading? number) next ∨ next = loop.raise

namespace ReclaimerLoop.Shift
variable {number : Nat} {move : RosterMove} {loop next : ReclaimerLoop}

/-- An order to stop is not taken back. -/
theorem told (shift : loop.Shift number move next) (told : loop.stopRequested = true) :
    next.stopRequested = true := by
  rcases shift with goes | rfl
  · exact goes.flag.trans told
  · rfl

theorem passes (shift : loop.Shift number move next) :
    loop.Passes (move.reading? number) next.phase := by
  rcases shift with goes | rfl
  · exact goes.passes
  · exact .stays

end ReclaimerLoop.Shift

namespace Roster

/-- Where a loop stands. -/
def phase? (roster : Roster) (loop : Nat) : Option LoopPhase :=
  (roster.loop? loop).map ReclaimerLoop.phase

/-- What holds now holds after every move of a run as well. -/
def Throughout (roster : Roster) (moves : List RosterMove) (holds : Roster → Prop) : Prop :=
  ∀ passed, passed <+: moves → holds (roster.run passed)

/-- A move with which a sweep of a loop begins. -/
def StartsTick (roster : Roster) (loop : Nat) (move : RosterMove) : Prop :=
  roster.phase? loop ≠ some .ticking ∧ (roster.take move).phase? loop = some .ticking

/-- A loop's round: a deadline one interval ahead, waited out. -/
def WaitedOut (loop : Nat) (earlier : List RosterMove) : Prop :=
  ∃ first second third taken reached interval deadline,
    earlier = first ++ .turn loop taken :: second ++ .turn loop reached :: third ∧
      (opened.run first).loop? loop = some ⟨interval, false, .starting⟩ ∧
      taken.after? interval = some deadline ∧ deadline.nanos ≤ reached.nanos ∧
      ((opened.run first).take (.turn loop taken)).Throughout second (fun roster =>
        ∃ phase, roster.phase? loop = some phase ∧ phase.IsArmed deadline) ∧
      (opened.run (first ++ .turn loop taken :: second)).phase? loop =
        some (.waiting (some deadline)) ∧
      ((opened.run (first ++ .turn loop taken :: second)).take (.turn loop reached)).Throughout third
        fun roster => roster.phase? loop = some .due

/-- A move that brings a loop into another phase. -/
def GetsOn (roster : Roster) (loop : Nat) (move : RosterMove) : Prop :=
  (roster.take move).phase? loop ≠ roster.phase? loop

instance (roster : Roster) (loop : Nat) (move : RosterMove) : Decidable (roster.GetsOn loop move) :=
  inferInstanceAs (Decidable (_ ≠ _))

/-- How many moves of a run bring a loop into another phase. -/
def shifts (roster : Roster) (loop : Nat) : List RosterMove → Nat
  | [] => 0
  | move :: rest =>
    (if roster.GetsOn loop move then 1 else 0) + (roster.take move).shifts loop rest

variable {roster after : Roster} {move : RosterMove} {moves : List RosterMove} {loop : Nat}

theorem phase?_eq_some {phase : LoopPhase} : roster.phase? loop = some phase ↔
    ∃ found, roster.loop? loop = some found ∧ found.phase = phase := by
  simp [phase?]

theorem getsOn_iff {found next : ReclaimerLoop} (before : roster.loop? loop = some found)
    (now : (roster.take move).loop? loop = some next) :
    roster.GetsOn loop move ↔ next.phase ≠ found.phase := by
  simp [GetsOn, phase?, before, now]

@[simp]
theorem phase?_opened : opened.phase? loop = none := rfl

theorem Throughout.start {holds : Roster → Prop} (throughout : roster.Throughout moves holds) :
    holds roster := throughout [] List.nil_prefix

theorem Throughout.concat {holds : Roster → Prop} (throughout : roster.Throughout moves holds)
    (last : holds (roster.run (moves ++ [move]))) : roster.Throughout (moves ++ [move]) holds := by
  intro passed inside
  rcases List.prefix_concat_iff.mp inside with rfl | early
  · exact last
  · exact throughout passed early

/-- What begins to hold during a run begins at some move. -/
theorem since (holds : Roster → Prop) (apart : ¬ holds roster) (now : holds (roster.run moves)) :
    ∃ first move rest, moves = first ++ move :: rest ∧ ¬ holds (roster.run first) ∧
      ((roster.run first).take move).Throughout rest holds := by
  induction moves using List.reverseRecOn with
  | nil => exact absurd now apart
  | append_singleton moves move ih =>
      by_cases before : holds (roster.run moves)
      · obtain ⟨first, since, rest, rfl, apart, throughout⟩ := ih before
        refine ⟨first, since, rest ++ [move], by simp, apart, throughout.concat ?_⟩
        rw [← run_concat, ← run_append]
        simpa using now
      · refine ⟨moves, move, [], by simp, before, ?_⟩
        intro passed inside
        rw [List.prefix_nil.mp inside, ← run_concat]
        exact now

/-- Every loop goes on with every move. -/
theorem Change.shift (change : roster.Change move after) {found : ReclaimerLoop}
    (there : roster.loop? loop = some found) :
    ∃ next, after.loop? loop = some next ∧ found.Shift loop move next := by
  -- A step of one loop leaves all other loops as they are.
  have changed {other : Nat} {step : ReclaimerLoop → ReclaimerLoop}
      (shift : other = loop → found.Shift loop move (step found)) :
      ∃ next, (roster.schedule.change other step).loops[loop]? = some next ∧
        found.Shift loop move next := by
    refine ⟨_, Schedule.getElem?_change.mpr ⟨found, there, rfl⟩, ?_⟩
    split
    · next same => exact shift same
    · exact .inl (.refl found)
  have stays : found.Shift loop move found := .inl (.refl found)
  cases change with
  | still => exact ⟨found, there, stays⟩
  | begun => exact ⟨found, there, stays⟩
  | ordered _ effect =>
      cases effect with
      | raised => exact changed fun _ => .inr rfl
      | woke => exact changed fun _ => .inl found.goesOn_wake
      | launched =>
          have inside : loop < roster.schedule.loops.length := (List.getElem?_eq_some_iff.mp there).1
          exact ⟨found, (List.getElem?_append_left inside).trans there, stays⟩
      | _ => exact ⟨found, there, stays⟩
  | @turned other now =>
      refine changed fun same => .inl ?_
      rw [RosterMove.reading?_eq_some.mpr (by rw [same])]
      exact found.goesOn_step now
  | stirred => exact changed fun _ => .inl found.goesOn_wake
  | @ticked other storeAlive => exact changed fun _ => .inl (found.goesOn_tickDone storeAlive)

/-- A loop that was not there before has just been started. -/
theorem Change.loop_cases (change : roster.Change move after) {next : ReclaimerLoop}
    (there : after.loop? loop = some next) :
    (∃ interval, next = .spawn interval) ∨
      ∃ found, roster.loop? loop = some found ∧ found.Shift loop move next := by
  cases before : roster.loop? loop with
  | some found =>
      obtain ⟨same, here, shift⟩ := change.shift before
      cases here.symm.trans there
      exact .inr ⟨found, rfl, shift⟩
  | none =>
      have absent {other : Nat} {step : ReclaimerLoop → ReclaimerLoop}
          (there : (roster.schedule.change other step).loops[loop]? = some next) : False := by
        obtain ⟨found, here, -⟩ := Schedule.getElem?_change.mp there
        cases before.symm.trans here
      cases change with
      | still => cases before.symm.trans there
      | begun => cases before.symm.trans there
      | ordered _ effect =>
          cases effect with
          | raised => exact (absent there).elim
          | woke => exact (absent there).elim
          | launched =>
              rcases getElem?_concat_cases there with old | ⟨-, rfl⟩
              · cases before.symm.trans old
              · exact .inl ⟨_, rfl⟩
          | _ => cases before.symm.trans there
      | turned => exact (absent there).elim
      | stirred => exact (absent there).elim
      | ticked => exact (absent there).elim

namespace Sound

theorem told_run (sound : roster.Sound) (told : roster.Told loop) : (roster.run moves).Told loop := by
  induction moves using List.reverseRecOn with
  | nil => exact told
  | append_singleton moves move ih =>
      obtain ⟨found, there, flag⟩ := ih
      obtain ⟨next, here, shift⟩ := ((sound.run moves).change_take move).shift there
      rw [run_concat]
      exact ⟨next, here, shift.told flag⟩

/-- A loop has got to its phase from another, unless just started. -/
theorem exists_passes (sound : roster.Sound) {phase : LoopPhase}
    (now : (roster.take move).phase? loop = some phase) (old : phase ≠ .starting) :
    ∃ found, roster.loop? loop = some found ∧ found.Passes (move.reading? loop) phase := by
  obtain ⟨next, there, rfl⟩ := phase?_eq_some.mp now
  rcases (sound.change_take move).loop_cases there with ⟨interval, rfl⟩ | ⟨found, before, shift⟩
  · exact absurd rfl old
  · exact ⟨found, before, shift.passes⟩

/-- A sweep begins after the wait and without an order to stop. -/
theorem startsTick (sound : roster.Sound) (starts : roster.StartsTick loop move) :
    roster.phase? loop = some .due ∧ ¬ roster.Told loop := by
  obtain ⟨found, there, passes⟩ := sound.exists_passes starts.2 nofun
  have still : found.phase ≠ .ticking := fun ticks =>
    starts.1 (phase?_eq_some.mpr ⟨found, there, ticks⟩)
  obtain ⟨due, free⟩ := passes.ticking still
  refine ⟨phase?_eq_some.mpr ⟨found, there, due⟩, ?_⟩
  rintro ⟨same, here, told⟩
  cases here.symm.trans there
  exact nomatch free.symm.trans told

/-- Once told to stop, a loop begins no sweep any more. -/
theorem no_tick_of_told (sound : roster.Sound) (told : roster.Told loop) (further : List RosterMove) :
    ¬ (roster.run further).StartsTick loop move := fun starts =>
  ((sound.run further).startsTick starts).2 (sound.told_run told)

/-- A loop told to stop changes its phase only by the steps it has left. -/
theorem shifts_add_rest_le (sound : roster.Sound) {found : ReclaimerLoop}
    (there : roster.loop? loop = some found) (told : found.stopRequested = true)
    (moves : List RosterMove) :
    ∃ last, (roster.run moves).loop? loop = some last ∧
      roster.shifts loop moves + last.phase.rest ≤ found.phase.rest := by
  induction moves generalizing roster found with
  | nil => exact ⟨found, there, by simp [shifts]⟩
  | cons move rest ih =>
      obtain ⟨next, here, shift⟩ := (sound.change_take move).shift there
      obtain ⟨last, ends, later⟩ := ih (sound.take move) here (shift.told told)
      refine ⟨last, ends, ?_⟩
      rw [shifts]
      simp only [getsOn_iff there here]
      split
      · next gets =>
          have fewer := shift.passes.rest_lt told gets
          omega
      · next stays =>
          rw [not_not.mp stays] at later
          omega

/-- A loop told to stop has at most three steps left. -/
theorem shifts_of_told (sound : roster.Sound) (told : roster.Told loop) (moves : List RosterMove) :
    roster.shifts loop moves ≤ 3 ∧ ((roster.run moves).Runs loop → roster.shifts loop moves < 3) := by
  obtain ⟨found, there, told⟩ := told
  obtain ⟨last, ends, fewer⟩ := sound.shifts_add_rest_le there told moves
  have most : found.phase.rest ≤ 3 := found.phase.rest_le
  refine ⟨by omega, ?_⟩
  rintro ⟨same, here, runs⟩
  obtain rfl : same = last := Option.some.inj (here.symm.trans ends)
  have left : 0 < same.phase.rest := LoopPhase.rest_pos (by simpa [ReclaimerLoop.isRunning] using runs)
  omega

end Sound

/-- A loop out of its wait without a signal has waited out its deadline. -/
theorem waitedOut_of_due (due : (opened.run moves).phase? loop = some .due)
    (free : ¬ (opened.run moves).Told loop) : WaitedOut loop moves := by
  obtain ⟨early, move, third, rfl, apart, out⟩ :=
    since (fun roster => roster.phase? loop = some .due) (by simp) due
  obtain ⟨found, there, passes⟩ := (Sound.opened.run early).exists_passes out.start nofun
  obtain ⟨reached, deadline, reads, waits, later⟩ :=
    passes.due fun is_due => apart (phase?_eq_some.mpr ⟨found, there, is_due⟩)
  obtain rfl := RosterMove.reading?_eq_some.mp reads
  have waiting : (opened.run early).phase? loop = some (.waiting (some deadline)) :=
    phase?_eq_some.mpr ⟨found, there, waits⟩
  -- Before that the loop got its deadline, and has not lost it since.
  obtain ⟨first, move, second, rfl, unarmed, armed⟩ :=
    since (fun roster => ∃ phase, roster.phase? loop = some phase ∧ phase.IsArmed deadline) (by simp)
      ⟨_, waiting, .inr rfl⟩
  obtain ⟨phase, planned, has⟩ := armed.start
  obtain ⟨⟨interval, flag, phase⟩, before, passes⟩ := (Sound.opened.run first).exists_passes planned
    (by rintro rfl; simp [LoopPhase.IsArmed] at has)
  obtain ⟨taken, reads, rfl, ahead⟩ := passes.armed has fun armed =>
    unarmed ⟨_, phase?_eq_some.mpr ⟨_, before, rfl⟩, armed⟩
  obtain rfl := RosterMove.reading?_eq_some.mp reads
  have unflagged : flag = false := by
    by_contra told
    refine free ?_
    have told : (opened.run first).Told loop := ⟨_, before, by simpa using told⟩
    simpa [run_append] using (Sound.opened.run first).told_run told
  subst unflagged
  exact ⟨first, second, third, taken, reached, interval, deadline, by simp, before, ahead, later, armed,
    waiting, out⟩

end Roster

end SingleFlight
