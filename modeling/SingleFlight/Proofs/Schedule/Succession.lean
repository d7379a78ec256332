import SingleFlight.Proofs.Schedule.Rounds

namespace SingleFlight

theorem ScheduleCall.Phase.old?_of_burden {phase : Phase} {burden : Burden}
    (bears : phase.burden? = some burden) : phase.old? = burden.old? := by
  rw [old?, bears, Option.bind_some]

/-- The call that a move is a step of. -/
def RosterMove.number? : RosterMove → Option Nat
  | .proceed number | .swept number _ | .launched number _ => some number
  | .begin _ _ | .turn _ _ | .stir _ | .ticked _ _ => none

/-- Whether a call is at the stop of a loop. -/
def ScheduleCall.Phase.isStopping : Phase → Bool
  | .stopping _ _ _ => true
  | _ => false

/-- A call without an interval between sweeps is only refused. -/
theorem ScheduleCall.Fits.of_refused {call : ScheduleCall} {phase : Phase} (fits : call.Fits phase)
    (refused : call.isRefused = true) :
    phase = .asking ∨ phase = .finished (.refused (.config .zeroSweepInterval)) := by
  cases phase with
  | asking => exact .inl rfl
  | finished ending => exact .inr (by rw [fits refused])
  | stopping task stage dropped =>
      cases stage <;> cases refused.symm.trans fits.1
  | sweeping | launching | keeping => cases refused.symm.trans fits.1

/-- A call that has told a loop to stop will signal it. -/
theorem ScheduleCall.Phase.of_summoning {phase : Phase} {loop : Nat}
    (bears : phase.burden? = some (.summoning loop)) :
    ∃ task dropped, phase = .stopping task .waking dropped ∧ task.loop = loop := by
  cases phase with
  | stopping task stage dropped =>
      cases stage with
      | waking => exact ⟨task, dropped, rfl, by simpa [burden?] using bears⟩
      | taking =>
          simp only [burden?] at bears
          split at bears <;> cases bears
      | raising | joining => cases bears
  | _ => cases bears

namespace Roster

/-- Whether a call still asks for the schedule, or has not begun. -/
def Asks (roster : Roster) (number : Nat) : Prop :=
  ∀ order, roster.orders[number]? = some order → order.phase = .asking

/-- A loop told to stop has ended, unless its own sweep made a call. -/
def Retired (roster : Roster) (loop : Nat) : Prop :=
  roster.Told loop ∧ (roster.Runs loop → roster.Called loop)

/-- Where a call stands with a loop older than it. -/
inductive Pursues (roster : Roster) (order : Order) (loop : Nat) : Prop where
  | asks (asks : order.phase = .asking)
  | refused (refused : order.call.isRefused = true)
  | stops (stops : order.phase.old? = some loop)
  | done (retired : roster.Retired loop)

variable {roster after : Roster} {move : RosterMove} {moves : List RosterMove} {loop number : Nat}
  {order : Order}

theorem Change.called (change : roster.Change move after) (called : roster.Called loop) :
    after.Called loop := by
  cases change with
  | begun =>
      obtain ⟨order, inside, made⟩ := called
      exact ⟨order, List.mem_append_left _ inside, made⟩
  | ordered there => exact called_set there _ loop called
  | _ => exact called

namespace Sound

/-- At most one loop runs that has not been told to stop. -/
theorem one_untold (sound : roster.Sound) {other : Nat} (first : roster.Runs loop)
    (second : roster.Runs other) : loop = other ∨ roster.Told loop ∨ roster.Told other := by
  obtain ⟨one, there, -⟩ := first
  obtain ⟨two, here, -⟩ := second
  cases told : one.stopRequested with
  | true => exact .inr (.inl ⟨one, there, told⟩)
  | false =>
      cases heard : two.stopRequested with
      | true => exact .inr (.inr ⟨two, here, heard⟩)
      | false =>
          exact .inl (sound.custody.held_unique (sound.custody.held_of_untold there told)
            (sound.custody.held_of_untold here heard))

/-- At most one loop runs without a call from its own sweep. -/
theorem one_running (sound : roster.Sound) {other : Nat} (first : roster.Runs loop)
    (second : roster.Runs other) : loop = other ∨ roster.Called loop ∨ roster.Called other := by
  obtain ⟨one, there, runs⟩ := first
  obtain ⟨two, here, also⟩ := second
  rcases sound.custody.held_of_running there runs with held | called
  · rcases sound.custody.held_of_running here also with holds | called
    · exact .inl (sound.custody.held_unique held holds)
    · exact .inr (.inr called)
  · exact .inr (.inl called)

/-- A loop that is retired stays so. -/
theorem retired_take (sound : roster.Sound) (retired : roster.Retired loop) (move : RosterMove) :
    (roster.take move).Retired loop := by
  obtain ⟨⟨found, there, told⟩, left⟩ := retired
  have change := sound.change_take move
  obtain ⟨next, here, shift⟩ := change.shift there
  refine ⟨⟨next, here, shift.told told⟩, ?_⟩
  rintro ⟨same, also, runs⟩
  cases also.symm.trans here
  exact change.called (left ⟨found, there, shift.passes.runs runs⟩)

/-- While nobody has the schedule a loop is in charge or retired. -/
theorem charge_or_retired (sound : roster.Sound) (free : roster.hand? = none)
    {found : ReclaimerLoop} (there : roster.loop? loop = some found) :
    (∃ task, roster.schedule.task = some task ∧ task.loop = loop) ∨ roster.Retired loop := by
  cases told : found.stopRequested with
  | false =>
      have held := sound.custody.untold loop found there told
      simp only [Appointed, free, reduceCtorEq, or_false] at held
      exact .inl held
  | true =>
      refine .inr ⟨⟨found, there, told⟩, ?_⟩
      rintro ⟨same, here, runs⟩
      cases here.symm.trans there
      have held := sound.custody.told loop found there told runs
      simpa only [free, reduceCtorEq, false_or] using held

/-- Taking the schedule stops the loop in charge; all others are retired. -/
theorem pursues_of_asking (sound : roster.Sound) {next : ScheduleCall.Phase} {schedule : Schedule}
    (there : roster.orders[number]? = some order) (asks : order.phase = .asking)
    (effect : order.call.Effect order.maker order.phase roster.schedule next schedule)
    {found : ReclaimerLoop} (known : roster.loop? loop = some found) :
    roster.Pursues { order with phase := next } loop := by
  have out : order.phase.burden? = none := by rw [asks]; rfl
  have charge (free : order.call.isDrop = true ∨ roster.schedule.locked = false) :
      (∃ task, roster.schedule.task = some task ∧ task.loop = loop) ∨ roster.Retired loop := by
    refine sound.charge_or_retired ?_ known
    rw [hand_of_others there (sound.others there (.inr ⟨asks, free⟩)), out]
  cases effect with
  | same _ rests => exact .asks ((rests out).trans asks)
  | passed _ _ reason =>
      rcases reason with refused | ⟨bare, free⟩
      · exact .refused refused
      · rcases charge free with ⟨task, held, -⟩ | retired
        · cases bare.symm.trans held
        · exact .done retired
  | took _ free held burden =>
      rcases charge free with ⟨same, here, rfl⟩ | retired
      · cases here.symm.trans held
        exact .stops (ScheduleCall.Phase.old?_of_burden burden)
      · exact .done retired
  | entered _ free bare =>
      rcases charge (.inr free) with ⟨task, held, -⟩ | retired
      · cases bare.symm.trans held
      · exact .done retired
  | raised before => cases out.symm.trans before
  | woke before => cases out.symm.trans before
  | joined before => cases out.symm.trans before
  | launched before => cases out.symm.trans before
  | kept before => cases out.symm.trans before
  | left before => cases out.symm.trans before

/-- A call goes on with the loop it stops until that is retired. -/
theorem pursues_of_stopping (sound : roster.Sound) {next : ScheduleCall.Phase} {schedule : Schedule}
    (there : roster.orders[number]? = some order) (stops : order.phase.old? = some loop)
    (effect : order.call.Effect order.maker order.phase roster.schedule next schedule) :
    roster.Pursues { order with phase := next } loop := by
  have old {burden : Burden} (before : order.phase.burden? = some burden) : burden.old? = some loop :=
    (ScheduleCall.Phase.old?_of_burden before).symm.trans stops
  cases effect with
  | same burden => exact .stops (by rw [ScheduleCall.Phase.old?, burden]; exact stops)
  | passed asks => rw [asks] at stops; cases stops
  | took asks => rw [asks] at stops; cases stops
  | entered asks => rw [asks] at stops; cases stops
  | raised before after =>
      cases old before
      exact .stops (ScheduleCall.Phase.old?_of_burden after)
  | woke before after =>
      cases old before
      exact .stops (ScheduleCall.Phase.old?_of_burden after)
  | @joined other before ended =>
      obtain rfl : other = loop := Option.some.inj (old before)
      have hand : roster.hand? = some (.awaiting other) :=
        (hand_of_others there (sound.others there (.inl (by simp [before])))).trans before
      refine .done ⟨sound.custody.flagged other (.inr hand), ?_⟩
      rintro ⟨found, here, runs⟩
      refine ⟨order, List.mem_of_getElem? there, ended.resolve_right ?_⟩
      have here : roster.schedule.loops[other]? = some found := here
      simp [Schedule.hasEnded, here, runs]
  | launched before => cases old before
  | kept before => cases old before
  | left before => cases old before

theorem pursues_take (sound : roster.Sound) {found : ReclaimerLoop}
    (known : roster.loop? loop = some found)
    (pursues : ∀ order, roster.orders[number]? = some order → roster.Pursues order loop)
    (move : RosterMove) :
    ∀ order, (roster.take move).orders[number]? = some order → (roster.take move).Pursues order loop := by
  intro order here
  suffices before : roster.Pursues order loop by
    cases before with
    | asks asks => exact .asks asks
    | refused refused => exact .refused refused
    | stops stops => exact .stops stops
    | done retired => exact .done (sound.retired_take retired move)
  have change := sound.change_take move
  generalize roster.take move = later at here change
  cases change with
  | begun =>
      rcases getElem?_concat_cases here with old | ⟨-, rfl⟩
      · exact pursues order old
      · exact .asks rfl
  | ordered there effect =>
      rcases order_cases there here with ⟨rfl, rfl⟩ | ⟨-, old⟩
      · cases pursues _ there with
        | asks asks => exact sound.pursues_of_asking there asks effect known
        | refused refused => exact .refused refused
        | stops stops => exact sound.pursues_of_stopping there stops effect
        | done retired => exact .done retired
      · exact pursues order old
  | _ => exact pursues order here

theorem pursues_run (sound : roster.Sound) {found : ReclaimerLoop}
    (known : roster.loop? loop = some found) (asks : roster.Asks number) (moves : List RosterMove) :
    (∃ now, (roster.run moves).loop? loop = some now) ∧
      ∀ order, (roster.run moves).orders[number]? = some order →
        (roster.run moves).Pursues order loop := by
  induction moves using List.reverseRecOn with
  | nil => exact ⟨⟨found, known⟩, fun order here => .asks (asks order here)⟩
  | append_singleton moves move ih =>
      obtain ⟨⟨now, here⟩, pursues⟩ := ih
      obtain ⟨next, there, -⟩ := ((sound.run moves).change_take move).shift here
      rw [run_concat]
      exact ⟨⟨next, there⟩, (sound.run moves).pursues_take here pursues move⟩

/-- A finished call that was not refused leaves older loops retired. -/
theorem retired_of_finished (sound : roster.Sound) {found : ReclaimerLoop}
    (known : roster.loop? loop = some found) (asks : roster.Asks number)
    (there : (roster.run moves).orders[number]? = some order) (ends : order.phase.isFinished = true)
    (accepted : order.call.isRefused = false) : (roster.run moves).Retired loop := by
  cases (sound.pursues_run known asks moves).2 order there with
  | asks asks =>
      rw [asks] at ends
      cases ends
  | refused refused => cases accepted.symm.trans refused
  | stops stops =>
      rw [ScheduleCall.Phase.old?, ScheduleCall.Phase.burden_of_finished ends] at stops
      cases stops
  | done retired => exact retired

/-- A loop told to stop gets on at its turn, or with its signal. -/
theorem gets_on (sound : roster.Sound) (told : roster.Told loop) (runs : roster.Runs loop)
    (still : roster.phase? loop ≠ some .ticking) :
    (∀ now, roster.GetsOn loop (.turn loop now)) ∨
      ∃ number order, roster.orders[number]? = some order ∧ order.phase.old? = some loop ∧
        roster.GetsOn loop (.proceed number) := by
  obtain ⟨found, there, told⟩ := told
  obtain ⟨same, here, runs⟩ := runs
  cases here.symm.trans there
  have stands : roster.schedule.loops[loop]? = some found := there
  by_cases waits : ∃ deadline?, found.phase = .waiting deadline?
  · obtain ⟨deadline?, waits⟩ := waits
    have hand := sound.custody.waiting loop found deadline? stands told waits
    obtain ⟨order, inside, bears⟩ := List.exists_of_findSome?_eq_some hand
    obtain ⟨number, place⟩ := List.getElem?_of_mem inside
    obtain ⟨task, dropped, phase, rfl⟩ := ScheduleCall.Phase.of_summoning bears
    refine .inr ⟨number, order, place, ScheduleCall.Phase.old?_of_burden bears, ?_⟩
    have woken : (roster.take (.proceed number)).loop? task.loop = some found.wake := by
      simp only [loop?, Roster.take, advance, place, phase, ScheduleCall.step]
      exact Schedule.getElem?_change.mpr ⟨found, stands, (if_pos rfl).symm⟩
    rw [getsOn_iff there woken, waits]
    exact found.phase_wake_ne deadline?
  · refine .inl fun now => ?_
    have turned : (roster.take (.turn loop now)).loop? loop = some (found.step now) :=
      Schedule.getElem?_change.mpr ⟨found, stands, (if_pos rfl).symm⟩
    rw [getsOn_iff there turned]
    exact found.phase_step_ne now told runs
      (fun ticks => still (phase?_eq_some.mpr ⟨found, there, ticks⟩)) (not_exists.mp waits)

/-- A call waits only for loops told to stop and awake. -/
theorem awake_of_joining (sound : roster.Sound) (there : roster.orders[number]? = some order)
    {task : ReclaimerTask} {dropped : Bool} (joins : order.phase = .stopping task .joining dropped) :
    roster.Told task.loop ∧ ∀ deadline?, roster.phase? task.loop ≠ some (.waiting deadline?) := by
  have bears : order.phase.burden? = some (.awaiting task.loop) := by rw [joins]; rfl
  have hand : roster.hand? = some (.awaiting task.loop) :=
    (hand_of_others there (sound.others there (.inl (by simp [bears])))).trans bears
  obtain ⟨found, here, told⟩ := sound.custody.flagged task.loop (.inr hand)
  refine ⟨⟨found, here, told⟩, fun deadline? waits => ?_⟩
  obtain ⟨same, also, waits⟩ := phase?_eq_some.mp waits
  cases also.symm.trans here
  cases hand.symm.trans (sound.custody.waiting task.loop found deadline? here told waits)

/-- A call with a zero interval is refused, and changes nothing. -/
theorem refused (sound : roster.Sound) (there : roster.orders[number]? = some order)
    (zero : order.call.isRefused = true) :
    roster.take (.proceed number) = ⟨roster.schedule, roster.orders.set number
        { order with phase := .finished (.refused (.config .zeroSweepInterval)) }⟩ ∧
      ∀ move, move.number? = some number → (roster.take move).schedule = roster.schedule := by
  have enters : order.call.enter roster.schedule =
      (.finished (.refused (.config .zeroSweepInterval)), roster.schedule) := by
    cases call : order.call with
    | start interval runNow =>
        rw [call] at zero
        exact if_pos zero
    | destroy => rw [call] at zero; cases zero
    | drop => rw [call] at zero; cases zero
  have proceeds : roster.take (.proceed number) = ⟨roster.schedule, roster.orders.set number
      { order with phase := .finished (.refused (.config .zeroSweepInterval)) }⟩ := by
    rcases (sound.fits number order there).of_refused zero with phase | phase <;>
      simp [Roster.take, advance, there, phase, ScheduleCall.step, enters]
  refine ⟨proceeds, fun move about => ?_⟩
  cases move with
  | proceed => cases about; rw [proceeds]
  | swept =>
      cases about
      rcases (sound.fits number order there).of_refused zero with phase | phase <;>
        simp [Roster.take, advance, there, phase, ScheduleCall.afterSweep]
  | launched =>
      cases about
      rcases (sound.fits number order there).of_refused zero with phase | phase <;>
        simp [Roster.take, advance, there, phase, ScheduleCall.afterLaunch]
  | _ => cases about

/-- A task is stopped again when it is dropped, and this does nothing. -/
theorem stopped_again (sound : roster.Sound) (there : roster.orders[number]? = some order)
    {task : ReclaimerTask} {dropped : Bool} (again : order.phase = .stopping task .taking dropped)
    (spent : task.hasHandle = false) :
    (roster.take (.proceed number)).schedule.loops = roster.schedule.loops ∧
      (roster.take (.proceed number)).schedule.task = roster.schedule.task ∧
      ∃ next, (roster.take (.proceed number)).orders[number]? = some next ∧
        next.phase.isStopping = false := by
  have fits := sound.fits number order there
  rw [again] at fits
  obtain ⟨-, handle, drops⟩ := fits
  have inside : number < roster.orders.length := (List.getElem?_eq_some_iff.mp there).1
  obtain ⟨lasting, rfl⟩ : order.call.isDrop = false ∧ dropped = true := by
    cases last : order.call.isDrop <;> cases dropped <;> simp_all
  simp only [Roster.take, advance, there, again, ScheduleCall.step, spent, ScheduleCall.afterStop]
  cases called : order.call with
  | start interval runNow =>
      cases runNow <;> simp [ScheduleCall.onward, inside, ScheduleCall.Phase.isStopping]
  | destroy => simp [ScheduleCall.onward, inside, ScheduleCall.Phase.isStopping]
  | drop => simp [called, ScheduleCall.isDrop] at lasting

end Sound

/-- A sweeping loop gets on once no call from inside its sweep is under way. -/
theorem gets_on_of_ticking (ticks : roster.phase? loop = some .ticking)
    (free : roster.isCalling loop = false) (storeAlive : Bool) :
    roster.GetsOn loop (.ticked loop storeAlive) := by
  obtain ⟨found, there, ticks⟩ := phase?_eq_some.mp ticks
  have ended : (roster.take (.ticked loop storeAlive)).loop? loop = some (found.tickDone storeAlive) := by
    rw [Roster.take, free]
    exact Schedule.getElem?_change.mpr ⟨found, there, (if_pos rfl).symm⟩
  rw [getsOn_iff there ended]
  cases storeAlive <;> simp [ReclaimerLoop.tickDone, ticks]

/-- A call that finds no loop in charge changes nothing. -/
theorem nothing_stopped (there : roster.orders[number]? = some order) (asks : order.phase = .asking)
    (bare : roster.schedule.task = none)
    (ends : order.call = .destroy ∧ roster.schedule.locked = false ∨ order.call = .drop) :
    roster.take (.proceed number) =
      ⟨roster.schedule, roster.orders.set number { order with phase := .finished .done }⟩ := by
  obtain ⟨⟨loops, task, locked⟩, orders⟩ := roster
  obtain rfl : task = none := bare
  rcases ends with ⟨called, rfl⟩ | called <;>
    simp [Roster.take, advance, there, asks, called, ScheduleCall.step, ScheduleCall.enter,
      ScheduleCall.takeOver, ScheduleCall.onward, ScheduleCall.isDrop]

/-- What holds after a run from a new store, and from then on. -/
structure OneReclaimer (moves : List RosterMove) (roster : Roster) : Prop where
  /-- At most one loop runs that has not been told to stop. -/
  one_untold : ∀ one two, roster.Runs one → roster.Runs two →
    one = two ∨ roster.Told one ∨ roster.Told two
  /-- At most one loop runs, those with a call from their own sweep apart. -/
  one_running : ∀ one two, roster.Runs one → roster.Runs two →
    one = two ∨ roster.Called one ∨ roster.Called two
  /-- A sweep begins only after its deadline, and not once told to stop. -/
  ticks_ripe : ∀ loop move, roster.StartsTick loop move → ¬ roster.Told loop ∧ WaitedOut loop moves
  /-- Told to stop, a loop begins no sweep and ends within three steps. -/
  stop_kept : ∀ loop, roster.Told loop → ∀ further,
    (∀ move, ¬ (roster.run further).StartsTick loop move) ∧ roster.shifts loop further ≤ 3 ∧
      ((roster.run further).Runs loop → roster.shifts loop further < 3)
  /-- Until it has ended a loop told to stop gets on. -/
  stop_heard : ∀ loop, roster.Told loop → roster.Runs loop →
    (∀ now, roster.GetsOn loop (.turn loop now)) ∨
      (∃ (number : Nat) (order : Order), roster.orders[number]? = some order ∧
        order.phase.old? = some loop ∧ roster.GetsOn loop (.proceed number)) ∨
      roster.phase? loop = some .ticking ∧
        (roster.isCalling loop = false → ∀ storeAlive, roster.GetsOn loop (.ticked loop storeAlive))
  /-- No call waits for the end of a waiting loop. -/
  joins_awake : ∀ (number : Nat) (order : Order) (task : ReclaimerTask) (dropped : Bool),
    roster.orders[number]? = some order → order.phase = .stopping task .joining dropped →
      roster.Told task.loop ∧ ∀ deadline?, roster.phase? task.loop ≠ some (.waiting deadline?)
  /-- A call that is over leaves only retired loops behind, unless refused. -/
  retires : ∀ earlier later, moves = earlier ++ later → ∀ (number : Nat) (order : Order),
    (opened.run earlier).Asks number → roster.orders[number]? = some order →
    order.phase.isFinished = true → order.call.isRefused = false →
      ∀ loop, loop < (opened.run earlier).schedule.loops.length →
        roster.Retired loop ∧ ∀ further move, ¬ (roster.run further).StartsTick loop move
  /-- A zero interval is refused, and leaves the running schedule alone. -/
  refuses_zero : ∀ (number : Nat) (order : Order) (interval : Duration) (runNow : Bool),
    roster.orders[number]? = some order → order.call = .start interval runNow → interval.isZero = true →
      roster.take (.proceed number) = ⟨roster.schedule, roster.orders.set number
          { order with phase := .finished (.refused (.config .zeroSweepInterval)) }⟩ ∧
        ∀ move, move.number? = some number → (roster.take move).schedule = roster.schedule
  /-- A task's second stop changes nothing and waits for nothing. -/
  stops_once : ∀ (number : Nat) (order : Order) (task : ReclaimerTask) (dropped : Bool),
    roster.orders[number]? = some order → order.phase = .stopping task .taking dropped →
    task.hasHandle = false →
      (roster.take (.proceed number)).schedule.loops = roster.schedule.loops ∧
        (roster.take (.proceed number)).schedule.task = roster.schedule.task ∧
        ∃ next, (roster.take (.proceed number)).orders[number]? = some next ∧
          next.phase.isStopping = false
  /-- A call that ends a schedule, where there is none, does nothing. -/
  stops_nothing : ∀ (number : Nat) (order : Order), roster.orders[number]? = some order →
    order.phase = .asking → roster.schedule.task = none →
    (order.call = .destroy ∧ roster.schedule.locked = false ∨ order.call = .drop) →
      roster.take (.proceed number) =
        ⟨roster.schedule, roster.orders.set number { order with phase := .finished .done }⟩

/-- One reclaimer at a time, and none after a stop, in every interleaving. -/
theorem one_reclaimer (moves : List RosterMove) : OneReclaimer moves (opened.run moves) where
  one_untold _ _ first second := (Sound.opened.run moves).one_untold first second
  one_running _ _ first second := (Sound.opened.run moves).one_running first second
  ticks_ripe loop move starts := by
    obtain ⟨due, free⟩ := (Sound.opened.run moves).startsTick starts
    exact ⟨free, waitedOut_of_due due free⟩
  stop_kept _ told further :=
    ⟨fun _ => (Sound.opened.run moves).no_tick_of_told told further,
      (Sound.opened.run moves).shifts_of_told told further⟩
  stop_heard loop told runs := by
    have sound := Sound.opened.run moves
    by_cases ticks : (opened.run moves).phase? loop = some .ticking
    · exact .inr (.inr ⟨ticks, gets_on_of_ticking ticks⟩)
    · exact (sound.gets_on told runs ticks).imp_right .inl
  joins_awake _ _ _ _ there joins := (Sound.opened.run moves).awake_of_joining there joins
  retires earlier later split number order asks there ends accepted loop inside := by
    subst split
    have sound := Sound.opened.run (earlier ++ later)
    rw [run_append] at sound there ⊢
    have known := List.getElem?_eq_getElem inside
    have retired := (Sound.opened.run earlier).retired_of_finished known asks there ends accepted
    exact ⟨retired, fun further move => sound.no_tick_of_told retired.1 further⟩
  refuses_zero _ _ _ _ there starts zero :=
    (Sound.opened.run moves).refused there (by rw [starts]; exact zero)
  stops_once _ _ _ _ there again spent := (Sound.opened.run moves).stopped_again there again spent
  stops_nothing _ _ there asks bare ends := nothing_stopped there asks bare ends

/-- A schedule is replaced while its loop sweeps. -/
def replaced : List RosterMove :=
  [.begin (.start ⟨2⟩ false) none, .proceed 0, .launched 0 (.ok ()), .proceed 0,
    .turn 0 ⟨5⟩, .turn 0 ⟨5⟩, .turn 0 ⟨7⟩, .turn 0 ⟨7⟩,
    .begin (.start ⟨1⟩ false) none, .proceed 1, .proceed 1, .proceed 1, .proceed 1,
    .ticked 0 true, .turn 0 ⟨8⟩, .turn 0 ⟨8⟩, .proceed 1, .proceed 1, .launched 1 (.ok ()), .proceed 1]

theorem one_reclaimer_of_replaced :
    (opened.run (replaced.take 7)).StartsTick 0 (.turn 0 ⟨7⟩) ∧ WaitedOut 0 (replaced.take 7) ∧
      (opened.run replaced).phase? 0 = some .finished ∧
      (opened.run replaced).phase? 1 = some .starting ∧ (opened.run replaced).Retired 0 ∧
      ∀ further move, ¬ ((opened.run replaced).run further).StartsTick 0 move := by
  have starts : (opened.run (replaced.take 7)).StartsTick 0 (.turn 0 ⟨7⟩) :=
    ⟨by decide +kernel, by decide +kernel⟩
  obtain ⟨order, there, ends, accepted⟩ : ∃ order, (opened.run replaced).orders[1]? = some order ∧
      order.phase.isFinished = true ∧ order.call.isRefused = false := ⟨_, rfl, rfl, rfl⟩
  have asks : (opened.run (replaced.take 8)).Asks 1 := by
    intro order there
    have absent : (opened.run (replaced.take 8)).orders.length = 1 := by decide +kernel
    simp [absent] at there
  obtain ⟨retired, silent⟩ := (one_reclaimer replaced).retires (replaced.take 8) (replaced.drop 8)
    (List.take_append_drop 8 replaced).symm 1 order asks there ends accepted 0 (by decide +kernel)
  exact ⟨starts, ((one_reclaimer (replaced.take 7)).ticks_ripe 0 _ starts).2, by decide +kernel,
    by decide +kernel, retired, silent⟩

end Roster

end SingleFlight
