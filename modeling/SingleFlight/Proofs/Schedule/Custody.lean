import SingleFlight.Proofs.Schedule.Loops
import SingleFlight.Proofs.Schedule.Roster

namespace SingleFlight

theorem getElem?_concat_cases {α : Type} {list : List α} {last found : α} {place : Nat}
    (there : (list ++ [last])[place]? = some found) :
    list[place]? = some found ∨ place = list.length ∧ found = last := by
  rw [List.getElem?_append] at there
  split at there
  · exact .inl there
  · rw [List.getElem?_singleton] at there
    split at there
    · cases there
      exact .inr ⟨by omega, rfl⟩
    · cases there

theorem Schedule.getElem?_change {schedule : Schedule} {loop other : Nat}
    {after : ReclaimerLoop → ReclaimerLoop} {found : ReclaimerLoop} :
    (schedule.change loop after).loops[other]? = some found ↔
      ∃ before, schedule.loops[other]? = some before ∧
        found = if loop = other then after before else before := by
  rw [change, List.getElem?_modify]
  cases schedule.loops[other]? with
  | none => simp
  | some before => split <;> simp [eq_comm]

theorem Schedule.goesOn_of_change {schedule : Schedule} {loop other : Nat} {now? : Option Instant}
    {after : ReclaimerLoop → ReclaimerLoop} {found : ReclaimerLoop}
    (goes : ∀ before : ReclaimerLoop, before.GoesOn now? (after before))
    (there : (schedule.change loop after).loops[other]? = some found) :
    ∃ before, schedule.loops[other]? = some before ∧ before.GoesOn now? found := by
  obtain ⟨before, was, rfl⟩ := getElem?_change.mp there
  refine ⟨before, was, ?_⟩
  split
  · exact goes before
  · exact .refl before

/-- The loop that a call has in hand. -/
def Burden.loop? : Burden → Option Nat
  | .nothing => none
  | .holding loop | .summoning loop | .awaiting loop | .placing loop => some loop

/-- The loop in charge, or one on its way from or to that place. -/
def Appointed (schedule : Schedule) (hand : Option Burden) (loop : Nat) : Prop :=
  (∃ task, schedule.task = some task ∧ task.loop = loop) ∨
    hand = some (.holding loop) ∨ hand = some (.placing loop)

/-- Every loop is in somebody's custody. -/
structure Custody (schedule : Schedule) (hand : Option Burden) (callers : Nat → Prop) : Prop where
  /-- While a call has the schedule for itself, no loop is in charge. -/
  bare : hand ≠ none → schedule.task = none
  untold : ∀ loop found, schedule.loops[loop]? = some found → found.stopRequested = false →
    Appointed schedule hand loop
  told : ∀ loop found, schedule.loops[loop]? = some found → found.stopRequested = true →
    found.isRunning = true →
      hand = some (.summoning loop) ∨ hand = some (.awaiting loop) ∨ callers loop
  waiting : ∀ loop found deadline, schedule.loops[loop]? = some found → found.stopRequested = true →
    found.phase = .waiting deadline → hand = some (.summoning loop)
  /-- A call waits for a loop, or gives it its signal, after the flag is up. -/
  flagged : ∀ loop, hand = some (.summoning loop) ∨ hand = some (.awaiting loop) →
    ∃ found, schedule.loops[loop]? = some found ∧ found.stopRequested = true
  known : ∀ loop, Appointed schedule hand loop → loop < schedule.loops.length

/-- The loop in charge, or the one that a call has in hand. -/
def Held (schedule : Schedule) (hand : Option Burden) (loop : Nat) : Prop :=
  (∃ task, schedule.task = some task ∧ task.loop = loop) ∨ hand.bind Burden.loop? = some loop

namespace Custody
variable {schedule : Schedule} {hand : Option Burden} {callers : Nat → Prop} {loop : Nat}

theorem empty : Custody .empty none callers where
  bare idle := absurd rfl idle
  untold loop found there := by simp [Schedule.empty] at there
  told loop found there := by simp [Schedule.empty] at there
  waiting loop found deadline there := by simp [Schedule.empty] at there
  flagged loop bears := by simp at bears
  known loop held := by simp [Appointed, Schedule.empty] at held

theorem mono (custody : Custody schedule hand callers) {others : Nat → Prop}
    (more : ∀ loop, callers loop → others loop) : Custody schedule hand others :=
  { custody with
    told := fun loop found there flag runs =>
      (custody.told loop found there flag runs).imp_right (Or.imp_right (more loop)) }

/-- One loop at most is in charge or in a hand. -/
theorem held_unique (custody : Custody schedule hand callers) {other : Nat}
    (first : Held schedule hand loop) (second : Held schedule hand other) : loop = other := by
  -- While something is in hand the place of the task is empty.
  have apart (loop : Nat) (task : ReclaimerTask) (charge : schedule.task = some task)
      (held : hand.bind Burden.loop? = some loop) : False := by
    have bare : schedule.task = none := custody.bare (by rintro rfl; cases held)
    cases bare.symm.trans charge
  rcases first with ⟨task, charge, rfl⟩ | held
  · rcases second with ⟨also, same, rfl⟩ | held
    · cases charge.symm.trans same
      rfl
    · exact (apart other task charge held).elim
  · rcases second with ⟨task, charge, -⟩ | also
    · exact (apart loop task charge held).elim
    · exact Option.some.inj (held.symm.trans also)

theorem held_of_untold (custody : Custody schedule hand callers) {found : ReclaimerLoop}
    (there : schedule.loops[loop]? = some found) (free : found.stopRequested = false) :
    Held schedule hand loop := by
  rcases custody.untold loop found there free with charge | rfl | rfl
  · exact .inl charge
  · exact .inr rfl
  · exact .inr rfl

theorem held_of_running (custody : Custody schedule hand callers) {found : ReclaimerLoop}
    (there : schedule.loops[loop]? = some found) (runs : found.isRunning = true) :
    Held schedule hand loop ∨ callers loop := by
  cases told : found.stopRequested with
  | false => exact .inl (custody.held_of_untold there told)
  | true =>
      rcases custody.told loop found there told runs with rfl | rfl | called
      · exact .inl (.inr rfl)
      · exact .inl (.inr rfl)
      · exact .inr called

/-- A loop that goes on or is woken stays in its custody. -/
theorem turned (custody : Custody schedule hand callers) {now? : Option Instant}
    {after : ReclaimerLoop → ReclaimerLoop}
    (goes : ∀ found : ReclaimerLoop, found.GoesOn now? (after found)) :
    Custody (schedule.change loop after) hand callers where
  bare := custody.bare
  untold other found there free := by
    obtain ⟨before, was, goes⟩ := Schedule.goesOn_of_change goes there
    exact custody.untold other before was (goes.flag ▸ free)
  told other found there flag runs := by
    obtain ⟨before, was, goes⟩ := Schedule.goesOn_of_change goes there
    exact custody.told other before was (goes.flag ▸ flag) (goes.passes.runs runs)
  waiting other found deadline there flag waits := by
    obtain ⟨before, was, goes⟩ := Schedule.goesOn_of_change goes there
    have flag : before.stopRequested = true := goes.flag ▸ flag
    exact custody.waiting other before deadline was flag ((waits ▸ goes.passes).waiting flag)
  flagged other bears := by
    obtain ⟨before, was, flag⟩ := custody.flagged other bears
    refine ⟨_, Schedule.getElem?_change.mpr ⟨before, was, rfl⟩, ?_⟩
    split
    · exact (goes before).flag.trans flag
    · exact flag
  known other held := by simpa [Schedule.change] using custody.known other held

/-- The flag goes up while a call has the task in hand. -/
theorem raised (custody : Custody schedule (some (.holding loop)) callers) :
    Custody (schedule.change loop ReclaimerLoop.raise) (some (.summoning loop)) callers where
  bare _ := custody.bare nofun
  untold other found there free := by
    obtain ⟨before, was, rfl⟩ := Schedule.getElem?_change.mp there
    split at free
    · cases free
    · next apart => exact (custody.untold other before was free).imp_right (by simp [apart])
  told other found there flag runs := by
    obtain ⟨before, was, rfl⟩ := Schedule.getElem?_change.mp there
    by_cases same : loop = other
    · exact .inl (by rw [same])
    · rw [if_neg same] at flag runs
      have left := custody.told other before was flag runs
      simp only [reduceCtorEq, Option.some.injEq, false_or] at left
      exact .inr (.inr left)
  waiting other found deadline there flag waits := by
    obtain ⟨before, was, rfl⟩ := Schedule.getElem?_change.mp there
    by_cases same : loop = other
    · rw [same]
    · rw [if_neg same] at flag waits
      cases custody.waiting other before deadline was flag waits
  flagged other bears := by
    obtain rfl : loop = other := by simpa using bears
    have inside := custody.known loop (.inr (.inl rfl))
    exact ⟨_, Schedule.getElem?_change.mpr ⟨_, List.getElem?_eq_getElem inside, rfl⟩, by
      simp [ReclaimerLoop.raise]⟩
  known other held := by
    have held : Appointed schedule (some (.holding loop)) other := held.imp_right (by simp)
    simpa [Schedule.change] using custody.known other held

/-- The signal is given after the flag has gone up. -/
theorem woken (custody : Custody schedule (some (.summoning loop)) callers) :
    Custody (schedule.change loop ReclaimerLoop.wake) (some (.awaiting loop)) callers := by
  have turned : Custody (schedule.change loop ReclaimerLoop.wake) (some (.summoning loop)) callers :=
    custody.turned fun found => (found.goesOn_wake : found.GoesOn none found.wake)
  refine ⟨fun _ => turned.bare nofun, ?_, ?_, ?_, ?_, ?_⟩
  · intro other found there free
    exact (turned.untold other found there free).imp_right (by simp)
  · intro other found there flag runs
    rcases turned.told other found there flag runs with held | held | called
    · cases held
      exact .inr (.inl rfl)
    · cases held
    · exact .inr (.inr called)
  · intro other found deadline there flag waits
    cases turned.waiting other found deadline there flag waits
    obtain ⟨before, -, rfl⟩ := Schedule.getElem?_change.mp there
    rw [if_pos rfl] at waits
    exact absurd waits (before.phase_wake_ne deadline)
  · intro other bears
    obtain rfl : loop = other := by simpa using bears
    exact turned.flagged loop (.inl rfl)
  · intro other held
    exact turned.known other (held.imp_right (by simp))

/-- A task goes between its place and a hand, or a call lets its loop go. -/
theorem handed (custody : Custody schedule hand callers) {after : Schedule} {next : Option Burden}
    (loops : after.loops = schedule.loops) (bare : next ≠ none → after.task = none)
    (charge : ∀ loop, Appointed schedule hand loop ↔ Appointed after next loop)
    (summons : ∀ loop, next = some (.summoning loop) ↔ hand = some (.summoning loop))
    (awaits : ∀ loop found, schedule.loops[loop]? = some found → found.isRunning = true →
      hand = some (.awaiting loop) → next = some (.awaiting loop) ∨ callers loop)
    (awaited : ∀ loop, next = some (.awaiting loop) → hand = some (.awaiting loop)) :
    Custody after next callers where
  bare := bare
  untold loop found there free := (charge loop).mp (custody.untold loop found (loops ▸ there) free)
  told loop found there flag runs := by
    rw [loops] at there
    rcases custody.told loop found there flag runs with held | held | called
    · exact .inl ((summons loop).mpr held)
    · exact .inr (awaits loop found there runs held)
    · exact .inr (.inr called)
  waiting loop found deadline there flag waits :=
    (summons loop).mpr (custody.waiting loop found deadline (loops ▸ there) flag waits)
  flagged loop bears :=
    loops ▸ custody.flagged loop (bears.imp (summons loop).mp (awaited loop))
  known loop held := loops ▸ custody.known loop ((charge loop).mpr held)

/-- A new loop is in the hand of its call. -/
theorem launched (custody : Custody schedule (some .nothing) callers) (interval : Duration) :
    Custody { schedule with loops := schedule.loops ++ [.spawn interval] }
      (some (.placing schedule.loops.length)) callers := by
  refine ⟨fun _ => custody.bare nofun, ?_, ?_, ?_, ?_, ?_⟩
  · intro loop found there free
    rcases getElem?_concat_cases there with old | ⟨rfl, rfl⟩
    · exact (custody.untold loop found old free).imp_right (by simp)
    · exact .inr (.inr rfl)
  · intro loop found there flag runs
    rcases getElem?_concat_cases there with old | ⟨rfl, rfl⟩
    · have left := custody.told loop found old flag runs
      simp only [reduceCtorEq, Option.some.injEq, false_or] at left
      exact .inr (.inr left)
    · cases flag
  · intro loop found deadline there flag waits
    rcases getElem?_concat_cases there with old | ⟨rfl, rfl⟩
    · cases custody.waiting loop found deadline old flag waits
    · cases flag
  · intro loop bears
    simp at bears
  · intro loop held
    rw [List.length_append, List.length_singleton]
    rcases held with charge | held | held
    · exact Nat.lt_succ_of_lt (custody.known loop (.inl charge))
    · cases held
    · cases held
      exact Nat.lt_succ_self _

/-- The custody of loops through a step of a call. -/
theorem effect {call : ScheduleCall} {maker : Option Nat} {phase next : ScheduleCall.Phase}
    {after : Schedule} (custody : Custody schedule phase.burden? callers)
    (effect : call.Effect maker phase schedule next after)
    (calls : ∀ loop, maker = some loop → callers loop) : Custody after next.burden? callers := by
  cases effect with
  | same burden => exact burden ▸ custody
  | passed asks ends =>
      subst asks
      rw [ScheduleCall.Phase.burden_of_finished ends]
      exact custody
  | took asks _ there burden =>
      subst asks
      rw [burden]
      exact custody.handed rfl (by simp) (by simp [Appointed, there, ScheduleCall.Phase.burden?])
        (by simp [ScheduleCall.Phase.burden?]) (by simp [ScheduleCall.Phase.burden?])
        (by simp)
  | entered asks _ bare burden =>
      subst asks
      rw [burden]
      exact custody.handed rfl (by simp [bare]) (by simp [Appointed, ScheduleCall.Phase.burden?])
        (by simp [ScheduleCall.Phase.burden?]) (by simp [ScheduleCall.Phase.burden?])
        (by simp)
  | raised before burden =>
      rw [before] at custody
      rw [burden]
      exact custody.raised
  | woke before burden =>
      rw [before] at custody
      rw [burden]
      exact custody.woken
  | @joined loop before ended burden =>
      have left (other : Nat) (found : ReclaimerLoop) (there : schedule.loops[other]? = some found)
          (runs : found.isRunning = true) (held : some (Burden.awaiting loop) = some (.awaiting other)) :
          callers other := by
        cases held
        refine calls loop (ended.resolve_right ?_)
        simp [Schedule.hasEnded, there, runs]
      rw [before] at custody
      have bare : schedule.task = none := custody.bare (by simp)
      rcases burden with burden | ⟨burden, -⟩ <;> rw [burden] <;>
        exact custody.handed rfl (fun _ => bare) (by simp [Appointed]) (by simp)
          (fun other found there runs held => .inr (left other found there runs held)) (by simp)
  | launched before burden =>
      rw [before] at custody
      rw [burden]
      exact custody.launched _
  | kept before handle burden =>
      rw [before] at custody
      rw [burden]
      exact custody.handed rfl (by simp) (by simp [Appointed, custody.bare]) (by simp) (by simp) (by simp)
  | left before burden =>
      rw [before] at custody
      rw [burden]
      exact custody.handed rfl (by simp) (by simp [Appointed]) (by simp) (by simp) (by simp)

end Custody

end SingleFlight
