import SingleFlight.Reclaimer

namespace SingleFlight

namespace LoopPhase

/-- Whether a loop has a deadline, and either tests its flag or waits. -/
def IsArmed (phase : LoopPhase) (deadline : Instant) : Prop :=
  phase = .testing (some deadline) ∨ phase = .waiting (some deadline)

/-- How many steps a loop told to stop has left. -/
def rest : LoopPhase → Nat
  | .finished => 0
  | .testing _ | .due => 1
  | .starting | .waiting _ => 2
  | .ticking => 3

theorem rest_le (phase : LoopPhase) : phase.rest ≤ 3 := by
  cases phase <;> simp [rest]

theorem rest_pos {phase : LoopPhase} (runs : phase ≠ .finished) : 0 < phase.rest := by
  cases phase <;> simp_all [rest]

end LoopPhase

namespace ReclaimerLoop

/-- The phases a loop can get to, with or without its reading. -/
inductive Passes (loop : ReclaimerLoop) (now? : Option Instant) : LoopPhase → Prop where
  | stays : loop.Passes now? loop.phase
  /-- A round begins with a deadline one interval ahead. -/
  | plans {now : Instant} (reads : now? = some now) (starts : loop.phase = .starting) :
      loop.Passes now? (.testing (now.after? loop.interval))
  | waits {deadline? : Option Instant} (tests : loop.phase = .testing deadline?)
      (free : loop.stopRequested = false) : loop.Passes now? (.waiting deadline?)
  | woken {deadline? : Option Instant} (waits : loop.phase = .waiting deadline?) :
      loop.Passes now? (.testing deadline?)
  | reaches {now deadline : Instant} (reads : now? = some now)
      (waits : loop.phase = .waiting (some deadline)) (reached : deadline.nanos ≤ now.nanos) :
      loop.Passes now? .due
  | sweeps (due : loop.phase = .due) (free : loop.stopRequested = false) : loop.Passes now? .ticking
  /-- Both tests of the flag end the loop. -/
  | obeys (tests : loop.phase = .due ∨ ∃ deadline?, loop.phase = .testing deadline?) :
      loop.Passes now? .finished
  | restarts (ticks : loop.phase = .ticking) : loop.Passes now? .starting
  | leaves (ticks : loop.phase = .ticking) : loop.Passes now? .finished

/-- A loop goes on by itself, or is woken. -/
structure GoesOn (loop : ReclaimerLoop) (now? : Option Instant) (next : ReclaimerLoop) : Prop where
  flag : next.stopRequested = loop.stopRequested
  passes : loop.Passes now? next.phase

variable {loop next : ReclaimerLoop} {now? : Option Instant} {phase : LoopPhase}

theorem GoesOn.refl (loop : ReclaimerLoop) : loop.GoesOn now? loop := ⟨rfl, .stays⟩

theorem goesOn_step (loop : ReclaimerLoop) (now : Instant) : loop.GoesOn (some now) (loop.step now) := by
  obtain ⟨interval, flag, phase⟩ := loop
  cases phase with
  | starting => exact ⟨rfl, .plans rfl rfl⟩
  | testing deadline? =>
      cases flag with
      | false => exact ⟨rfl, .waits rfl rfl⟩
      | true => exact ⟨rfl, .obeys (.inr ⟨deadline?, rfl⟩)⟩
  | waiting deadline? =>
      cases deadline? with
      | none => exact .refl _
      | some deadline =>
          simp only [step]
          split
          · next reached => exact ⟨rfl, .reaches rfl rfl reached⟩
          · exact .refl _
  | due =>
      cases flag with
      | false => exact ⟨rfl, .sweeps rfl rfl⟩
      | true => exact ⟨rfl, .obeys (.inl rfl)⟩
  | ticking | finished => exact .refl _

theorem goesOn_wake (loop : ReclaimerLoop) : loop.GoesOn now? loop.wake := by
  obtain ⟨interval, flag, phase⟩ := loop
  cases phase with
  | waiting => exact ⟨rfl, .woken rfl⟩
  | _ => exact .refl _

theorem goesOn_tickDone (loop : ReclaimerLoop) (storeAlive : Bool) :
    loop.GoesOn now? (loop.tickDone storeAlive) := by
  obtain ⟨interval, flag, phase⟩ := loop
  cases phase with
  | ticking =>
      cases storeAlive with
      | false => exact ⟨rfl, .leaves rfl⟩
      | true => exact ⟨rfl, .restarts rfl⟩
  | _ => exact .refl _

/-- A signal ends the wait. -/
theorem phase_wake_ne (loop : ReclaimerLoop) (deadline? : Option Instant) :
    loop.wake.phase ≠ .waiting deadline? := by
  obtain ⟨interval, flag, phase⟩ := loop
  cases phase <;> simp [wake]

/-- A loop told to stop gets on, unless it sweeps, waits or has ended. -/
theorem phase_step_ne (loop : ReclaimerLoop) (now : Instant) (told : loop.stopRequested = true)
    (runs : loop.isRunning = true) (still : loop.phase ≠ .ticking)
    (awake : ∀ deadline?, loop.phase ≠ .waiting deadline?) : (loop.step now).phase ≠ loop.phase := by
  obtain ⟨interval, flag, phase⟩ := loop
  obtain rfl : flag = true := told
  cases phase with
  | starting | testing | due => simp [step]
  | waiting deadline? => exact absurd rfl (awake deadline?)
  | ticking => exact absurd rfl still
  | finished => cases runs

namespace Passes

/-- A loop that has ended does not run again. -/
theorem finished (passes : loop.Passes now? phase) (ended : loop.phase = .finished) : phase = .finished := by
  cases passes with
  | stays => exact ended
  | obeys => rfl
  | leaves => rfl
  | plans _ before => cases ended.symm.trans before
  | waits before => cases ended.symm.trans before
  | woken before => cases ended.symm.trans before
  | reaches _ before => cases ended.symm.trans before
  | sweeps before => cases ended.symm.trans before
  | restarts before => cases ended.symm.trans before

/-- Once told to stop, a loop does not begin to wait. -/
theorem waiting {deadline? : Option Instant} (passes : loop.Passes now? (.waiting deadline?))
    (told : loop.stopRequested = true) : loop.phase = .waiting deadline? := by
  generalize same : LoopPhase.waiting deadline? = phase at passes
  cases passes with
  | stays => rfl
  | waits _ free => cases told.symm.trans free
  | _ => cases same

/-- A loop that has begun to sweep has passed its second test. -/
theorem ticking (passes : loop.Passes now? .ticking) (apart : loop.phase ≠ .ticking) :
    loop.phase = .due ∧ loop.stopRequested = false := by
  generalize same : LoopPhase.ticking = phase at passes
  cases passes with
  | stays => exact absurd same.symm apart
  | sweeps due free => exact ⟨due, free⟩
  | _ => cases same

/-- Without a signal a loop leaves its wait only at its deadline. -/
theorem due (passes : loop.Passes now? .due) (apart : loop.phase ≠ .due) :
    ∃ now deadline, now? = some now ∧ loop.phase = .waiting (some deadline) ∧
      deadline.nanos ≤ now.nanos := by
  generalize same : LoopPhase.due = phase at passes
  cases passes with
  | stays => exact absurd same.symm apart
  | reaches reads waits reached => exact ⟨_, _, reads, waits, reached⟩
  | _ => cases same

/-- A round starts with a deadline one interval ahead. -/
theorem armed {deadline : Instant} (passes : loop.Passes now? phase) (armed : phase.IsArmed deadline)
    (apart : ¬ loop.phase.IsArmed deadline) :
    ∃ now, now? = some now ∧ loop.phase = .starting ∧ now.after? loop.interval = some deadline := by
  cases passes with
  | stays => exact absurd armed apart
  | plans reads starts => exact ⟨_, reads, starts, by simpa [LoopPhase.IsArmed] using armed⟩
  | waits tests =>
      obtain rfl := by simpa [LoopPhase.IsArmed] using armed
      exact absurd (.inl tests) apart
  | woken waits =>
      obtain rfl := by simpa [LoopPhase.IsArmed] using armed
      exact absurd (.inr waits) apart
  | _ => simp [LoopPhase.IsArmed] at armed

/-- A loop told to stop has fewer steps left in another phase. -/
theorem rest_lt (passes : loop.Passes now? phase) (told : loop.stopRequested = true)
    (gets : phase ≠ loop.phase) : phase.rest < loop.phase.rest := by
  cases passes with
  | stays => exact absurd rfl gets
  | waits _ free => cases told.symm.trans free
  | sweeps _ free => cases told.symm.trans free
  | plans _ before => simp [LoopPhase.rest, before]
  | woken before => simp [LoopPhase.rest, before]
  | reaches _ before => simp [LoopPhase.rest, before]
  | obeys before => rcases before with before | ⟨deadline?, before⟩ <;> simp [LoopPhase.rest, before]
  | restarts before => simp [LoopPhase.rest, before]
  | leaves before => simp [LoopPhase.rest, before]

/-- A loop that runs has run before. -/
theorem runs (passes : loop.Passes now? next.phase) (runs : next.isRunning = true) :
    loop.isRunning = true := by
  rw [isRunning, bne_iff_ne] at runs ⊢
  exact fun ended => runs (passes.finished ended)

end Passes

end ReclaimerLoop

end SingleFlight
