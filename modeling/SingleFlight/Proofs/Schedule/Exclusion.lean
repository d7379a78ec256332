import Mathlib.Data.List.Induction
import SingleFlight.Proofs.Schedule.Custody

namespace SingleFlight

namespace ScheduleCall.Effect
variable {call : ScheduleCall} {maker : Option Nat} {phase next : Phase} {schedule after : Schedule}

/-- A call that is over stays so. -/
theorem lasts (effect : call.Effect maker phase schedule next after) (ends : phase.isFinished = true) :
    next.isFinished = true := by
  have out : phase.burden? = none := phase.burden_of_finished ends
  cases effect with
  | same _ rests => rwa [rests out]
  | passed _ ended => exact ended
  | took asks => cases asks ▸ ends
  | entered asks => cases asks ▸ ends
  | raised before => cases before ▸ out
  | woke before => cases before ▸ out
  | joined before => cases before ▸ out
  | launched before => cases before ▸ out
  | kept before => cases before ▸ out
  | left before => cases before ▸ out

/-- A step changes nothing, or belongs to a call entitled to the schedule. -/
theorem idle_or_own (effect : call.Effect maker phase schedule next after) :
    (after = schedule ∧ next.burden? = none ∧ phase.burden? = none) ∨ phase.burden? ≠ none ∨
      phase = .asking ∧ (call.isDrop = true ∨ schedule.locked = false) := by
  cases effect with
  | same burden =>
      by_cases out : phase.burden? = none
      · exact .inl ⟨rfl, burden.trans out, out⟩
      · exact .inr (.inl out)
  | passed asks ends => exact .inl ⟨rfl, Phase.burden_of_finished ends, by rw [asks]; rfl⟩
  | took asks free => exact .inr (.inr ⟨asks, free⟩)
  | entered asks free => exact .inr (.inr ⟨asks, .inr free⟩)
  | raised before => exact .inr (.inl (by simp [before]))
  | woke before => exact .inr (.inl (by simp [before]))
  | joined before => exact .inr (.inl (by simp [before]))
  | launched before => exact .inr (.inl (by simp [before]))
  | kept before => exact .inr (.inl (by simp [before]))
  | left before => exact .inr (.inl (by simp [before]))

/-- A call goes on with the mutex, unless it is the store's end. -/
theorem keeps_locked (effect : call.Effect maker phase schedule next after)
    (locked : phase.burden? ≠ none → call.isDrop = false → schedule.locked = true)
    (inside : next.burden? ≠ none) (lasting : call.isDrop = false) : after.locked = true := by
  cases effect with
  | same burden => exact locked (burden ▸ inside) lasting
  | passed _ ends => exact absurd (Phase.burden_of_finished ends) inside
  | took => simp [lasting]
  | entered => rfl
  | raised before => exact locked (by simp [before]) lasting
  | woke before => exact locked (by simp [before]) lasting
  | joined before => exact locked (by simp [before]) lasting
  | launched before => exact locked (by simp [before]) lasting
  | kept _ _ out => exact absurd out inside
  | left _ out => exact absurd out inside

/-- The task of the loop in charge keeps its handle. -/
theorem keeps_handle (effect : call.Effect maker phase schedule next after)
    (slot : ∀ task, schedule.task = some task → task.hasHandle = true) :
    ∀ task, after.task = some task → task.hasHandle = true := by
  intro task there
  cases effect with
  | took => cases there
  | kept _ handle =>
      cases there
      exact handle
  | _ => exact slot task there

end ScheduleCall.Effect

namespace Roster

/-- What the call that has the schedule for itself has in hand. -/
def hand? (roster : Roster) : Option Burden := roster.orders.findSome? fun order => order.phase.burden?

/-- A loop from inside of whose sweep a call was made. -/
def Called (roster : Roster) (loop : Nat) : Prop := ∃ order ∈ roster.orders, order.maker = some loop

/-- What a move does. -/
inductive Change (roster : Roster) : RosterMove → Roster → Prop where
  | still {move : RosterMove} : roster.Change move roster
  | begun {call : ScheduleCall} {maker : Option Nat} (admitted : roster.admits call maker = true) :
      roster.Change (.begin call maker)
        { roster with orders := roster.orders ++ [⟨call, maker, .asking⟩] }
  | ordered {move : RosterMove} {number : Nat} {order : Order} {next : ScheduleCall.Phase}
      {schedule : Schedule} (there : roster.orders[number]? = some order)
      (effect : order.call.Effect order.maker order.phase roster.schedule next schedule)
      (fits : order.call.Fits next) :
      roster.Change move ⟨schedule, roster.orders.set number { order with phase := next }⟩
  | turned {loop : Nat} {now : Instant} :
      roster.Change (.turn loop now) (roster.change loop fun found => found.step now)
  | stirred {loop : Nat} : roster.Change (.stir loop) (roster.change loop ReclaimerLoop.wake)
  | ticked {loop : Nat} {storeAlive : Bool} :
      roster.Change (.ticked loop storeAlive)
        (roster.change loop fun found => found.tickDone storeAlive)

/-- One call has the schedule, and all loops are in custody. -/
structure Sound (roster : Roster) : Prop where
  fits : ∀ (number : Nat) (order : Order), roster.orders[number]? = some order →
    order.call.Fits order.phase
  handle : ∀ task, roster.schedule.task = some task → task.hasHandle = true
  alone : ∀ (one two : Nat) (first second : Order), roster.orders[one]? = some first →
    roster.orders[two]? = some second → first.phase.burden? ≠ none → second.phase.burden? ≠ none →
      one = two
  locked : ∀ (number : Nat) (order : Order), roster.orders[number]? = some order →
    order.phase.burden? ≠ none → order.call.isDrop = false → roster.schedule.locked = true
  /-- When the store ends all other calls are over. -/
  last : ∀ (one two : Nat) (first second : Order), roster.orders[one]? = some first →
    roster.orders[two]? = some second → one ≠ two → first.call.isDrop = true →
      second.phase.isFinished = true
  custody : Custody roster.schedule roster.hand? roster.Called

variable {roster after : Roster} {move : RosterMove} {number : Nat} {order : Order}

/-- What is in the hand of the one call that has the schedule. -/
theorem hand_of_others (there : roster.orders[number]? = some order)
    (others : ∀ (place : Nat) (other : Order), roster.orders[place]? = some other → place ≠ number →
      other.phase.burden? = none) : roster.hand? = order.phase.burden? := by
  cases found : roster.hand? with
  | none =>
      rw [hand?, List.findSome?_eq_none_iff] at found
      exact (found order (List.mem_of_getElem? there)).symm
  | some burden =>
      obtain ⟨other, inside, bears⟩ := List.exists_of_findSome?_eq_some found
      obtain ⟨place, here⟩ := List.getElem?_of_mem inside
      by_cases same : place = number
      · subst same
        cases here.symm.trans there
        exact bears.symm
      · exact nomatch bears.symm.trans (others place other here same)

theorem order_cases {next : ScheduleCall.Phase} {place : Nat} {found : Order}
    (there : roster.orders[number]? = some order)
    (here : (roster.orders.set number { order with phase := next })[place]? = some found) :
    place = number ∧ found = { order with phase := next } ∨
      place ≠ number ∧ roster.orders[place]? = some found := by
  by_cases same : place = number
  · subst same
    rw [List.getElem?_set_self (List.getElem?_eq_some_iff.mp there).1] at here
    cases here
    exact .inl ⟨rfl, rfl⟩
  · rw [List.getElem?_set_ne (Ne.symm same)] at here
    exact .inr ⟨same, here⟩

/-- A call that gets or loses nothing leaves what is in hand. -/
theorem hand_set {next : ScheduleCall.Phase} (there : roster.orders[number]? = some order)
    (same : next.burden? = order.phase.burden?) (schedule : Schedule) :
    hand? ⟨schedule, roster.orders.set number { order with phase := next }⟩ = roster.hand? := by
  obtain ⟨inside, rfl⟩ := List.getElem?_eq_some_iff.mp there
  have burdens : (roster.orders.set number { roster.orders[number] with phase := next }).map
      (fun order => order.phase.burden?) = roster.orders.map fun order => order.phase.burden? := by
    rw [List.map_set, same]
    exact (List.map_set ..).symm.trans (by rw [List.set_getElem_self])
  have through (orders : List Order) : orders.findSome? (fun order => order.phase.burden?) =
      (orders.map fun order => order.phase.burden?).findSome? id := by
    rw [List.findSome?_map]
    rfl
  rw [hand?, hand?, through, through, burdens]

/-- From which sweeps calls were made stays known. -/
theorem called_set {next : ScheduleCall.Phase} (there : roster.orders[number]? = some order)
    (schedule : Schedule) (loop : Nat) (called : roster.Called loop) :
    Called ⟨schedule, roster.orders.set number { order with phase := next }⟩ loop := by
  obtain ⟨caller, inside, made⟩ := called
  obtain ⟨place, here⟩ := List.getElem?_of_mem inside
  by_cases same : place = number
  · subst same
    cases here.symm.trans there
    exact ⟨_, List.mem_set (List.getElem?_eq_some_iff.mp there).1 _, made⟩
  · exact ⟨caller, List.mem_of_getElem? ((List.getElem?_set_ne (Ne.symm same)).trans here), made⟩

namespace Sound

theorem opened : Roster.opened.Sound where
  fits number order there := by simp [Roster.opened] at there
  handle task there := by simp [Roster.opened, Schedule.empty] at there
  alone one two first second there := by simp [Roster.opened] at there
  locked number order there := by simp [Roster.opened] at there
  last one two first second there := by simp [Roster.opened] at there
  custody := .empty

/-- Beside a call entitled to the schedule no other one has it. -/
theorem others (sound : roster.Sound) (there : roster.orders[number]? = some order)
    (own : order.phase.burden? ≠ none ∨
      order.phase = .asking ∧ (order.call.isDrop = true ∨ roster.schedule.locked = false)) :
    ∀ (place : Nat) (other : Order), roster.orders[place]? = some other → place ≠ number →
      other.phase.burden? = none := by
  intro place other here apart
  by_contra inside
  rcases own with bears | ⟨asks, drops | free⟩
  · exact apart (sound.alone place number other order here there inside bears)
  · exact inside (ScheduleCall.Phase.burden_of_finished
      (sound.last number place order other there here (Ne.symm apart) drops))
  · cases drops : other.call.isDrop with
    | false => cases free.symm.trans (sound.locked place other here inside drops)
    | true =>
        have ends := sound.last place number other order here there apart drops
        rw [asks] at ends
        cases ends

theorem change_advance (sound : roster.Sound)
    {step : Order → Schedule → ScheduleCall.Phase × Schedule}
    (spec : ∀ order : Order, order.call.Fits order.phase →
      order.call.Effect order.maker order.phase roster.schedule (step order roster.schedule).1
          (step order roster.schedule).2 ∧
        order.call.Fits (step order roster.schedule).1) :
    roster.Change move (roster.advance number step) := by
  rw [advance]
  split
  · exact .still
  · next order there =>
      obtain ⟨effect, fits⟩ := spec order (sound.fits number order there)
      exact .ordered there effect fits

/-- The moves, one by one. -/
theorem change_take (sound : roster.Sound) (move : RosterMove) : roster.Change move (roster.take move) := by
  cases move with
  | begin call maker =>
      simp only [take]
      split
      · next admitted => exact .begun admitted
      · exact .still
  | proceed number =>
      rw [take]
      refine sound.change_advance fun order fits => ?_
      exact ScheduleCall.step_effect fits sound.handle
  | swept number outcome =>
      rw [take]
      refine sound.change_advance fun order fits => ?_
      exact ScheduleCall.afterSweep_effect fits outcome
  | launched number outcome =>
      rw [take]
      refine sound.change_advance fun order fits => ?_
      exact ScheduleCall.afterLaunch_effect fits outcome
  | turn loop now => exact .turned
  | stir loop => exact .stirred
  | ticked loop storeAlive =>
      simp only [take]
      split
      · exact .still
      · exact .ticked

/-- A loop that goes on or is woken leaves all calls alone. -/
theorem turned (sound : roster.Sound) (loop : Nat) {now? : Option Instant}
    {step : ReclaimerLoop → ReclaimerLoop}
    (goes : ∀ found : ReclaimerLoop, found.GoesOn now? (step found)) : (roster.change loop step).Sound :=
  { sound with custody := sound.custody.turned goes }

theorem begun (sound : roster.Sound) {call : ScheduleCall} {maker : Option Nat}
    (admitted : roster.admits call maker = true) :
    Sound { roster with orders := roster.orders ++ [⟨call, maker, .asking⟩] } := by
  have open_or (place : Nat) (found : Order)
      (here : (roster.orders ++ [⟨call, maker, .asking⟩])[place]? = some found)
      (inside : found.phase.burden? ≠ none) : roster.orders[place]? = some found := by
    rcases getElem?_concat_cases here with old | ⟨-, rfl⟩
    · exact old
    · exact absurd rfl inside
  rw [admits, Bool.and_eq_true, List.all_eq_true] at admitted
  refine ⟨?_, sound.handle, ?_, ?_, ?_, ?_⟩
  · intro number order here
    rcases getElem?_concat_cases here with old | ⟨-, rfl⟩
    · exact sound.fits number order old
    · trivial
  · intro one two first second here there busy held
    exact sound.alone one two first second (open_or one first here busy) (open_or two second there held)
      busy held
  · intro number order here inside
    exact sound.locked number order (open_or number order here inside) inside
  · intro one two first second here there apart drops
    rcases getElem?_concat_cases here with old | ⟨rfl, rfl⟩ <;>
      rcases getElem?_concat_cases there with early | ⟨rfl, rfl⟩
    · exact sound.last one two first second old early apart drops
    · have lasting := admitted.2 first (List.mem_of_getElem? old)
      simp [drops] at lasting
    · have lasting := admitted.2 second (List.mem_of_getElem? early)
      simp only [Bool.and_eq_true, Bool.or_eq_true] at lasting
      exact lasting.2.resolve_left (by simp [drops])
    · exact absurd rfl apart
  · have same : hand? { roster with orders := roster.orders ++ [⟨call, maker, .asking⟩] } =
        roster.hand? := by
      simp [hand?, List.findSome?_append, ScheduleCall.Phase.burden?]
    rw [same]
    refine sound.custody.mono ?_
    rintro loop ⟨caller, inside, made⟩
    exact ⟨caller, List.mem_append_left _ inside, made⟩

variable {next : ScheduleCall.Phase} {schedule : Schedule}

theorem fits_set (sound : roster.Sound) (there : roster.orders[number]? = some order)
    (fits : order.call.Fits next) (place : Nat) (found : Order)
    (here : (roster.orders.set number { order with phase := next })[place]? = some found) :
    found.call.Fits found.phase := by
  rcases order_cases there here with ⟨-, rfl⟩ | ⟨-, old⟩
  · exact fits
  · exact sound.fits place found old

theorem last_set (sound : roster.Sound) (there : roster.orders[number]? = some order)
    (lasts : order.phase.isFinished = true → next.isFinished = true) (one two : Nat)
    (first second : Order)
    (here : (roster.orders.set number { order with phase := next })[one]? = some first)
    (also : (roster.orders.set number { order with phase := next })[two]? = some second)
    (apart : one ≠ two) (drops : first.call.isDrop = true) : second.phase.isFinished = true := by
  rcases order_cases there also with ⟨rfl, rfl⟩ | ⟨-, early⟩
  · rcases order_cases there here with ⟨same, -⟩ | ⟨-, old⟩
    · exact absurd same apart
    · exact lasts (sound.last one two first order old there apart drops)
  · rcases order_cases there here with ⟨rfl, rfl⟩ | ⟨-, old⟩
    · exact sound.last one two order second there early apart drops
    · exact sound.last one two first second old early apart drops

/-- A call goes on, or ends, without having had the schedule for itself. -/
theorem idle (sound : roster.Sound) (there : roster.orders[number]? = some order)
    (fits : order.call.Fits next) (lasts : order.phase.isFinished = true → next.isFinished = true)
    (was : order.phase.burden? = none) (out : next.burden? = none) :
    Sound ⟨roster.schedule, roster.orders.set number { order with phase := next }⟩ := by
  have inside_cases (place : Nat) (found : Order)
      (here : (roster.orders.set number { order with phase := next })[place]? = some found)
      (inside : found.phase.burden? ≠ none) : roster.orders[place]? = some found := by
    rcases order_cases there here with ⟨-, rfl⟩ | ⟨-, old⟩
    · exact absurd out inside
    · exact old
  refine ⟨sound.fits_set there fits, sound.handle, ?_, ?_, sound.last_set there lasts, ?_⟩
  · intro one two first second here also busy held
    exact sound.alone one two first second (inside_cases one first here busy)
      (inside_cases two second also held) busy held
  · intro place found here inside
    exact sound.locked place found (inside_cases place found here inside) inside
  · rw [hand_set there (out.trans was.symm)]
    exact sound.custody.mono (called_set there _)

/-- A call entitled to the schedule makes a step. -/
theorem own (sound : roster.Sound) (there : roster.orders[number]? = some order)
    (effect : order.call.Effect order.maker order.phase roster.schedule next schedule)
    (fits : order.call.Fits next)
    (others : ∀ (place : Nat) (other : Order), roster.orders[place]? = some other → place ≠ number →
      other.phase.burden? = none) :
    Sound ⟨schedule, roster.orders.set number { order with phase := next }⟩ := by
  have inside_cases (place : Nat) (found : Order)
      (here : (roster.orders.set number { order with phase := next })[place]? = some found)
      (inside : found.phase.burden? ≠ none) : place = number ∧ found = { order with phase := next } := by
    rcases order_cases there here with same | ⟨apart, old⟩
    · exact same
    · exact absurd (others place found old apart) inside
  refine ⟨sound.fits_set there fits, effect.keeps_handle sound.handle, ?_, ?_,
    sound.last_set there effect.lasts, ?_⟩
  · intro one two first second here also busy held
    rw [(inside_cases one first here busy).1, (inside_cases two second also held).1]
  · intro place found here inside
    obtain ⟨rfl, rfl⟩ := inside_cases place found here inside
    exact effect.keeps_locked (sound.locked place order there) inside
  · have stands : (roster.orders.set number { order with phase := next })[number]? =
        some { order with phase := next } :=
      List.getElem?_set_self (List.getElem?_eq_some_iff.mp there).1
    have hand : hand? ⟨schedule, roster.orders.set number { order with phase := next }⟩ =
        next.burden? := by
      refine @hand_of_others ⟨schedule, _⟩ number _ stands fun place found here apart => ?_
      by_contra inside
      exact apart (inside_cases place found here inside).1
    have custody := sound.custody
    rw [hand_of_others there others] at custody
    rw [hand]
    have called : ∀ loop, order.maker = some loop → roster.Called loop :=
      fun loop made => ⟨order, List.mem_of_getElem? there, made⟩
    exact (custody.effect effect called).mono (called_set there _)

theorem ordered (sound : roster.Sound) (there : roster.orders[number]? = some order)
    (effect : order.call.Effect order.maker order.phase roster.schedule next schedule)
    (fits : order.call.Fits next) :
    Sound ⟨schedule, roster.orders.set number { order with phase := next }⟩ := by
  rcases effect.idle_or_own with ⟨rfl, out, was⟩ | own
  · exact sound.idle there fits effect.lasts was out
  · exact sound.own there effect fits (sound.others there own)

theorem of_change (sound : roster.Sound) (change : roster.Change move after) : after.Sound := by
  cases change with
  | still => exact sound
  | begun admitted => exact sound.begun admitted
  | ordered there effect fits => exact sound.ordered there effect fits
  | turned => exact sound.turned _ fun found => found.goesOn_step _
  | stirred => exact sound.turned _ fun found => (found.goesOn_wake : found.GoesOn none _)
  | @ticked _ storeAlive =>
      exact sound.turned _ fun found => (found.goesOn_tickDone storeAlive : found.GoesOn none _)

theorem take (sound : roster.Sound) (move : RosterMove) : (roster.take move).Sound :=
  sound.of_change (sound.change_take move)

theorem run (sound : roster.Sound) (moves : List RosterMove) : (roster.run moves).Sound := by
  induction moves using List.reverseRecOn with
  | nil => exact sound
  | append_singleton moves move ih =>
      rw [run_concat]
      exact ih.take move

end Sound

end Roster

end SingleFlight
