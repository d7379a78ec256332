import SingleFlight.Proofs.Traffic.Layout
import SingleFlight.Proofs.Traffic.Sound

namespace SingleFlight

deriving instance DecidableEq for Lookup.Phase, Sweep.Phase, Copying.Phase, Call

/-- Whether a move is the next step of the call of a number. -/
def Move.proceeds (move : Move) (number : Nat) : Bool :=
  match move.action with
  | .proceed other => other == number
  | _ => false

theorem Move.action_of_proceeds {move : Move} {number : Nat}
    (own : move.proceeds number = true) : move.action = .proceed number := by
  unfold proceeds at own
  split at own
  · next other asks => rw [asks, beq_iff_eq.mp own]
  · cases own

/-- Whether a call is over. -/
def Call.isOver : Call → Bool
  | .lookup _ (.finished _) | .sweep (.finished _) | .removal (.finished _)
  | .copying _ (.finished _) => true
  | _ => false

namespace Traffic
variable {traffic : Traffic} {move : Move} {number : Nat}

/-- A call's step moves that call alone. -/
theorem take_of_proceeds (proceeds : move.proceeds number = true) {call : Call}
    (there : traffic.calls[number]? = some call) :
    traffic.take move = ⟨(call.step move.moment traffic.cache).2,
      traffic.calls.set number (call.step move.moment traffic.cache).1⟩ := by
  simp [take, Move.action_of_proceeds proceeds, there]

/-- There is nothing to do for a call that has not begun. -/
theorem take_of_absent (proceeds : move.proceeds number = true)
    (absent : traffic.calls[number]? = none) : traffic.take move = traffic := by
  simp [take, Move.action_of_proceeds proceeds, absent]

/-- A call after a move has made a step, or stayed, or begun. -/
theorem call_cases {next : Call} (there : (traffic.take move).calls[number]? = some next) :
    (move.proceeds number = true ∧ ∃ call, traffic.calls[number]? = some call ∧
      next = (call.step move.moment traffic.cache).1 ∧
      (traffic.take move).cache = (call.step move.moment traffic.cache).2) ∨
    (move.proceeds number = false ∧ traffic.calls[number]? = some next) ∨
    (move.proceeds number = false ∧ traffic.calls[number]? = none ∧
      ∃ task, move.action = .begin task ∧
        next = task.start traffic.cache.store.segments.count) := by
  cases proceeds : move.proceeds number with
  | true =>
      cases before : traffic.calls[number]? with
      | none => rw [take_of_absent proceeds before, before] at there; cases there
      | some call =>
          have inside := (List.getElem?_eq_some_iff.mp before).1
          rw [take_of_proceeds proceeds before] at there ⊢
          obtain rfl : (call.step move.moment traffic.cache).1 = next := by simpa [inside] using there
          exact .inl ⟨rfl, call, rfl, rfl, rfl⟩
  | false =>
      right
      obtain ⟨action, moment⟩ := move
      cases action with
      | begin task =>
          simp only [take] at there
          split at there
          · rw [List.getElem?_append] at there
            split at there
            · exact .inl ⟨rfl, there⟩
            · next beyond =>
                obtain rfl := List.mem_singleton.mp (List.mem_of_getElem? there)
                exact .inr ⟨rfl, List.getElem?_eq_none (Nat.not_lt.mp beyond), task, rfl, rfl⟩
          · exact .inl ⟨rfl, there⟩
      | proceed other =>
          simp only [take] at there
          split at there
          · exact .inl ⟨rfl, there⟩
          · have apart : other ≠ number := by simpa [Move.proceeds] using proceeds
            rw [List.getElem?_set_ne apart] at there
            exact .inl ⟨rfl, there⟩
      | evict key entry => exact .inl ⟨rfl, there⟩
      | _ =>
          simp only [take, calls_onEntry] at there
          exact .inl ⟨rfl, there⟩

/-- Calls that have begun stay in the list. -/
theorem length_calls_take (traffic : Traffic) (move : Move) :
    traffic.calls.length ≤ (traffic.take move).calls.length := by
  have change := traffic.change_take move
  generalize traffic.take move = after at change
  cases change with
  | begun => simp
  | proceeded => simp
  | _ => exact Nat.le_refl _

/-- Calls that have begun stay in the list on every run. -/
theorem length_calls_run (traffic : Traffic) (moves : List Move) :
    traffic.calls.length ≤ (traffic.run moves).calls.length := by
  induction moves generalizing traffic with
  | nil => exact Nat.le_refl _
  | cons move rest ih => exact (traffic.length_calls_take move).trans (ih (traffic.take move))

/-- A call stays at its phase while others move. -/
theorem call_take_idle {call : Call} (there : traffic.calls[number]? = some call)
    (idle : move.proceeds number = false) : (traffic.take move).calls[number]? = some call := by
  have bound := (List.getElem?_eq_some_iff.mp there).1
  obtain ⟨next, known⟩ : ∃ next, (traffic.take move).calls[number]? = some next :=
    ⟨_, List.getElem?_eq_getElem (bound.trans_le (traffic.length_calls_take move))⟩
  rcases call_cases known with ⟨own, -⟩ | ⟨-, same⟩ | ⟨-, absent, -⟩
  · rw [idle] at own
    cases own
  · rw [known, same.symm.trans there]
  · rw [there] at absent
    cases absent

theorem call_run_idle {call : Call} (there : traffic.calls[number]? = some call) {moves : List Move}
    (idle : ∀ move ∈ moves, Move.proceeds move number = false) :
    (traffic.run moves).calls[number]? = some call := by
  induction moves generalizing traffic with
  | nil => exact there
  | cons move rest ih =>
      have first := call_take_idle there (idle move List.mem_cons_self)
      exact ih first fun other inside => idle other (List.mem_cons_of_mem move inside)

/-- A call's last step in a run, by the moves before it. -/
def LastStep (number : Nat) (moves : List Move) (kind : List Move → Move → Prop) : Prop :=
  ∃ before move between, moves = before ++ move :: between ∧ move.proceeds number = true ∧
    (∀ other ∈ between, other.proceeds number = false) ∧ kind before move

namespace LastStep
variable {moves : List Move} {kind : List Move → Move → Prop}

theorem own (proceeds : move.proceeds number = true) (so : kind moves move) :
    LastStep number (moves ++ [move]) kind :=
  ⟨moves, move, [], rfl, proceeds, by simp, so⟩

/-- The last step of a call stays its last one while others move. -/
theorem idle (last : LastStep number moves kind) (proceeds : move.proceeds number = false) :
    LastStep number (moves ++ [move]) kind := by
  obtain ⟨before, step, between, rfl, own, others, so⟩ := last
  refine ⟨before, step, between ++ [move], by simp, own, ?_, so⟩
  intro other inside
  rcases List.mem_append.mp inside with old | new
  · exact others other old
  · rwa [List.mem_singleton.mp new]

end LastStep

end Traffic

end SingleFlight
