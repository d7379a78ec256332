import Mathlib.Data.List.Induction
import SingleFlight.Simulation.Crew

namespace SingleFlight.Simulation

/-- A worker's turn, or a change of what the workers share. -/
inductive CrewMove (Shared : Type) where
  | turn (now : Instant) (turn : Turn)
  -- Whatever happens in the background between two turns.
  | disturb (change : Shared → Shared)

namespace Crew
variable {Shared Visit Source : Type} [Generator Source]

/-- The crew after a move. -/
def make (service : Service Shared Visit) (crew : Crew Shared Visit Source) (move : CrewMove Shared) :
    Crew Shared Visit Source :=
  match move with
  | .turn now turn => crew.take service now turn
  | .disturb change => { crew with shared := change crew.shared }

/-- The crew after moves one after the other. -/
def makeAll (crew : Crew Shared Visit Source) (service : Service Shared Visit)
    (moves : List (CrewMove Shared)) : Crew Shared Visit Source := moves.foldl (make service) crew

theorem makeAll_append (crew : Crew Shared Visit Source) (service : Service Shared Visit)
    (first rest : List (CrewMove Shared)) :
    crew.makeAll service (first ++ rest) = (crew.makeAll service first).makeAll service rest :=
  List.foldl_append

/-- Whether a worker has died. -/
def hasLost (crew : Crew Shared Visit Source) : Bool := crew.workers.any Worker.isLost

/-- Turns one after the other are moves one after the other. -/
theorem exists_moves_shift (service : Service Shared Visit) (turns current : Nat)
    (shift : Shift Shared Visit Source) :
    ∃ moves, (Shift.run service turns current shift).crew = shift.crew.makeAll service moves := by
  induction turns generalizing current shift with
  | zero => exact ⟨[], rfl⟩
  | succ turns ih =>
      unfold Shift.run
      split
      · exact ⟨[], rfl⟩
      · next number time turn _ =>
          let now : Instant := ⟨max shift.now.nanos time.nanos + stepTime.nanos⟩
          obtain ⟨moves, ends⟩ :=
            ih number ⟨shift.crew.take service now turn, now, shift.lastTurns.set number now⟩
          exact ⟨.turn now turn :: moves, ends⟩

/-- A crew on its own makes some moves. -/
theorem exists_moves (crew : Crew Shared Visit Source) (service : Service Shared Visit) :
    ∃ moves, (crew.run service).2 = crew.makeAll service moves :=
  exists_moves_shift service _ 0 ⟨crew, ⟨0⟩, crew.workers.map fun _ => ⟨0⟩⟩

end Crew

/-- Counters that add up, and what a visit on its way keeps. -/
structure Service.Balances {Shared Visit : Type} (service : Service Shared Visit)
    (balanced : Tally → Prop) (fits : Visit → Prop) : Prop where
  zero : balanced .zero
  absorb : ∀ first second, balanced first → balanced second → balanced (first.absorb second)
  enter : ∀ number request, fits (service.enter number request)
  step : ∀ visit now shared, fits visit → fits (service.step visit now shared).1
  expire : ∀ visit, fits visit → fits (service.expire visit)
  counted : ∀ visit tally, fits visit → service.ending? visit = some (.counted tally) →
    tally.requests = 0 ∧ balanced tally.addRequest

/-- Requests count beside all else. -/
theorem Tally.absorb_addRequest (first second : Tally) :
    (first.absorb second).addRequest = first.absorb second.addRequest := rfl

/-- A worker's requests are over, under way or still to be drawn. -/
structure Worker.Keeps {Visit Source : Type} (worker : Worker Visit Source) (balanced : Tally → Prop)
    (fits : Visit → Prop) (requests : Nat) : Prop where
  balanced : balanced worker.tally
  latencies : worker.latencies.count = worker.tally.requests
  visit : ∀ visit, worker.visit? = some visit → fits visit
  requests : worker.isLost = false →
    worker.tally.requests + worker.visit?.toList.length + worker.left = requests

section
variable {Shared Visit Source : Type} [Generator Source] {service : Service Shared Visit}
  {balanced : Tally → Prop} {fits : Visit → Prop} {requests : Nat}

namespace Worker
variable {worker : Worker Visit Source}

omit [Generator Source] in
/-- A worker before its first request has answered none. -/
theorem keeps_ofWorkload (keeps : service.Balances balanced fits) (workload : Workload Source) :
    (ofWorkload workload requests : Worker Visit Source).Keeps balanced fits requests where
  balanced := keeps.zero
  latencies := rfl
  visit := by rintro visit ⟨⟩
  requests := by simp [ofWorkload, visit?, Tally.zero]

/-- A recorded latency counts once. -/
theorem count_record (tracker : LatencyTracker) (latency : Nat) (source : Source) :
    (tracker.record latency source).1.count = tracker.count + 1 := rfl

/-- A request that is drawn is under way. -/
theorem Keeps.draw (books : worker.Keeps balanced fits requests) (keeps : service.Balances balanced fits)
    (free : worker.duty = .idle) (number : Nat) (now : Instant) :
    (worker.draw service number now).Keeps balanced fits requests := by
  unfold Worker.draw
  split
  · exact books
  · next left some =>
      refine ⟨books.balanced, books.latencies, ?_, fun _ => ?_⟩
      · rintro visit ⟨⟩
        exact keeps.enter number _
      · have total := books.requests (by simp [isLost, free])
        simp only [visit?, free, Option.toList_none, List.length_nil, some] at total
        simp only [visit?, Option.toList_some, List.length_singleton]
        omega

/-- A visit that is over counts as one request. -/
theorem Keeps.settle (books : worker.Keeps balanced fits requests)
    (keeps : service.Balances balanced fits) {since : Instant} {visit : Visit} {counted : Tally}
    (serving : worker.duty = .serving since visit)
    (ends : service.ending? visit = some (.counted counted)) (latency : Duration) :
    (worker.settle counted latency).Keeps balanced fits requests := by
  obtain ⟨none, one⟩ :=
    keeps.counted visit counted (books.visit visit (by simp [visit?, serving])) ends
  refine ⟨?_, ?_, ?_, fun _ => ?_⟩
  · rw [Worker.settle, Tally.absorb_addRequest]
    exact keeps.absorb _ _ books.balanced one
  · have before := books.latencies
    simp only [Worker.settle, count_record, Tally.addRequest, Tally.absorb]
    omega
  · rintro visit ⟨⟩
  · have total := books.requests (by simp [isLost, serving])
    simp only [visit?, serving, Option.toList_some, List.length_singleton] at total
    simp only [Worker.settle, visit?, Tally.addRequest, Tally.absorb, Option.toList_none,
      List.length_nil]
    omega

omit [Generator Source] in
/-- A worker that goes on with its visit keeps its books. -/
theorem Keeps.serve (books : worker.Keeps balanced fits requests) {since : Instant} {visit next : Visit}
    (serving : worker.duty = .serving since visit) (fitting : fits next) :
    ({ worker with duty := .serving since next } : Worker Visit Source).Keeps balanced fits requests where
  balanced := books.balanced
  latencies := books.latencies
  visit := by
    rintro visit ⟨⟩
    exact fitting
  requests _ := by
    have total := books.requests (by simp [isLost, serving])
    simpa [visit?, serving] using total

/-- Every step of a worker keeps its books. -/
theorem Keeps.step (books : worker.Keeps balanced fits requests) (keeps : service.Balances balanced fits)
    (number : Nat) (now : Instant) (shared : Shared) :
    (worker.step service number now shared).1.Keeps balanced fits requests := by
  unfold Worker.step
  split
  · next free => exact books.draw keeps free number now
  · exact books
  · next since visit serving =>
      split
      · next counted ends => exact books.settle keeps serving ends _
      · exact ⟨books.balanced, books.latencies, by rintro visit ⟨⟩, by rintro ⟨⟩⟩
      · exact books.serve serving
          (keeps.step visit now shared (books.visit visit (by simp [visit?, serving])))

omit [Generator Source] in
/-- The end of a wait keeps the books of a worker. -/
theorem Keeps.expire (books : worker.Keeps balanced fits requests)
    (keeps : service.Balances balanced fits) :
    (worker.expire service).Keeps balanced fits requests := by
  unfold Worker.expire
  split
  · next since visit serving =>
      exact books.serve serving (keeps.expire visit (books.visit visit (by simp [visit?, serving])))
  · exact books
  · exact books

omit [Generator Source] in
/-- A worker that is done alive has answered all its requests. -/
theorem Keeps.requests_of_done (books : worker.Keeps balanced fits requests)
    (done : worker.isDone = true) (alive : worker.isLost = false) : worker.tally.requests = requests := by
  have total := books.requests alive
  cases duty : worker.duty with
  | idle =>
      simp only [isDone, duty, beq_iff_eq] at done
      simpa [visit?, duty, done] using total
  | serving since visit => simp [isDone, duty] at done
  | lost => simp [isLost, duty] at alive

end Worker

namespace Crew
variable {crew : Crew Shared Visit Source}

/-- The books of a crew: those of each worker. -/
def Keeps (crew : Crew Shared Visit Source) (balanced : Tally → Prop) (fits : Visit → Prop)
    (requests : Nat) : Prop :=
  ∀ worker ∈ crew.workers, worker.Keeps balanced fits requests

/-- A move lets one worker go on or give up, or none. -/
theorem make_cases (crew : Crew Shared Visit Source) (service : Service Shared Visit)
    (move : CrewMove Shared) :
    (crew.make service move).workers = crew.workers ∨
    ∃ number worker next, crew.workers[number]? = some worker ∧
      (crew.make service move).workers = crew.workers.set number next ∧
      ((∃ now shared, next = (worker.step service number now shared).1) ∨
        next = worker.expire service) := by
  cases move with
  | disturb change => exact .inl rfl
  | turn now turn =>
      cases turn with
      | step number =>
          cases found : crew.workers[number]? with
          | none => exact .inl (by simp [make, take, found])
          | some worker =>
              right
              exact ⟨number, worker, (worker.step service number now crew.shared).1, found,
                by simp [make, take, found], .inl ⟨now, crew.shared, rfl⟩⟩
      | expire number =>
          cases found : crew.workers[number]? with
          | none => exact .inl (by simp [make, take, found])
          | some worker =>
              right
              exact ⟨number, worker, worker.expire service, found, by simp [make, take, found], .inr rfl⟩

/-- Every move keeps the books of a crew. -/
theorem Keeps.make (books : crew.Keeps balanced fits requests) (keeps : service.Balances balanced fits)
    (move : CrewMove Shared) : (crew.make service move).Keeps balanced fits requests := by
  intro other listed
  rcases crew.make_cases service move with same | ⟨number, worker, next, found, set, goes⟩
  · rw [same] at listed
    exact books other listed
  · have own : worker.Keeps balanced fits requests := books worker (List.mem_of_getElem? found)
    rw [set] at listed
    rcases List.mem_or_eq_of_mem_set listed with before | rfl
    · exact books other before
    · rcases goes with ⟨now, shared, rfl⟩ | rfl
      · exact own.step keeps number now shared
      · exact own.expire keeps

/-- Every run keeps the books of a crew. -/
theorem Keeps.makeAll (books : crew.Keeps balanced fits requests)
    (keeps : service.Balances balanced fits) (moves : List (CrewMove Shared)) :
    (crew.makeAll service moves).Keeps balanced fits requests := by
  induction moves generalizing crew with
  | nil => exact books
  | cons move rest ih => exact ih (books.make keeps move)

/-- No worker comes or goes. -/
theorem length_makeAll (crew : Crew Shared Visit Source) (service : Service Shared Visit)
    (moves : List (CrewMove Shared)) :
    (crew.makeAll service moves).workers.length = crew.workers.length := by
  induction moves generalizing crew with
  | nil => rfl
  | cons move rest ih =>
      refine (ih (crew.make service move)).trans ?_
      rcases crew.make_cases service move with same | ⟨number, worker, next, -, set, -⟩
      · rw [same]
      · rw [set, List.length_set]

end Crew

omit [Generator Source] in
/-- The counters of workers that have each answered so many requests. -/
theorem totals_of_each (keeps : service.Balances balanced fits) (workers : List (Worker Visit Source))
    (each : ∀ worker ∈ workers, worker.Keeps balanced fits requests ∧ worker.tally.requests = requests) :
    let total := (workers.map Worker.tally).foldl Tally.absorb .zero
    total.requests = workers.length * requests ∧ balanced total ∧
      (LatencyTracker.merge (workers.map Worker.latencies)).count = workers.length * requests := by
  induction workers using List.reverseRecOn with
  | nil => exact ⟨by simp [Tally.zero], keeps.zero, by simp [LatencyTracker.merge]⟩
  | append_singleton others worker ih =>
      obtain ⟨books, own⟩ := each worker (List.mem_concat_self ..)
      obtain ⟨total, balance, count⟩ := ih fun other listed => each other (List.mem_append_left _ listed)
      have latencies := books.latencies
      simp only [LatencyTracker.merge] at count ⊢
      simp only [List.map_append, List.map_singleton, List.foldl_append, List.foldl_cons, List.foldl_nil,
        List.length_append, List.length_singleton, Nat.add_mul, Nat.one_mul, Tally.absorb, count]
      exact ⟨by omega, keeps.absorb _ _ balance books.balanced, by omega⟩

namespace Crew

/-- A crew that is done with nobody lost has balanced counters. -/
theorem totals (keeps : service.Balances balanced fits) (shared : Shared)
    (workloads : List (Workload Source)) (requests : Nat) (moves : List (CrewMove Shared)) :
    let start : Crew Shared Visit Source :=
      ⟨shared, workloads.map fun workload => .ofWorkload workload requests⟩
    let crew := start.makeAll service moves
    crew.isDone = true → crew.hasLost = false →
      crew.tally.requests = workloads.length * requests ∧ balanced crew.tally ∧
        crew.latency.count = crew.tally.requests := by
  intro start crew done alive
  have fresh : start.Keeps balanced fits requests := by
    intro worker listed
    obtain ⟨workload, -, rfl⟩ := List.mem_map.mp listed
    exact Worker.keeps_ofWorkload keeps workload
  have books : crew.Keeps balanced fits requests := fresh.makeAll keeps moves
  have many : crew.workers.length = workloads.length :=
    (length_makeAll start service moves).trans (List.length_map ..)
  have living (worker : Worker Visit Source) (listed : worker ∈ crew.workers) : worker.isLost = false := by
    simpa using List.any_eq_false.mp alive worker listed
  have all : crew.survivors = crew.workers := by
    apply List.filter_eq_self.mpr
    intro worker listed
    rw [living worker listed, Bool.not_false]
  obtain ⟨total, balance, count⟩ := totals_of_each keeps crew.workers fun worker listed =>
    ⟨books worker listed, (books worker listed).requests_of_done
      (List.all_eq_true.mp done worker listed) (living worker listed)⟩
  rw [tally, latency, all, ← many]
  exact ⟨total, balance, count.trans total.symm⟩

end Crew

end

end SingleFlight.Simulation
