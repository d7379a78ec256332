import SingleFlight.Proofs.Simulation.Latencies
import SingleFlight.Proofs.Simulation.Ledger
import SingleFlight.Simulation.Run

namespace SingleFlight.Simulation

namespace LatencyTracker

/-- Trackers that have recorded as many latencies, and keep as many of them. -/
structure Alike (tracker other : LatencyTracker) : Prop where
  count : tracker.count = other.count
  size : tracker.samples.size = other.samples.size

theorem Alike.refl (tracker : LatencyTracker) : tracker.Alike tracker := ⟨rfl, rfl⟩

/-- Alike trackers draw the same, whatever they record. -/
theorem Alike.record {Source : Type} [Generator Source] {tracker other : LatencyTracker} (alike : tracker.Alike other)
    (latency another : Nat) (source : Source) :
    (tracker.record latency source).2 = (other.record another source).2 ∧
      (tracker.record latency source).1.Alike (other.record another source).1 := by
  have count : tracker.count + 1 = other.count + 1 := congrArg (· + 1) alike.count
  by_cases room : tracker.samples.size < sampleLimit
  · have also : other.samples.size < sampleLimit := alike.size ▸ room
    simp only [LatencyTracker.record, recordBy, keep, if_pos room, if_pos also]
    exact ⟨trivial, count, by simp only [Array.size_push, alike.size]⟩
  · have also : ¬ other.samples.size < sampleLimit := alike.size ▸ room
    simp only [LatencyTracker.record, recordBy, keep, if_neg room, if_neg also, count]
    obtain ⟨place, rest⟩ := Generator.below (other.count + 1) source
    by_cases low : place < sampleLimit
    · simp only [if_pos low]
      exact ⟨trivial, rfl, by simp only [Array.size_setIfInBounds, alike.size]⟩
    · simp only [if_neg low]
      exact ⟨trivial, rfl, alike.size⟩

end LatencyTracker

section
variable {Shared Visit Source : Type} [Generator Source]

/-- Requests of a workload, each drawn after the last, with no latency. -/
def Workload.requests (workload : Workload Source) (tracker : LatencyTracker) : Nat → List Request
  | 0 => []
  | left + 1 =>
    let (request, drawn) := workload.next
    let (recorded, source) := tracker.record 0 drawn.source
    request :: Workload.requests { drawn with source } recorded left

theorem Workload.length_requests (workload : Workload Source) (tracker : LatencyTracker) (left : Nat) :
    (workload.requests tracker left).length = left := by
  induction left generalizing workload tracker with
  | zero => rfl
  | succ left ih => simp [requests, ih]

/-- Of a tracker only its counts matter to the requests. -/
theorem Workload.requests_congr {tracker other : LatencyTracker} (alike : tracker.Alike other)
    (workload : Workload Source) (left : Nat) : workload.requests tracker left = workload.requests other left := by
  induction left generalizing workload tracker other with
  | zero => rfl
  | succ left ih =>
      obtain ⟨source, still⟩ := alike.record 0 0 workload.next.2.source
      simp only [requests, source, ih still]

namespace Worker

/-- The request that a worker draws in its next step. -/
def drawn? (worker : Worker Visit Source) : Option Request :=
  match worker.duty, worker.left with
  | .idle, _ + 1 => some worker.workload.next.1
  | _, _ => none

/-- A worker without a visit sets out with the request it draws. -/
theorem visit?_step (worker : Worker Visit Source) (free : worker.visit? = none) (service : Service Shared Visit)
    (number : Nat) (now : Instant) (shared : Shared) :
    (worker.step service number now shared).1.visit? = worker.drawn?.map (service.enter number) := by
  obtain ⟨workload, left, duty, tally, latencies⟩ := worker
  cases duty with
  | idle => cases left <;> rfl
  | serving since visit => cases free
  | lost => rfl

/-- The requests a living worker has still to draw. -/
def upcoming (worker : Worker Visit Source) : List Request :=
  match worker.duty with
  | .idle => worker.workload.requests worker.latencies worker.left
  | .serving _ _ | .lost =>
    let (recorded, source) := worker.latencies.record 0 worker.workload.source
    Workload.requests { worker.workload with source } recorded worker.left

theorem length_upcoming (worker : Worker Visit Source) : worker.upcoming.length = worker.left := by
  unfold upcoming
  split <;> exact Workload.length_requests _ _ _

/-- A step draws from the requests to come, and its latency changes none. -/
theorem upcoming_step (worker : Worker Visit Source) (service : Service Shared Visit) (number : Nat)
    (now : Instant) (shared : Shared) :
    worker.upcoming = worker.drawn?.toList ++ (worker.step service number now shared).1.upcoming := by
  obtain ⟨workload, left, duty, tally, latencies⟩ := worker
  cases duty with
  | idle => cases left <;> rfl
  | lost => rfl
  | serving since visit =>
      simp only [step, drawn?, Option.toList_none, List.nil_append]
      split
      · next counted ends =>
          obtain ⟨source, still⟩ := (LatencyTracker.Alike.refl latencies).record 0
            (min (now.since since).nanos latencyLimit) workload.source
          simp only [upcoming, settle, source]
          exact Workload.requests_congr still _ left
      · rfl
      · rfl

theorem upcoming_expire (worker : Worker Visit Source) (service : Service Shared Visit) :
    (worker.expire service).upcoming = worker.upcoming := by
  obtain ⟨workload, left, duty, tally, latencies⟩ := worker
  cases duty <;> rfl

end Worker

namespace Crew

/-- The request that the worker of a number draws at a move. -/
def drawn? (crew : Crew Shared Visit Source) (number : Nat) : CrewMove Shared → Option Request
  | .turn _ (.step other) => if other = number then crew.workers[number]?.bind Worker.drawn? else none
  | .turn _ (.expire _) | .disturb _ => none

/-- The requests that the worker of a number draws, in their order. -/
def drawn (crew : Crew Shared Visit Source) (service : Service Shared Visit) (number : Nat) :
    List (CrewMove Shared) → List Request
  | [] => []
  | move :: rest => (crew.drawn? number move).toList ++ (crew.make service move).drawn service number rest

variable {crew : Crew Shared Visit Source} {number : Nat} {worker : Worker Visit Source}

theorem getElem?_step (there : crew.workers[number]? = some worker) (service : Service Shared Visit)
    (now : Instant) :
    (crew.make service (.turn now (.step number))).workers[number]? =
      some (worker.step service number now crew.shared).1 := by
  have inside := (List.getElem?_eq_some_iff.mp there).1
  simp only [make, take, there, List.getElem?_set_self inside]

/-- At a move a worker draws its next request or none. -/
theorem upcoming_make (there : crew.workers[number]? = some worker) (service : Service Shared Visit)
    (move : CrewMove Shared) :
    ∃ next, (crew.make service move).workers[number]? = some next ∧
      worker.upcoming = (crew.drawn? number move).toList ++ next.upcoming := by
  have inside := (List.getElem?_eq_some_iff.mp there).1
  cases move with
  | disturb change => exact ⟨worker, there, rfl⟩
  | turn now turn =>
      cases turn with
      | step other =>
          by_cases own : other = number
          · subst own
            refine ⟨(worker.step service other now crew.shared).1, getElem?_step there service now, ?_⟩
            simpa [drawn?, there] using worker.upcoming_step service other now crew.shared
          · refine ⟨worker, ?_, by simp [drawn?, own]⟩
            simp only [make, take]
            split
            · exact there
            · rw [List.getElem?_set_ne own, there]
      | expire other =>
          by_cases own : other = number
          · subst own
            refine ⟨worker.expire service, ?_, (worker.upcoming_expire service).symm⟩
            simp only [make, take, there, List.getElem?_set_self inside]
          · refine ⟨worker, ?_, rfl⟩
            simp only [make, take]
            split
            · exact there
            · rw [List.getElem?_set_ne own, there]

/-- On every run a worker draws its requests one after the other. -/
theorem upcoming_makeAll (there : crew.workers[number]? = some worker) (service : Service Shared Visit)
    (moves : List (CrewMove Shared)) :
    ∃ last, (crew.makeAll service moves).workers[number]? = some last ∧
      worker.upcoming = crew.drawn service number moves ++ last.upcoming := by
  induction moves generalizing crew worker with
  | nil => exact ⟨worker, there, rfl⟩
  | cons move rest ih =>
      obtain ⟨next, known, first⟩ := upcoming_make there service move
      obtain ⟨last, ends, others⟩ := ih known
      refine ⟨last, ends, ?_⟩
      rw [first, others, drawn, List.append_assoc]

end Crew

/-- What a worker draws follows from its workload, whatever the service, the crew, the moves and the
clock. -/
theorem requests_ignore_latencies {Other Call : Type} (workload : Workload Source) (requests : Nat)
    (service : Service Shared Visit) (another : Service Other Call) {crew : Crew Shared Visit Source}
    {company : Crew Other Call Source} {number place : Nat}
    (there : crew.workers[number]? = some (.ofWorkload workload requests))
    (also : company.workers[place]? = some (.ofWorkload workload requests))
    (moves : List (CrewMove Shared)) (others : List (CrewMove Other)) :
    let first := crew.drawn service number moves
    let second := company.drawn another place others
    (∀ worker : Worker Visit Source, worker.visit? = none → ∀ now shared,
      (worker.step service number now shared).1.visit? = worker.drawn?.map (service.enter number)) ∧
    (∀ index < min first.length second.length, first[index]? = second[index]?) ∧
    ∃ worker counterpart, (crew.makeAll service moves).workers[number]? = some worker ∧
      (company.makeAll another others).workers[place]? = some counterpart ∧
      first.length + worker.left = requests ∧ second.length + counterpart.left = requests ∧
      (worker.left = 0 → counterpart.left = 0 → first = second) := by
  intro first second
  obtain ⟨worker, known, begins⟩ := Crew.upcoming_makeAll there service moves
  obtain ⟨counterpart, found, starts⟩ := Crew.upcoming_makeAll also another others
  -- Both have drawn the first ones of the same requests.
  have same : first ++ worker.upcoming = second ++ counterpart.upcoming := begins.symm.trans starts
  have total : first.length + worker.left = requests := by
    rw [← worker.length_upcoming, ← List.length_append, ← begins, Worker.length_upcoming]
    rfl
  have all : second.length + counterpart.left = requests := by
    rw [← counterpart.length_upcoming, ← List.length_append, ← starts, Worker.length_upcoming]
    rfl
  refine ⟨fun worker free => worker.visit?_step free service number, ?_, worker, counterpart, known, found, total,
    all, ?_⟩
  · intro index inside
    obtain ⟨early, soon⟩ := Nat.lt_min.mp inside
    rw [← List.getElem?_append_left early, same, List.getElem?_append_left soon]
  · intro done also_done
    exact (List.append_inj same (by omega)).1

end

/-- A worker's workload follows from its number and the settings. -/
theorem Settings.getElem?_workersOf {Visit : Type} {settings : Settings}
    {workers : List (Worker Visit ChaCha.Source)} (made : settings.workersOf = .ok workers) {number : Nat}
    (inside : number < settings.workers) :
    workers[number]? = some (.ofWorkload (.ofSeed (.ofSkew settings.keys settings.skew) settings.failureRate
      settings.abandonRate settings.seed number) settings.requests) := by
  unfold workersOf crashIf at made
  split at made
  · cases made
  · cases made
    simp [inside]

/-- A service that answers every request at once. -/
def instantly : Service Unit Unit where
  enter _ _ := ()
  step visit _ shared := (visit, shared)
  isParked _ _ := false
  expire visit := visit
  cost _ := .zero
  patience := none
  ending? _ := some (.counted .zero)
  turns := 1

/-- Requests of one worker, each of which takes the same time. -/
def rounds (number : Nat) (latency : Duration) : Nat → List (CrewMove Unit)
  | 0 => []
  | count + 1 =>
    .turn ⟨0⟩ (.step number) :: .turn ⟨latency.nanos⟩ (.step number) :: rounds number latency count

/-- A worker served at once records one latency for each request. -/
theorem Crew.makeAll_rounds {Source : Type} [Generator Source] {crew : Crew Unit Unit Source} {number : Nat}
    {worker : Worker Unit Source} (there : crew.workers[number]? = some worker) (idle : worker.duty = .idle)
    {count : Nat} (enough : worker.left = count) (latency : Duration) (short : latency.nanos ≤ latencyLimit)
    {latencies : List Nat} (shows : worker.latencies.Shows latencies) :
    ∃ last, (crew.makeAll instantly (rounds number latency count)).workers[number]? = some last ∧
      last.left = 0 ∧ last.latencies.Shows (latencies ++ List.replicate count latency.nanos) := by
  induction count generalizing crew worker latencies with
  | zero => exact ⟨worker, there, enough, by simpa using shows⟩
  | succ count ih =>
      obtain ⟨workload, left, duty, tally, tracker⟩ := worker
      obtain rfl : duty = .idle := idle
      obtain rfl : left = count + 1 := enough
      let drawn : Worker Unit Source := ⟨workload.next.2, count, .serving ⟨0⟩ (), tally, tracker⟩
      have settled := getElem?_step (getElem?_step there instantly ⟨0⟩) instantly ⟨latency.nanos⟩
      replace settled : ((crew.make instantly (.turn ⟨0⟩ (.step number))).make instantly
          (.turn ⟨latency.nanos⟩ (.step number))).workers[number]? = some (drawn.settle .zero latency) :=
        settled
      have kept : min latency.nanos latencyLimit = latency.nanos := Nat.min_eq_left short
      have recorded : (drawn.settle .zero latency).latencies.Shows (latencies ++ [latency.nanos]) := by
        have next := shows.record Generator.below latency.nanos workload.next.2.source
        simpa only [Worker.settle, LatencyTracker.record, kept, drawn] using next
      obtain ⟨last, ends, done, all⟩ := ih settled rfl rfl recorded
      refine ⟨last, ends, done, ?_⟩
      rwa [List.append_assoc, List.singleton_append, ← List.replicate_succ] at all

/-- Settings with more requests for a worker than its sample has places. -/
def pair : Settings where
  workers := 2
  requests := sampleLimit + 1
  keys := 4
  skew := 1.0
  ttl := ⟨9⟩
  produceTime := ⟨9⟩
  failureRate := 0.1
  abandonRate := 0.2
  wait := ⟨9⟩
  lockHold := ⟨9⟩
  sweepInterval := ⟨9⟩
  strategies := [.naive, .moka]
  seed := 7

/-- Two runs with other latencies, in which the sample overflows. -/
theorem requests_ignore_latencies_of_pair :
    ∃ workers, pair.workersOf = .ok workers ∧
      let crew : Crew Unit Unit ChaCha.Source := ⟨(), workers⟩
      let quick := rounds 1 ⟨3⟩ pair.requests
      let slow := rounds 1 ⟨5⟩ pair.requests
      (∃ worker, (crew.makeAll instantly quick).workers[1]? = some worker ∧
        worker.latencies.count = sampleLimit + 1 ∧ worker.latencies.total = 3 * (sampleLimit + 1)) ∧
      (∃ worker, (crew.makeAll instantly slow).workers[1]? = some worker ∧
        worker.latencies.count = sampleLimit + 1 ∧ worker.latencies.total = 5 * (sampleLimit + 1)) ∧
      (crew.drawn instantly 1 quick).length = sampleLimit + 1 ∧
      crew.drawn instantly 1 quick = crew.drawn instantly 1 slow := by
  refine ⟨_, rfl, ?_⟩
  intro crew quick slow
  have made : pair.workersOf = .ok crew.workers := rfl
  have there := Settings.getElem?_workersOf made (show 1 < pair.workers by decide)
  have serves (latency : Duration) (short : latency.nanos ≤ latencyLimit) :
      ∃ worker, (crew.makeAll instantly (rounds 1 latency pair.requests)).workers[1]? = some worker ∧
        worker.left = 0 ∧ worker.latencies.Shows (List.replicate pair.requests latency.nanos) :=
    Crew.makeAll_rounds there rfl rfl latency short LatencyTracker.shows_empty
  obtain ⟨early, first, spent, quickly⟩ := serves ⟨3⟩ (by decide)
  obtain ⟨late, second, done, slowly⟩ := serves ⟨5⟩ (by decide)
  obtain ⟨-, -, worker, counterpart, ended, also, drew, -, same⟩ :=
    requests_ignore_latencies _ pair.requests instantly instantly there there quick slow
  obtain rfl := Option.some.inj (ended.symm.trans first)
  obtain rfl := Option.some.inj (also.symm.trans second)
  refine ⟨⟨worker, first, ?_, ?_⟩, ⟨counterpart, second, ?_, ?_⟩, ?_, same spent done⟩
  · rw [quickly.count, List.length_replicate]
    rfl
  · rw [quickly.total, List.sum_replicate_nat]
    decide
  · rw [slowly.count, List.length_replicate]
    rfl
  · rw [slowly.total, List.sum_replicate_nat]
    decide
  · rw [spent] at drew
    exact drew

end SingleFlight.Simulation
