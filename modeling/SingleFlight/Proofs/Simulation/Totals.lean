import SingleFlight.Proofs.Fetch.Phases
import SingleFlight.Proofs.Simulation.Ledger
import SingleFlight.Proofs.Traffic.Basic
import SingleFlight.Simulation.Run

namespace SingleFlight.Simulation

namespace Guarded

/-- Every request is counted in one place, and only a production fails. -/
structure Balanced (tally : Tally) : Prop where
  requests : tally.requests = tally.cached + tally.timeouts + tally.productions + tally.abandoned
  failures : tally.failures ≤ tally.productions

/-- How often a fetch has called its producer; crashes are not counted. -/
def Spent (productions : Nat) : Fetch.Phase → Prop
  | .looking _ | .acquiring _ | .waiting _ _ | .producing _ => productions = 0
  | .committing _ _ => productions = 1
  | .releasing _ ending => productions = 1 ∧ ∃ error, ending = .failed (.producer error)
  | .finished (.fetched (.produced _)) | .finished (.failed (.producer _)) => productions = 1
  | .finished (.fetched (.cached _)) | .finished (.failed (.timedOut _)) => productions = 0
  | .finished (.fetched (.uncached _)) | .finished (.failed (.strategy _)) => False
  | .finished (.crashed _) => True

/-- A visit at its fetch has counted its producer's calls. -/
def Visit.Fits (visit : Visit) : Prop :=
  match visit.phase with
  | .fetching _ productions fetch => Spent productions fetch
  | .arriving | .dooming _ _ | .seizing _ _ | .abandoned => True

/-- What a fetch does outside its producer calls no producer. -/
theorem Spent.leads {productions : Nat} {phase next : Fetch.Phase} (spent : Spent productions phase)
    (leads : phase.Leads next) : Spent productions next := by
  cases leads with
  | released =>
      obtain ⟨rfl, error, rfl⟩ := spent
      rfl
  | missed | refused | broken => trivial
  | _ => exact spent

/-- A producer is called once, for a content or a failure. -/
theorem spent_afterProduction (fetch : Fetch) (key : String) (outcome : Outcome) (elapsed : Duration)
    (entry : EntryId) :
    Spent 1 (fetch.afterProduction (production key outcome) elapsed (.producing entry)).1 := by
  unfold production
  split
  · rfl
  · exact ⟨rfl, _, rfl⟩

/-- A step of a fetch counts its producer's call. -/
theorem Spent.fetchStep {productions : Nat} {inner : Fetch.Phase} (spent : Spent productions inner)
    (fetch : Fetch) (produceTime : Duration) (outcome : Outcome) (moment : Moment) (cache : Cache) :
    ∃ counted next, (fetchStep fetch produceTime outcome productions moment cache inner).1 =
      .fetching outcome counted next ∧ Spent counted next := by
  unfold Guarded.fetchStep
  split
  · next entry =>
      obtain rfl : productions = 0 := spent
      exact ⟨1, _, rfl, spent_afterProduction fetch fetch.key outcome produceTime entry⟩
  · next entry =>
      refine ⟨productions, _, rfl, ?_⟩
      split
      · exact spent.leads (.of_notify _)
      · exact spent
  · exact ⟨productions, _, rfl, spent.leads (.of_step fetch _ moment cache)⟩

/-- A fetch that is over and has not crashed is one request. -/
theorem Spent.balanced {productions : Nat} {ending : Ending} {tally : Tally}
    (spent : Spent productions (.finished ending)) (counts : counted productions ending = .counted tally) :
    tally.requests = 0 ∧ Balanced tally.addRequest := by
  cases ending with
  | fetched result =>
      cases result with
      | produced content =>
          cases counts
          obtain rfl : productions = 1 := spent
          exact ⟨rfl, rfl, Nat.zero_le 1⟩
      | cached content =>
          cases counts
          obtain rfl : productions = 0 := spent
          exact ⟨rfl, rfl, Nat.le_refl 0⟩
      | uncached content => exact spent.elim
  | failed error =>
      cases error with
      | timedOut error =>
          cases counts
          obtain rfl : productions = 0 := spent
          exact ⟨rfl, rfl, Nat.le_refl 0⟩
      | producer error =>
          cases counts
          obtain rfl : productions = 1 := spent
          exact ⟨rfl, rfl, Nat.le_refl 1⟩
      | strategy error => exact spent.elim
  | crashed message => cases counts

/-- A step of a visit keeps its count. -/
theorem Visit.Fits.step {visit : Visit} (fits : visit.Fits) (terms : Terms) (now : Instant)
    (shared : Shared) : (Guarded.step terms visit now shared).1.Fits := by
  obtain ⟨worker, request, phase⟩ := visit
  cases phase with
  | arriving =>
      simp only [Guarded.step, arrive]
      split
      · trivial
      · rfl
      · rfl
  | dooming thread lookup =>
      simp only [Guarded.step, afterLookup]
      split
      · trivial
      · rfl
      · trivial
  | seizing thread entry =>
      simp only [Guarded.step, seize]
      split
      · split
        · trivial
        · rfl
      · rfl
  | fetching outcome productions inner =>
      have spent : Spent productions inner := fits
      obtain ⟨counted, next, goes, still⟩ := spent.fetchStep
        (Visit.fetch ⟨worker, request, .fetching outcome productions inner⟩ terms) terms.produceTime
        outcome ⟨.ok now, .error .wallBeyondPlatform⟩ shared.cache
      simp only [Guarded.step, Visit.Fits, goes]
      exact still
  | abandoned => trivial

/-- Requests to a store of entries with a lock are counted once each. -/
theorem balances (terms : Terms) : (service terms).Balances Balanced Visit.Fits where
  zero := ⟨rfl, Nat.le_refl 0⟩
  absorb := by
    rintro first second ⟨all, fails⟩ ⟨others, more⟩
    constructor
    · simp only [Tally.absorb]
      omega
    · exact Nat.add_le_add fails more
  enter _ _ := trivial
  step visit now shared fits := fits.step terms now shared
  expire visit fits := by
    obtain ⟨worker, request, phase⟩ := visit
    cases phase with
    | fetching outcome productions inner =>
        have spent : Spent productions inner := fits
        exact spent.leads (.of_expire inner)
    | arriving | dooming | seizing | abandoned => trivial
  counted visit tally fits ends := by
    obtain ⟨worker, request, phase⟩ := visit
    cases phase with
    | arriving | dooming | seizing => cases ends
    | fetching outcome productions inner =>
        cases inner with
        | finished ending => exact Spent.balanced fits (Option.some.inj ends)
        | looking | acquiring | waiting | producing | committing | releasing => cases ends
    | abandoned =>
        cases ends
        exact ⟨rfl, rfl, Nat.le_refl 0⟩

end Guarded

namespace Plain

/-- The books of a plain cache, in which nobody waits. -/
structure Balanced (tally : Tally) : Prop where
  requests : tally.requests = tally.cached + tally.productions
  losses : tally.failures + tally.abandoned ≤ tally.productions
  timeouts : tally.timeouts = 0

/-- A visit that is over has counted one request. -/
def Visit.Fits (visit : Visit) : Prop :=
  match visit.phase with
  | .finished tally => tally.requests = 0 ∧ Balanced tally.addRequest
  | .looking | .rendering | .storing => True

/-- A rendering is one production, however it ends. -/
theorem fits_afterRendering (request : Request) (rendered : Except RenderError String) :
    Visit.Fits ⟨request, afterRendering rendered⟩ := by
  cases rendered with
  | ok content => trivial
  | error error =>
      cases error with
      | failed key => exact ⟨rfl, rfl, Nat.le_refl 1, rfl⟩
      | crashed key => exact ⟨rfl, rfl, Nat.le_refl 1, rfl⟩

/-- Requests to a plain cache are counted once each. -/
theorem balances (terms : Terms) : (service terms).Balances Balanced Visit.Fits where
  zero := ⟨rfl, Nat.le_refl 0, rfl⟩
  absorb := by
    rintro first second ⟨all, lost, none⟩ ⟨others, more, neither⟩
    constructor
    · simp only [Tally.absorb]
      omega
    · simp only [Tally.absorb]
      omega
    · rw [Tally.absorb, none, neither]
  enter _ _ := trivial
  step visit now stored fits := by
    obtain ⟨request, phase⟩ := visit
    cases phase with
    | looking =>
        simp only [service, step]
        split
        · exact ⟨rfl, rfl, Nat.le_refl 0, rfl⟩
        · trivial
    | rendering => exact fits_afterRendering request _
    | storing => exact ⟨rfl, rfl, Nat.zero_le 1, rfl⟩
    | finished tally => exact fits
  expire visit fits := fits
  counted visit tally fits ends := by
    obtain ⟨request, phase⟩ := visit
    cases phase with
    | looking | rendering | storing => cases ends
    | finished counted =>
        cases ends
        exact fits

end Plain

/-- A computation that comes through has come through its first part. -/
theorem bind_eq_ok {Error Value Result : Type} {first : Except Error Value}
    {next : Value → Except Error Result} {result : Result} (ran : (first >>= next) = .ok result) :
    ∃ value, first = .ok value ∧ next value = .ok result := by
  cases first with
  | error error => cases ran
  | ok value => exact ⟨value, rfl, ran⟩

namespace Settings

/-- Workers before their first request, one for each workload. -/
def crewOf {Shared Source : Type} (Visit : Type) (settings : Settings) (shared : Shared)
    (workloads : List (Workload Source)) : Crew Shared Visit Source :=
  ⟨shared, workloads.map fun workload => .ofWorkload workload settings.requests⟩

/-- How requests to a store of entries with a lock are made. -/
def guardedTerms (settings : Settings) : Guarded.Terms :=
  ⟨settings.ttl, settings.wait, settings.produceTime⟩

/-- How requests to a plain cache are made. -/
def plainTerms (settings : Settings) : Plain.Terms := ⟨settings.ttl, settings.produceTime⟩

/-- The workers of a simulation are those of its workloads. -/
theorem workersOf_eq {Visit : Type} {settings : Settings} {workers : List (Worker Visit ChaCha.Source)}
    (made : settings.workersOf = .ok workers) :
    ∃ workloads : List (Workload ChaCha.Source), workloads.length = settings.workers ∧
      workers = workloads.map fun workload => .ofWorkload workload settings.requests := by
  unfold workersOf crashIf at made
  split at made
  · cases made
  · cases made
    let popularity := Popularity.ofSkew settings.keys settings.skew
    refine ⟨(List.range settings.workers).map
      (.ofSeed popularity settings.failureRate settings.abandonRate settings.seed), ?_, ?_⟩
    · rw [List.length_map, List.length_range]
    · rw [List.map_map]
      rfl

/-- A guarded strategy returns what its crew has counted. -/
theorem runGuarded_eq {settings : Settings} {result : StrategyResult}
    (ran : settings.runGuarded = .ok result) :
    ∃ workloads : List (Workload ChaCha.Source), workloads.length = settings.workers ∧
    ∃ store moves,
      let crew := (settings.crewOf Guarded.Visit (.start store settings.workers) workloads).makeAll
        (Guarded.service settings.guardedTerms) moves
      result.tally = crew.tally ∧ result.latency = crew.latency := by
  obtain ⟨store, -, rest⟩ := bind_eq_ok ran
  obtain ⟨workers, made, rest⟩ := bind_eq_ok rest
  obtain ⟨workloads, many, rfl⟩ := workersOf_eq made
  obtain ⟨moves, ends⟩ := Crew.exists_moves
    (settings.crewOf Guarded.Visit (.start store settings.workers) workloads)
    (Guarded.service settings.guardedTerms)
  cases rest
  exact ⟨workloads, many, store, moves, congrArg Crew.tally ends, congrArg Crew.latency ends⟩

/-- A plain strategy returns what its crew has counted. -/
theorem runPlain_eq {settings : Settings} {result : StrategyResult}
    (ran : settings.runPlain = .ok result) :
    ∃ workloads : List (Workload ChaCha.Source), workloads.length = settings.workers ∧
    ∃ moves,
      let crew := (settings.crewOf Plain.Visit {} workloads).makeAll
        (Plain.service settings.plainTerms) moves
      result.tally = crew.tally ∧ result.latency = crew.latency := by
  obtain ⟨-, -, rest⟩ := bind_eq_ok ran
  obtain ⟨workers, made, rest⟩ := bind_eq_ok rest
  obtain ⟨workloads, many, rfl⟩ := workersOf_eq made
  obtain ⟨moves, ends⟩ := Crew.exists_moves
    (settings.crewOf Plain.Visit {} workloads) (Plain.service settings.plainTerms)
  cases rest
  exact ⟨workloads, many, moves, congrArg Crew.tally ends, congrArg Crew.latency ends⟩

/-- In every interleaving that loses no worker the counters add up, with one latency for each request. -/
theorem totals_balance {Source : Type} [Generator Source] (settings : Settings)
    (workloads : List (Workload Source)) (each : workloads.length = settings.workers) :
    (∀ store moves,
      let crew := (settings.crewOf Guarded.Visit (.start store settings.workers) workloads).makeAll
        (Guarded.service settings.guardedTerms) moves
      let tally := crew.tally
      crew.isDone = true → crew.hasLost = false →
        tally.requests = settings.workers * settings.requests ∧
        tally.requests = tally.cached + tally.timeouts + tally.productions + tally.abandoned ∧
        tally.failures ≤ tally.productions ∧ crew.latency.count = tally.requests) ∧
    ∀ moves,
      let crew := (settings.crewOf Plain.Visit {} workloads).makeAll
        (Plain.service settings.plainTerms) moves
      let tally := crew.tally
      crew.isDone = true → crew.hasLost = false →
        tally.requests = settings.workers * settings.requests ∧
        tally.requests = tally.cached + tally.productions ∧
        tally.failures + tally.abandoned ≤ tally.productions ∧ tally.timeouts = 0 ∧
        crew.latency.count = tally.requests := by
  rw [← each]
  constructor
  · intro store moves crew tally done alive
    obtain ⟨all, balance, latencies⟩ := Crew.totals (Guarded.balances settings.guardedTerms)
      (.start store workloads.length) workloads settings.requests moves done alive
    exact ⟨all, balance.requests, balance.failures, latencies⟩
  · intro moves crew tally done alive
    obtain ⟨all, balance, latencies⟩ := Crew.totals (Plain.balances settings.plainTerms)
      {} workloads settings.requests moves done alive
    exact ⟨all, balance.requests, balance.losses, balance.timeouts, latencies⟩

/-- Two workers with one request each for the same key. -/
def duet : Settings where
  workers := 2
  requests := 1
  keys := 1
  skew := 0.0
  ttl := ⟨5⟩
  produceTime := ⟨1⟩
  failureRate := 0.5
  abandonRate := 0.5
  wait := ⟨2⟩
  lockHold := ⟨9⟩
  sweepInterval := ⟨100⟩
  strategies := [.fragment, .naive]
  seed := 0

/-- A workload whose popularity knows one key. -/
def lonely (words : List UInt64) : Workload (List UInt64) := ⟨⟨#[]⟩, 0.5, 0.5, words⟩

/-- A turn of each of two workers. -/
def round (Shared : Type) : List (CrewMove Shared) := [.turn ⟨1⟩ (.step 0), .turn ⟨1⟩ (.step 1)]

/-- Two workers in turn, a disturbance in the middle, and all waits given up. -/
def rounds {Shared : Type} (between : Shared → Shared) : List (CrewMove Shared) :=
  (List.replicate 6 (round Shared)).flatten ++ .disturb between ::
    (List.replicate 6 (round Shared)).flatten ++
    [.turn ⟨2⟩ (.expire 0), .turn ⟨2⟩ (.expire 1)] ++ (List.replicate 2 (round Shared)).flatten

/-- A sweep drops the first entry. -/
def dropFirst (shared : Guarded.Shared) : Guarded.Shared :=
  { shared with cache.store := (shared.cache.store.evict (keyOf 0) ⟨0⟩).2 }

/-- Whatever becomes of the two requests, each is counted once. -/
theorem totals_balance_of_duet :
    let store := (Traffic.opened (fun _ => 0) 1 Nat.one_pos ⟨9⟩).cache.store
    let workloads := [lonely [1], lonely [2]]
    let guarded := (duet.crewOf Guarded.Visit (.start store 2) workloads).makeAll
      (Guarded.service duet.guardedTerms) (round _ ++ rounds dropFirst)
    let plain := (duet.crewOf Plain.Visit {} workloads).makeAll
      (Plain.service duet.plainTerms) (round _ ++ round _ ++ rounds id)
    guarded.isDone = true ∧ guarded.hasLost = false ∧ guarded.tally.requests = 2 ∧
      2 = guarded.tally.cached + guarded.tally.timeouts + guarded.tally.productions +
        guarded.tally.abandoned ∧ guarded.latency.count = 2 ∧
      plain.isDone = true ∧ plain.hasLost = false ∧ plain.tally.requests = 2 ∧
      2 = plain.tally.cached + plain.tally.productions ∧ plain.latency.count = 2 := by
  intro store workloads guarded plain
  have guardedEnds : guarded.isDone = true ∧ guarded.hasLost = false := by
    obtain ⟨first, second, drawn⟩ : ∃ first second : Outcome,
        (duet.crewOf Guarded.Visit (.start store 2) workloads).makeAll
          (Guarded.service duet.guardedTerms) (round _) =
        ⟨.start store 2,
          [⟨lonely [], 0, .serving ⟨1⟩ ⟨⟨0⟩, ⟨keyOf 0, first⟩, .arriving⟩, .zero, .empty⟩,
            ⟨lonely [], 0, .serving ⟨1⟩ ⟨⟨1⟩, ⟨keyOf 0, second⟩, .arriving⟩, .zero, .empty⟩]⟩ :=
      ⟨_, _, rfl⟩
    rw [show guarded = _ from Crew.makeAll_append .., drawn]
    clear drawn
    cases first <;> cases second <;> decide +kernel
  have plainEnds : plain.isDone = true ∧ plain.hasLost = false := by
    -- Nothing is stored when both look, and nobody looks later.
    have unseen : Plain.isFresh ⟨5⟩ {} (keyOf 0) ⟨1⟩ = false := by simp [Plain.isFresh]
    obtain ⟨first, second, drawn⟩ : ∃ first second : Outcome,
        (duet.crewOf Plain.Visit {} workloads).makeAll (Plain.service duet.plainTerms)
          (round _ ++ round _) =
        let looked : Plain.Phase :=
          if Plain.isFresh ⟨5⟩ {} (keyOf 0) ⟨1⟩ then .finished Tally.zero.addCached else .rendering
        ⟨{}, [⟨lonely [], 0, .serving ⟨1⟩ ⟨⟨keyOf 0, first⟩, looked⟩, .zero, .empty⟩,
            ⟨lonely [], 0, .serving ⟨1⟩ ⟨⟨keyOf 0, second⟩, looked⟩, .zero, .empty⟩]⟩ :=
      ⟨_, _, rfl⟩
    rw [unseen] at drawn
    rw [show plain = _ from Crew.makeAll_append .., drawn]
    clear drawn
    cases first <;> cases second <;> decide +kernel
  obtain ⟨ofGuarded, ofPlain⟩ := totals_balance duet workloads rfl
  obtain ⟨answered, sum, -, latencies⟩ := ofGuarded store _ guardedEnds.1 guardedEnds.2
  obtain ⟨rendered, parts, -, -, timed⟩ := ofPlain _ plainEnds.1 plainEnds.2
  refine ⟨guardedEnds.1, guardedEnds.2, answered, ?_, latencies.trans answered, plainEnds.1, plainEnds.2,
    rendered, ?_, timed.trans rendered⟩
  · exact answered.symm.trans sum
  · exact rendered.symm.trans parts

end Settings

end SingleFlight.Simulation
