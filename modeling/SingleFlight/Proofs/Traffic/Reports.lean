import SingleFlight.Proofs.Traffic.Conservation
import SingleFlight.Proofs.Traffic.Course
import SingleFlight.Proofs.Traffic.Provenance
import SingleFlight.Store.Statistics

namespace SingleFlight

namespace Sweep.Phase

/-- The stamp of a sweep, from the look at the wall time on. -/
def finishedAt? : Phase → Option WallTime
  | .closing _ finishedAt => some finishedAt
  | .publishing report | .counting report | .finished (.ok report) => some report.finishedAt
  | _ => none

/-- The report of a sweep, once it is published. -/
def published? : Phase → Option SweepReport
  | .counting report | .finished (.ok report) => some report
  | _ => none

/-- The stamp of a sweep that has not published its report yet. -/
def stamp? (phase : Phase) : Option WallTime :=
  if phase.published?.isSome then none else phase.finishedAt?

/-- The report of a sweep that is completed. -/
def completed? : Phase → Option SweepReport
  | .finished (.ok report) => some report
  | _ => none

/-- The report that a sweep publishes in its next step. -/
def publishes? : Phase → Option SweepReport
  | .publishing report => some report
  | _ => none

end Sweep.Phase

namespace Sweep
variable {phase : Phase} {moment : Moment} {cache : Cache}

/-- A sweep gets its stamp from the wall time, and keeps it. -/
theorem finishedAt_step {stamp : WallTime} (known : (step phase moment cache).1.finishedAt? = some stamp) :
    phase.finishedAt? = some stamp ∨ phase.finishedAt? = none ∧ moment.wall = .ok stamp := by
  cases phase with
  | visiting progress keys =>
      cases keys <;> simp only [step] at known <;> [skip; split at known] <;> cases known
  | stamping progress =>
      simp only [step] at known
      split at known
      · next read => cases known; exact .inr ⟨rfl, read⟩
      · cases known
  | starting | timing _ _ _ _ | judging _ _ _ _ _ =>
      simp only [step, withReading] at known
      split at known <;> cases known
  | closing progress finishedAt =>
      simp only [step, withReading] at known
      split at known
      · exact .inl known
      · cases known
  | publishing report | counting report | finished outcome => exact .inl known
  | _ => cases known

/-- A sweep that has its stamp keeps it, unless it fails. -/
theorem finishedAt_kept {stamp : WallTime} (known : phase.finishedAt? = some stamp) :
    (step phase moment cache).1.finishedAt? = some stamp ∨
      ∃ fault, (step phase moment cache).1 = .finished (.error fault) := by
  cases phase with
  | closing progress finishedAt =>
      simp only [step, withReading]
      split
      · exact .inl known
      · next fault _ => exact .inr ⟨fault, rfl⟩
  | publishing report | counting report | finished outcome => exact .inl known
  | _ => cases known

/-- A sweep's step publishes its own report, and counts when complete. -/
theorem report_step (phase : Phase) (moment : Moment) (cache : Cache) :
    (step phase moment cache).1.published? = phase.publishes?.or phase.published? ∧
    (step phase moment cache).2.1.store.lastSweep = phase.publishes?.or cache.store.lastSweep ∧
    (step phase moment cache).2.1.store.sweeps + phase.completed?.toList.length =
      cache.store.sweeps + (step phase moment cache).1.completed?.toList.length := by
  cases phase with
  | visiting progress keys => cases keys <;> simp only [step] <;> [skip; split] <;> exact ⟨rfl, rfl, rfl⟩
  | starting | timing _ _ _ _ | judging _ _ _ _ _ | stamping _ | closing _ _ =>
      simp only [step, withReading]
      split <;> exact ⟨rfl, rfl, rfl⟩
  | removing progress key found rest =>
      simp only [step, Store.evict]
      split <;> exact ⟨rfl, rfl, rfl⟩
  | _ => exact ⟨rfl, rfl, rfl⟩

/-- An unpublished stamp was there before, or has just been read. -/
theorem stamp_step {stamp : WallTime}
    (known : (step phase moment cache).1.stamp? = some stamp) :
    phase.stamp? = some stamp ∨ moment.wall = .ok stamp := by
  unfold Phase.stamp? at known ⊢
  split at known
  · cases known
  · next unpublished =>
      rw [(report_step phase moment cache).1] at unpublished
      have before : phase.published?.isSome = false := by
        cases published : phase.published? with
        | none => rfl
        | some report => cases publishes : phase.publishes? <;> simp [published, publishes] at unpublished
      rw [before]
      rcases finishedAt_step known with same | ⟨-, read⟩
      · exact .inl same
      · exact .inr read

end Sweep

namespace Call

/-- Where a sweep stands, if the call is one. -/
def sweep? : Call → Option Sweep.Phase
  | .sweep phase => some phase
  | _ => none

/-- The report of a sweep that is completed. -/
def completed? (call : Call) : Option SweepReport := call.sweep?.bind Sweep.Phase.completed?

/-- Only a sweep publishes a report and is counted as one. -/
theorem report_step (call : Call) (moment : Moment) (cache : Cache) :
    (call.step moment cache).2.store.lastSweep =
        (call.sweep?.bind Sweep.Phase.publishes?).or cache.store.lastSweep ∧
      (call.step moment cache).2.store.sweeps + call.completed?.toList.length =
        cache.store.sweeps + (call.step moment cache).1.completed?.toList.length := by
  cases call with
  | sweep phase => exact (Sweep.report_step phase moment cache).2
  | lookup asked phase =>
      have same : (step (.lookup asked phase) moment cache).2.store.lastSweep = cache.store.lastSweep ∧
          (step (.lookup asked phase) moment cache).2.store.sweeps = cache.store.sweeps := by
        constructor <;> cases phase <;> simp only [step, Lookup.step, Lookup.find, Lookup.swap] <;>
          repeat' split
        all_goals rfl
      exact ⟨same.1, same.2⟩
  | removal phase =>
      cases phase with
      | clearing segments removed => cases segments <;> exact ⟨rfl, rfl⟩
      | _ => exact ⟨rfl, rfl⟩
  | copying asked phase =>
      cases phase with
      | stamping content => simp only [step, Copying.step]; split <;> exact ⟨rfl, rfl⟩
      | _ => exact ⟨rfl, rfl⟩

end Call

/-- The wall time that a move can read. -/
def Move.wall? (move : Move) : Option WallTime := move.moment.wall.toOption

/-- The wall time of a run never goes backwards. -/
def WallForward (moves : List Move) : Prop :=
  (moves.filterMap Move.wall?).Pairwise fun earlier later => earlier.nanos ≤ later.nanos

/-- Later is not earlier on a forward wall clock. -/
theorem WallForward.le {first rest : List Move} (forward : WallForward (first ++ rest))
    {earlier later : WallTime} (before : earlier ∈ first.filterMap Move.wall?)
    (after : later ∈ rest.filterMap Move.wall?) : earlier.nanos ≤ later.nanos := by
  rw [WallForward, List.filterMap_append, List.pairwise_append] at forward
  exact forward.2.2 earlier before later after

theorem WallForward.of_append {first rest : List Move} (forward : WallForward (first ++ rest)) :
    WallForward first := by
  rw [WallForward, List.filterMap_append, List.pairwise_append] at forward
  exact forward.1

namespace Traffic

/-- Where the sweep of a number stands. -/
def sweep? (traffic : Traffic) (number : Nat) : Option Sweep.Phase :=
  traffic.calls[number]?.bind Call.sweep?

/-- The report that a move publishes, with the number of its sweep. -/
def publication? (traffic : Traffic) (move : Move) : Option (Nat × SweepReport) :=
  match move.action with
  | .proceed number => ((traffic.sweep? number).bind Sweep.Phase.publishes?).map fun report => (number, report)
  | _ => none

/-- The reports that a run publishes, in their order. -/
def publications (traffic : Traffic) : List Move → List (Nat × SweepReport)
  | [] => []
  | move :: rest => (traffic.publication? move).toList ++ (traffic.take move).publications rest

/-- The reports of the sweeps that are completed. -/
def completed (traffic : Traffic) : List SweepReport := traffic.calls.filterMap Call.completed?

/-- No operation is in progress. -/
def IsIdle (traffic : Traffic) : Prop := ∀ call ∈ traffic.calls, call.isOver = true

/-- A sweep publishes a younger report than another's unpublished stamp. -/
def overtakes (traffic : Traffic) (move : Move) (number : Nat) : Prop :=
  ∃ other report phase stamp, traffic.publication? move = some (other, report) ∧
    traffic.sweep? number = some phase ∧ phase.stamp? = some stamp ∧
    stamp.nanos < report.finishedAt.nanos

variable {traffic start : Traffic} {moves : List Move} {move : Move} {number : Nat}

theorem publications_concat (traffic : Traffic) (moves : List Move) (move : Move) :
    traffic.publications (moves ++ [move]) =
      traffic.publications moves ++ ((traffic.run moves).publication? move).toList := by
  induction moves generalizing traffic with
  | nil => simp [publications]
  | cons first rest ih => simp [publications, ih]

theorem publications_append (traffic : Traffic) (first rest : List Move) :
    traffic.publications (first ++ rest) =
      traffic.publications first ++ (traffic.run first).publications rest := by
  induction first generalizing traffic with
  | nil => rfl
  | cons move first ih => simp [publications, ih]

/-- A report is published by a sweep that is about to. -/
theorem publication?_eq_some {report : SweepReport}
    (publishes : traffic.publication? move = some (number, report)) :
    move.proceeds number = true ∧ traffic.sweep? number = some (.publishing report) := by
  unfold publication? at publishes
  split at publishes
  · next other asks =>
      obtain ⟨same, known, pair⟩ := Option.map_eq_some_iff.mp publishes
      obtain ⟨rfl, rfl⟩ := Prod.mk.inj pair
      obtain ⟨phase, there, about⟩ := Option.bind_eq_some_iff.mp known
      refine ⟨by simp [Move.proceeds, asks], ?_⟩
      cases phase <;> cases about
      exact there
  · cases publishes

/-- A sweep makes a step, or stays, or has just begun. -/
theorem sweep_cases {next : Sweep.Phase} (there : (traffic.take move).sweep? number = some next) :
    (move.proceeds number = true ∧ ∃ phase, traffic.sweep? number = some phase ∧
      next = (Sweep.step phase move.moment traffic.cache).1) ∨
    (move.proceeds number = false ∧ traffic.sweep? number = some next) ∨
    (move.proceeds number = false ∧ next = .starting) := by
  obtain ⟨call, known, about⟩ := Option.bind_eq_some_iff.mp there
  rcases call_cases known with ⟨own, before, there, rfl, -⟩ | ⟨idle, there⟩ | ⟨idle, -, task, -, rfl⟩
  · cases before with
    | sweep phase =>
        refine .inl ⟨own, phase, by simp [sweep?, there, Call.sweep?], ?_⟩
        exact (Option.some.inj about).symm
    | _ => cases about
  · exact .inr (.inl ⟨idle, by simp [sweep?, there, about]⟩)
  · cases task with
    | sweep => exact .inr (.inr ⟨idle, (Option.some.inj about).symm⟩)
    | _ => cases about

/-- A sweep goes on by its own steps only. -/
theorem sweep_take {phase : Sweep.Phase} (there : traffic.sweep? number = some phase) (move : Move) :
    (traffic.take move).sweep? number = some
      (if move.proceeds number then (Sweep.step phase move.moment traffic.cache).1 else phase) := by
  obtain ⟨call, known, about⟩ := Option.bind_eq_some_iff.mp there
  cases call with
  | sweep other =>
      obtain rfl := Option.some.inj about
      cases own : move.proceeds number with
      | true =>
          have inside := (List.getElem?_eq_some_iff.mp known).1
          rw [take_of_proceeds own known]
          simp [sweep?, inside, Call.step, Call.sweep?]
      | false =>
          rw [sweep?, call_take_idle known own]
          rfl
  | _ => cases about

/-- The completed sweeps, counted call by call. -/
theorem length_completed (calls : List Call) : (calls.filterMap Call.completed?).length =
    (calls.map fun call => call.completed?.toList.length).sum := by
  induction calls with
  | nil => rfl
  | cons call rest ih => cases known : call.completed? <;> simp [known, ih, Nat.add_comm]

/-- What a move does to the report and to the count of sweeps. -/
theorem report_take (traffic : Traffic) (move : Move) :
    (traffic.take move).cache.store.lastSweep =
        ((traffic.publication? move).map Prod.snd).or traffic.cache.store.lastSweep ∧
      (traffic.take move).cache.store.sweeps + traffic.completed.length =
        traffic.cache.store.sweeps + (traffic.take move).completed.length := by
  obtain ⟨action, moment⟩ := move
  cases action with
  | begin task =>
      refine ⟨by simp only [take]; split <;> rfl, ?_⟩
      simp only [take]
      split
      · cases task <;> simp [completed, Task.start, Call.completed?, Call.sweep?, Sweep.Phase.completed?]
      · rfl
  | proceed number =>
      cases known : traffic.calls[number]? with
      | none => simp [take, known, publication?, sweep?]
      | some call =>
          obtain ⟨last, count⟩ := call.report_step moment traffic.cache
          have sum := sum_map_set (fun call => call.completed?.toList.length) known
            (call.step moment traffic.cache).1
          constructor
          · have published : (traffic.publication? ⟨.proceed number, moment⟩).map Prod.snd =
                call.sweep?.bind Sweep.Phase.publishes? := by
              simp [publication?, sweep?, known, Function.comp_def]
            rw [published, ← last]
            simp [take, known]
          · simp only [take, known, completed, length_completed]
            omega
  | acquire _ entry _ | commit _ entry _ _ | release _ entry =>
      simp only [take, onEntry]
      split <;> exact ⟨rfl, rfl⟩
  | evict key entry =>
      simp only [take, Store.evict]
      split <;> exact ⟨rfl, rfl⟩

/-- The report shown is the last one, and completed sweeps are counted. -/
theorem report_run (hash : String → Nat) (count : Nat) (positive : 0 < count) (ceiling : Duration)
    (moves : List Move) :
    let start := opened hash count positive ceiling
    let traffic := start.run moves
    traffic.cache.store.lastSweep = (start.publications moves).getLast?.map Prod.snd ∧
      traffic.cache.store.sweeps = traffic.completed.length := by
  intro start traffic
  induction moves using List.reverseRecOn with
  | nil => exact ⟨rfl, rfl⟩
  | append_singleton moves move ih =>
      obtain ⟨last, counted⟩ := ih
      obtain ⟨published, balance⟩ := report_take (start.run moves) move
      simp only [traffic, run_append, run_cons, run_nil]
      constructor
      · rw [published, last, publications_concat]
        cases (start.run moves).publication? move <;> simp
      · omega

/-- A report is listed exactly if its sweep has published it. -/
theorem mem_publications_iff (fresh : start.calls = []) {report : SweepReport} :
    (number, report) ∈ start.publications moves ↔
      ∃ phase, (start.run moves).sweep? number = some phase ∧ phase.published? = some report := by
  induction moves using List.reverseRecOn with
  | nil => simp [publications, sweep?, fresh]
  | append_singleton moves move ih =>
      rw [publications_concat, List.mem_append, ih, Option.mem_toList, run_append, run_cons, run_nil]
      constructor
      · rintro (⟨phase, there, published⟩ | publishes)
        · refine ⟨_, sweep_take there move, ?_⟩
          split
          · rw [(Sweep.report_step _ _ _).1]
            cases phase <;> first | exact published | cases published
          · exact published
        · obtain ⟨own, there⟩ := publication?_eq_some publishes
          refine ⟨_, sweep_take there move, ?_⟩
          rw [if_pos own]
          rfl
      · rintro ⟨next, there, published⟩
        rcases sweep_cases there with ⟨own, phase, before, rfl⟩ | ⟨-, before⟩ | ⟨-, rfl⟩
        · rw [(Sweep.report_step _ _ _).1] at published
          rcases Option.or_eq_some_iff.mp published with publishes | ⟨-, already⟩
          · right
            simp [publication?, Move.action_of_proceeds own, before, publishes]
          · exact .inl ⟨phase, before, already⟩
        · exact .inl ⟨next, before, published⟩
        · cases published

/-- No sweep has taken its stamp and has still to publish its report. -/
def Unstamped (traffic : Traffic) : Prop :=
  ∀ number phase, traffic.sweep? number = some phase → phase.stamp? = none

/-- While no operation is in progress nothing is left to publish. -/
theorem IsIdle.unstamped (idle : traffic.IsIdle) : traffic.Unstamped := by
  intro number phase there
  obtain ⟨call, known, about⟩ := Option.bind_eq_some_iff.mp there
  have isOver := idle call (List.mem_of_getElem? known)
  cases call with
  | sweep other =>
      obtain rfl := Option.some.inj about
      cases other with
      | finished outcome => cases outcome <;> rfl
      | _ => cases isOver
  | _ => cases about

/-- A stamp is a wall time that was read in the run. -/
theorem stamp_mem (unstamped : start.Unstamped) {phase : Sweep.Phase} {stamp : WallTime}
    (there : (start.run moves).sweep? number = some phase) (stamped : phase.stamp? = some stamp) :
    stamp ∈ moves.filterMap Move.wall? := by
  induction moves using List.reverseRecOn generalizing phase with
  | nil =>
      rw [unstamped number phase there] at stamped
      cases stamped
  | append_singleton moves move ih =>
      rw [run_append, run_cons, run_nil] at there
      rw [List.filterMap_append, List.mem_append]
      rcases sweep_cases there with ⟨-, before, known, rfl⟩ | ⟨-, known⟩ | ⟨-, rfl⟩
      · rcases Sweep.stamp_step stamped with same | read
        · exact .inl (ih known same)
        · exact .inr (by simp [Move.wall?, read, Except.toOption])
      · exact .inl (ih known stamped)
      · cases stamped

/-- A published stamp is a wall time of the run. -/
theorem finishedAt_mem (unstamped : start.Unstamped) {report : SweepReport}
    (published : (number, report) ∈ start.publications moves) :
    report.finishedAt ∈ moves.filterMap Move.wall? := by
  induction moves using List.reverseRecOn with
  | nil => cases published
  | append_singleton moves move ih =>
      rw [publications_concat, List.mem_append, Option.mem_toList] at published
      rw [List.filterMap_append, List.mem_append]
      left
      rcases published with before | now
      · exact ih before
      · exact stamp_mem unstamped (publication?_eq_some now).2 rfl

/-- Published reports are not younger than a waiting stamp, unless it is overtaken. -/
theorem overtakes_of_younger (unstamped : start.Unstamped) (forward : WallForward moves)
    {phase : Sweep.Phase} {stamp : WallTime} (there : (start.run moves).sweep? number = some phase)
    (stamped : phase.stamp? = some stamp) {other : Nat} {report : SweepReport}
    (published : (other, report) ∈ start.publications moves)
    (younger : stamp.nanos < report.finishedAt.nanos) : start.Occurs moves (·.overtakes · number) := by
  induction moves using List.reverseRecOn generalizing phase with
  | nil => cases published
  | append_singleton moves move ih =>
      rw [run_append, run_cons, run_nil] at there
      rw [occurs_concat_iff]
      rw [publications_concat, List.mem_append, Option.mem_toList] at published
      rcases sweep_cases there with ⟨own, before, known, rfl⟩ | ⟨-, known⟩ | ⟨-, rfl⟩
      · rcases published with published | published
        · rcases Sweep.stamp_step stamped with same | read
          · exact .inl (ih forward.of_append known same published)
          · -- A stamp that was just read is not older than what was published before.
            have later : stamp ∈ [move].filterMap Move.wall? := by
              simp [Move.wall?, read, Except.toOption]
            exact absurd younger (forward.le (finishedAt_mem unstamped published) later).not_gt
        · -- A sweep that publishes in this step has no stamp afterwards.
          obtain ⟨also, publishes⟩ := publication?_eq_some published
          obtain rfl : number = other := by simpa [Move.proceeds, Move.action_of_proceeds own] using also
          rw [known] at publishes
          obtain rfl := Option.some.inj publishes
          cases stamped
      · rcases published with published | published
        · exact .inl (ih forward.of_append known stamped published)
        · exact .inr ⟨other, report, phase, stamp, published, known, stamped, younger⟩
      · cases stamped

/-- If a report is younger than the last one, that was overtaken. -/
theorem overtakes_of_last (unstamped : start.Unstamped) (forward : WallForward moves) {other : Nat}
    {last report : SweepReport} (final : (start.publications moves).getLast? = some (number, last))
    (published : (other, report) ∈ start.publications moves)
    (younger : last.finishedAt.nanos < report.finishedAt.nanos) :
    start.Occurs moves (·.overtakes · number) := by
  induction moves using List.reverseRecOn with
  | nil => cases published
  | append_singleton moves move ih =>
      rw [occurs_concat_iff]
      rw [publications_concat] at final published
      cases now : (start.run moves).publication? move with
      | none =>
          simp only [now, Option.toList_none, List.append_nil] at final published
          exact .inl (ih forward.of_append final published)
      | some pair =>
          simp only [now, Option.toList_some, List.getLast?_concat, Option.some.injEq] at final published
          subst final
          rcases List.mem_append.mp published with before | itself
          · have publishing := (publication?_eq_some now).2
            exact .inl (overtakes_of_younger unstamped forward.of_append publishing rfl before younger)
          · obtain ⟨-, rfl⟩ := Prod.mk.inj (List.mem_singleton.mp itself)
            exact absurd younger (lt_irrefl _)

/-- Each published report was the last one at its time. -/
theorem last_of_published {report : SweepReport} (published : (number, report) ∈ start.publications moves) :
    ∃ passed, passed <+: moves ∧ (start.publications passed).getLast? = some (number, report) := by
  induction moves using List.reverseRecOn with
  | nil => cases published
  | append_singleton moves move ih =>
      rw [publications_concat, List.mem_append, Option.mem_toList] at published
      rcases published with before | now
      · obtain ⟨passed, begins, final⟩ := ih before
        exact ⟨passed, begins.trans (List.prefix_append _ _), final⟩
      · exact ⟨moves ++ [move], List.prefix_rfl, by simp [publications_concat, now]⟩

/-- A sweep keeps its stamp, unless it fails. -/
theorem finishedAt_run {phase : Sweep.Phase} {stamp : WallTime} (there : traffic.sweep? number = some phase)
    (stamped : phase.finishedAt? = some stamp) (moves : List Move) :
    ∃ next, (traffic.run moves).sweep? number = some next ∧
      (next.finishedAt? = some stamp ∨ ∃ fault, next = .finished (.error fault)) := by
  induction moves using List.reverseRecOn with
  | nil => exact ⟨phase, there, .inl stamped⟩
  | append_singleton moves move ih =>
      obtain ⟨before, known, kept⟩ := ih
      rw [run_append, run_cons, run_nil]
      refine ⟨_, sweep_take known move, ?_⟩
      split
      · rcases kept with kept | ⟨fault, rfl⟩
        · exact Sweep.finishedAt_kept kept
        · exact .inr ⟨fault, rfl⟩
      · exact kept

/-- An overtaken report is older than one published before it. -/
theorem younger_of_overtakes (fresh : start.calls = [])
    (overtaken : start.Occurs moves (·.overtakes · number)) {report : SweepReport}
    (published : (number, report) ∈ start.publications moves) :
    ∃ other younger, (other, younger) ∈ start.publications moves ∧
      report.finishedAt.nanos < younger.finishedAt.nanos := by
  obtain ⟨passed, move, ⟨rest, rfl⟩, other, younger, phase, stamp, publishes, there, stamped, older⟩ := overtaken
  refine ⟨other, younger, ?_, ?_⟩
  · rw [publications_append, publications_concat, publishes]
    simp
  · have kept : phase.finishedAt? = some stamp := by
      unfold Sweep.Phase.stamp? at stamped
      split at stamped
      · cases stamped
      · exact stamped
    obtain ⟨now, known, kept⟩ := finishedAt_run there kept (move :: rest)
    obtain ⟨phase, same, final⟩ := (mem_publications_iff fresh).mp published
    have split : passed ++ [move] ++ rest = passed ++ move :: rest := by simp
    rw [split, run_append, known] at same
    obtain rfl := Option.some.inj same
    rcases kept with kept | ⟨fault, rfl⟩
    · have own : now.finishedAt? = some report.finishedAt := by
        cases now with
        | finished outcome => cases outcome <;> cases final; rfl
        | _ => cases final <;> rfl
      obtain rfl : stamp = report.finishedAt := Option.some.inj (kept.symm.trans own)
      exact older
    · cases final

/-- When idle the published reports are those of the completed sweeps. -/
theorem IsIdle.mem_completed_iff (fresh : start.calls = []) (idle : (start.run moves).IsIdle)
    {report : SweepReport} :
    report ∈ (start.run moves).completed ↔ ∃ number, (number, report) ∈ start.publications moves := by
  simp only [mem_publications_iff fresh, completed, List.mem_filterMap]
  constructor
  · rintro ⟨call, there, known⟩
    obtain ⟨number, place⟩ := List.mem_iff_getElem?.mp there
    obtain ⟨phase, sweeps, known⟩ := Option.bind_eq_some_iff.mp known
    refine ⟨number, phase, by simp [sweep?, place, sweeps], ?_⟩
    cases phase with
    | finished outcome => cases outcome <;> cases known; rfl
    | _ => cases known
  · rintro ⟨number, phase, there, known⟩
    obtain ⟨call, place, sweeps⟩ := Option.bind_eq_some_iff.mp there
    have ended := idle call (List.mem_of_getElem? place)
    refine ⟨call, List.mem_of_getElem? place, ?_⟩
    cases call with
    | sweep other =>
        obtain rfl := Option.some.inj sweeps
        cases other with
        | finished outcome => cases outcome <;> cases known; rfl
        | _ => cases ended
    | _ => cases sweeps

/-- What is shown when idle was published before all stamps to come. -/
theorem IsIdle.le_of_last (unstamped : start.Unstamped) {passed rest : List Move}
    (forward : WallForward (passed ++ rest)) (idle : (start.run passed).IsIdle) {other : Nat}
    {earlier report : SweepReport} (shown : (start.publications passed).getLast? = some (other, earlier))
    (final : (start.publications (passed ++ rest)).getLast? = some (number, report)) :
    earlier.finishedAt.nanos ≤ report.finishedAt.nanos := by
  rw [publications_append, List.getLast?_append] at final
  rcases Option.or_eq_some_iff.mp final with after | ⟨-, same⟩
  · have before := finishedAt_mem unstamped (List.mem_of_getLast? shown)
    exact forward.le before (finishedAt_mem idle.unstamped (List.mem_of_getLast? after))
  · obtain ⟨-, rfl⟩ := Prod.mk.inj (Option.some.inj (shown.symm.trans same))
    exact le_rfl

/-- The statistics show the newest report exactly if its sweep was not overtaken, and never go back from
idle. -/
theorem newest_iff_not_overtaken (hash : String → Nat) (count : Nat) (positive : 0 < count) (ceiling : Duration)
    (moves : List Move) (observedAt : WallTime) (forward : WallForward moves) :
    let start := opened hash count positive ceiling
    let statistics := fun (passed : List Move) => (start.run passed).cache.store.statistics observedAt
    let completed := (start.run moves).completed
    (statistics moves).sweepsRun = completed.length ∧
    ((start.run moves).IsIdle → ((statistics moves).lastSweep = none ↔ completed = [])) ∧
    ∀ report, (statistics moves).lastSweep = some report → ∃ number,
      (start.publications moves).getLast? = some (number, report) ∧
      ((start.run moves).IsIdle → report ∈ completed ∧
        ((∀ other ∈ completed, other.finishedAt.nanos ≤ report.finishedAt.nanos) ↔
          ¬ start.Occurs moves (·.overtakes · number))) ∧
      ((∀ passed earlier, passed <+: moves → (statistics passed).lastSweep = some earlier →
          earlier.finishedAt.nanos ≤ report.finishedAt.nanos) ↔
        ¬ start.Occurs moves (·.overtakes · number)) ∧
      ∀ passed earlier, passed <+: moves → (start.run passed).IsIdle →
        (statistics passed).lastSweep = some earlier →
          earlier.finishedAt.nanos ≤ report.finishedAt.nanos := by
  intro start statistics completed
  have fresh : start.calls = [] := rfl
  have unstamped : start.Unstamped := IsIdle.unstamped fun _ there => by cases there
  have shown (passed : List Move) :
      (statistics passed).lastSweep = (start.publications passed).getLast?.map Prod.snd :=
    (report_run hash count positive ceiling passed).1
  have last_of_shown {passed : List Move} {report : SweepReport}
      (known : (statistics passed).lastSweep = some report) :
      ∃ number, (start.publications passed).getLast? = some (number, report) := by
    rw [shown] at known
    obtain ⟨⟨number, _⟩, final, rfl⟩ := Option.map_eq_some_iff.mp known
    exact ⟨number, final⟩
  refine ⟨(report_run hash count positive ceiling moves).2, ?_, ?_⟩
  · intro idle
    rw [shown, Option.map_eq_none_iff, List.getLast?_eq_none_iff, List.eq_nil_iff_forall_not_mem,
      List.eq_nil_iff_forall_not_mem]
    constructor
    · intro none_published report done
      obtain ⟨number, published⟩ := (idle.mem_completed_iff fresh).mp done
      exact none_published _ published
    · intro none_done pair published
      exact none_done pair.2 ((idle.mem_completed_iff fresh).mpr ⟨pair.1, published⟩)
  · intro report known
    obtain ⟨number, final⟩ := last_of_shown known
    have published := List.mem_of_getLast? final
    have newest (fine : ¬ start.Occurs moves (·.overtakes · number)) (other : Nat) (made : SweepReport)
        (there : (other, made) ∈ start.publications moves) :
        made.finishedAt.nanos ≤ report.finishedAt.nanos := by
      by_contra younger
      exact fine (overtakes_of_last unstamped forward final there (not_le.mp younger))
    refine ⟨number, final, ?_, ⟨?_, ?_⟩, ?_⟩
    · intro idle
      refine ⟨(idle.mem_completed_iff fresh).mpr ⟨number, published⟩, ?_, ?_⟩
      · intro latest overtaken
        obtain ⟨other, younger, there, after⟩ := younger_of_overtakes fresh overtaken published
        exact (latest younger ((idle.mem_completed_iff fresh).mpr ⟨other, there⟩)).not_gt after
      · intro fine other done
        obtain ⟨_, there⟩ := (idle.mem_completed_iff fresh).mp done
        exact newest fine _ other there
    · intro latest overtaken
      obtain ⟨other, younger, there, after⟩ := younger_of_overtakes fresh overtaken published
      obtain ⟨passed, begins, last⟩ := last_of_published there
      exact (latest passed younger begins (by rw [shown, last]; rfl)).not_gt after
    · intro fine passed earlier begins before
      obtain ⟨rest, rfl⟩ := begins
      obtain ⟨other, last⟩ := last_of_shown before
      refine newest fine other earlier ?_
      rw [publications_append]
      exact List.mem_append_left _ (List.mem_of_getLast? last)
    · intro passed earlier begins idle before
      obtain ⟨rest, rfl⟩ := begins
      obtain ⟨other, last⟩ := last_of_shown before
      exact idle.le_of_last unstamped forward last final

/-- A sweep's steps while both times stand still. -/
def sweeping (number nanos : Nat) (steps : Nat) : List Move :=
  List.replicate steps ⟨.proceed number, ⟨.ok ⟨nanos⟩, .ok ⟨nanos⟩⟩⟩

/-- A sweep runs inside another, between its stamp and its report. -/
def overlapping : List Move :=
  .timed 0 (.begin .sweep) :: sweeping 0 0 4 ++ ⟨.begin .sweep, ⟨.ok ⟨1⟩, .ok ⟨1⟩⟩⟩ :: sweeping 1 1 7 ++
    sweeping 0 1 3

/-- The outer sweep is overtaken, and publishes last. -/
theorem newest_iff_not_overtaken_of_overlapping :
    let start := opened (fun _ => 0) 1 Nat.one_pos ⟨9⟩
    WallForward overlapping ∧ (start.run overlapping).IsIdle ∧
      start.Occurs overlapping (·.overtakes · 0) := by
  intro start
  have forward : WallForward overlapping := by unfold WallForward; decide +kernel
  have idle : (start.run overlapping).IsIdle := by unfold IsIdle; decide +kernel
  obtain ⟨-, -, shown⟩ :=
    newest_iff_not_overtaken (fun _ => 0) 1 Nat.one_pos ⟨9⟩ overlapping ⟨1⟩ forward
  obtain ⟨number, final, newest, -⟩ := shown ⟨0, 0, ⟨0⟩, ⟨1⟩⟩ (by decide +kernel)
  obtain rfl : number = 0 := by
    have known : (start.publications overlapping).getLast? = some (0, ⟨0, 0, ⟨0⟩, ⟨1⟩⟩) := by decide +kernel
    exact (Prod.mk.inj (Option.some.inj (final.symm.trans known))).1
  refine ⟨forward, idle, not_not.mp fun fine => ?_⟩
  have latest := (newest idle).2.mpr fine
  revert latest
  decide +kernel

/-- A later snapshot can show an older report. -/
theorem not_always_newest :
    (¬ ∀ (hash : String → Nat) (count : Nat) (positive : 0 < count) (ceiling : Duration) (moves : List Move),
      Forward moves → WallForward moves →
      let traffic := (opened hash count positive ceiling).run moves
      traffic.IsIdle → ∀ report, traffic.cache.store.lastSweep = some report →
        ∀ other ∈ traffic.completed, other.finishedAt.nanos ≤ report.finishedAt.nanos) ∧
    ¬ ∀ (hash : String → Nat) (count : Nat) (positive : 0 < count) (ceiling : Duration)
      (passed rest : List Move), Forward (passed ++ rest) → WallForward (passed ++ rest) →
      let start := opened hash count positive ceiling
      ∀ earlier report, (start.run passed).cache.store.lastSweep = some earlier →
        (start.run (passed ++ rest)).cache.store.lastSweep = some report →
          earlier.finishedAt.nanos ≤ report.finishedAt.nanos := by
  constructor
  · intro always
    have latest := always (fun _ => 0) 1 Nat.one_pos ⟨9⟩ overlapping (by unfold Forward; decide +kernel)
      (by unfold WallForward; decide +kernel) (by unfold IsIdle; decide +kernel)
      ⟨0, 0, ⟨0⟩, ⟨1⟩⟩ (by decide +kernel)
    revert latest
    decide +kernel
  · intro always
    have kept := always (fun _ => 0) 1 Nat.one_pos ⟨9⟩ (overlapping.take 13) (overlapping.drop 13)
      (by unfold Forward; decide +kernel) (by unfold WallForward; decide +kernel)
      ⟨0, 0, ⟨1⟩, ⟨0⟩⟩ ⟨0, 0, ⟨0⟩, ⟨1⟩⟩ (by decide +kernel) (by decide +kernel)
    revert kept
    decide +kernel

end Traffic

end SingleFlight
