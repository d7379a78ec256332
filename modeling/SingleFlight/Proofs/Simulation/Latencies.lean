import Mathlib.Algebra.GroupWithZero.Nat
import Mathlib.Data.List.Induction
import Mathlib.Data.List.Pairwise
import Mathlib.Data.List.Perm.Basic
import Mathlib.Data.List.Sort
import SingleFlight.Simulation.Latency

namespace SingleFlight.Simulation

namespace Percentiles
variable {samples others : List Nat} {percent : Nat}

/-- Samples in the order of their size. -/
def sorted (samples : List Nat) : List Nat := samples.mergeSort fun a b => a ≤ b

/-- The sample that stands at a percentage of the sorted ones. -/
def pick (samples : List Nat) (percent : Nat) : Nat :=
  (sorted samples)[min (samples.length * percent / 100) (samples.length - 1)]?.getD 0

theorem ofSamples_eq (samples : List Nat) :
    ofSamples samples = ⟨pick samples 50, pick samples 90, pick samples 99⟩ := by
  simp [ofSamples, pick, sorted]

theorem length_sorted (samples : List Nat) : (sorted samples).length = samples.length :=
  samples.length_mergeSort

theorem sorted_pairwise (samples : List Nat) : (sorted samples).Pairwise (· ≤ ·) :=
  (List.sortedLE_mergeSort (l := samples)).pairwise

/-- The same samples in another order are the same once they are sorted. -/
theorem sorted_eq_of_perm (same : samples.Perm others) : sorted samples = sorted others :=
  List.Perm.eq_of_pairwise (fun _ _ _ _ => Nat.le_antisymm) (sorted_pairwise samples) (sorted_pairwise others)
    (((samples.mergeSort_perm _).trans same).trans (others.mergeSort_perm _).symm)

theorem ofSamples_eq_of_perm (same : samples.Perm others) : ofSamples samples = ofSamples others := by
  simp only [ofSamples_eq, pick, sorted_eq_of_perm same, same.length_eq]

/-- The place of a percentile is inside the samples. -/
theorem place_lt (filled : samples ≠ []) (percent : Nat) :
    min (samples.length * percent / 100) (samples.length - 1) < (sorted samples).length := by
  have positive := List.length_pos_iff.mpr filled
  rw [length_sorted]
  omega

/-- A percentile is one of the samples. -/
theorem pick_mem (filled : samples ≠ []) (percent : Nat) : pick samples percent ∈ samples := by
  have inside := place_lt filled percent
  rw [pick, List.getElem?_eq_getElem inside]
  exact (samples.mergeSort_perm _).mem_iff.mp (List.getElem_mem inside)

/-- A higher percentile is not below a lower one. -/
theorem pick_mono (samples : List Nat) {lower higher : Nat} (le : lower ≤ higher) :
    pick samples lower ≤ pick samples higher := by
  rcases eq_or_ne samples [] with rfl | filled
  · simp [pick, sorted]
  · have below := place_lt filled lower
    have above := place_lt filled higher
    rw [pick, pick, List.getElem?_eq_getElem below, List.getElem?_eq_getElem above]
    have scaled := Nat.mul_le_mul_left samples.length le
    have ordered : min (samples.length * lower / 100) (samples.length - 1) ≤
        min (samples.length * higher / 100) (samples.length - 1) := by
      omega
    exact List.Pairwise.rel_get_of_le (sorted_pairwise samples) (Fin.mk_le_mk.mpr ordered)

/-- A percentile below one hundred stands at its share, rounded down. -/
theorem getElem?_sorted (filled : samples ≠ []) (partly : percent < 100) :
    (sorted samples)[samples.length * percent / 100]? = some (pick samples percent) := by
  have positive := List.length_pos_iff.mpr filled
  have scaled : samples.length * percent ≤ samples.length * 99 :=
    Nat.mul_le_mul_left samples.length (Nat.le_of_lt_succ partly)
  have inside : min (samples.length * percent / 100) (samples.length - 1) = samples.length * percent / 100 := by
    omega
  have bound := place_lt filled percent
  rw [pick, inside] at *
  rw [List.getElem?_eq_getElem bound]
  rfl

end Percentiles

/-- The summary of all latencies, if none is left out of the samples. -/
def LatencySummary.ofLatencies (latencies : List Nat) : LatencySummary where
  total := min latencies.sum latencyLimit
  count := latencies.length
  least := latencies.min?.getD 0
  largest := latencies.max?.getD 0
  percentiles := .ofSamples latencies

namespace LatencyTracker

/-- A tracker shows what has been recorded. -/
structure Shows (tracker : LatencyTracker) (latencies : List Nat) : Prop where
  total : tracker.total = min latencies.sum latencyLimit
  count : tracker.count = latencies.length
  least : tracker.least = latencies.foldl min latencyLimit
  largest : tracker.largest = latencies.foldl max 0
  size : tracker.samples.size = min latencies.length sampleLimit
  samples : ∀ sample ∈ tracker.samples, sample ∈ latencies
  whole : latencies.length ≤ sampleLimit → tracker.samples.toList = latencies

section
variable {Source : Type} {draw : Nat → Source → Nat × Source} {tracker : LatencyTracker}
  {latencies : List Nat}

theorem shows_empty : empty.Shows [] where
  total := rfl
  count := rfl
  least := rfl
  largest := rfl
  size := rfl
  samples := by simp [empty]
  whole _ := rfl

/-- A latency is added to the sample, or may displace another. -/
theorem Shows.record (shows : tracker.Shows latencies) (draw : Nat → Source → Nat × Source) (latency : Nat)
    (source : Source) :
    (tracker.recordBy draw latency source).1.Shows (latencies ++ [latency]) := by
  have total : min (tracker.total + latency) latencyLimit = min (latencies ++ [latency]).sum latencyLimit := by
    rw [shows.total, List.sum_append_nat, List.sum_singleton]
    omega
  have least : min tracker.least latency = (latencies ++ [latency]).foldl min latencyLimit := by
    rw [shows.least, List.foldl_concat]
  have largest : max tracker.largest latency = (latencies ++ [latency]).foldl max 0 := by
    rw [shows.largest, List.foldl_concat]
  have count : tracker.count + 1 = (latencies ++ [latency]).length := by
    rw [shows.count, List.length_append, List.length_singleton]
  have size := shows.size
  by_cases room : tracker.samples.size < sampleLimit
  · have few : latencies.length < sampleLimit := by omega
    refine ⟨total, count, least, largest, ?_, ?_, ?_⟩ <;> simp only [recordBy, keep, if_pos room]
    · rw [Array.size_push, size, List.length_append, List.length_singleton, Nat.min_eq_left few.le,
        Nat.min_eq_left few]
    · intro sample kept
      rcases Array.mem_push.mp kept with before | rfl
      · exact List.mem_append_left _ (shows.samples sample before)
      · simp
    · intro _
      rw [Array.toList_push, shows.whole few.le]
  · have full : sampleLimit ≤ latencies.length := by omega
    have many : sampleLimit < (latencies ++ [latency]).length := by
      rw [List.length_append, List.length_singleton]
      omega
    refine ⟨total, count, least, largest, ?_, ?_, fun few => absurd many few.not_gt⟩ <;>
      simp only [recordBy, keep, if_neg room] <;> split
    · rw [Array.size_setIfInBounds, Nat.min_eq_right many.le, size, Nat.min_eq_right full]
    · rw [Nat.min_eq_right many.le, size, Nat.min_eq_right full]
    · intro sample kept
      rcases Array.mem_or_eq_of_mem_setIfInBounds kept with before | rfl
      · exact List.mem_append_left _ (shows.samples sample before)
      · simp
    · intro sample kept
      exact List.mem_append_left _ (shows.samples sample kept)

/-- A tracker shows what it has shown and all that is recorded next. -/
theorem Shows.recordAll (shows : tracker.Shows latencies) (source : Source) (next : List Nat) :
    (tracker.recordAllBy draw source next).1.Shows (latencies ++ next) := by
  induction next generalizing tracker latencies source with
  | nil => rwa [List.append_nil]
  | cons latency rest ih =>
      have recorded := ih (shows.record draw latency source) (tracker.recordBy draw latency source).2
      rwa [List.append_assoc] at recorded

/-- Puts a latency into the sample by a checked write. -/
def keep? (draw : Nat → Source → Nat × Source) (tracker : LatencyTracker) (latency : Nat) (source : Source) :
    Option (Array Nat × Source) :=
  if tracker.samples.size < sampleLimit then some (tracker.samples.push latency, source)
  else
    let (place, rest) := draw (tracker.count + 1) source
    if place < sampleLimit then
      if inside : place < tracker.samples.size then some (tracker.samples.set place latency inside, rest) else none
    else some (tracker.samples, rest)

/-- A latency is never put outside of the sample. -/
theorem keep?_eq_keep (tracker : LatencyTracker) (latency : Nat) (source : Source) :
    tracker.keep? draw latency source = some (tracker.keep draw latency source) := by
  by_cases room : tracker.samples.size < sampleLimit
  · rw [keep?, keep, if_pos room, if_pos room]
  · rw [keep?, keep, if_neg room, if_neg room]
    obtain ⟨place, rest⟩ := draw (tracker.count + 1) source
    by_cases low : place < sampleLimit
    · have inside : place < tracker.samples.size := low.trans_le (Nat.le_of_not_lt room)
      simp only [if_pos low, dif_pos inside, Array.setIfInBounds_def]
    · simp only [if_neg low]

end

/-- An idempotent operation, over a list and over its parts. -/
theorem foldl_append_of_idem {op : Nat → Nat → Nat} [Std.Associative op] [Std.Commutative op] {start : Nat}
    (idem : op start start = start) (first rest : List Nat) :
    (first ++ rest).foldl op start = op (first.foldl op start) (rest.foldl op start) := by
  have absorbed : op start (first.foldl op start) = first.foldl op start := by
    have twice : first.foldl op (op start start) = op start (first.foldl op start) := List.foldl_assoc
    rw [← twice, idem]
  have joined : rest.foldl op (op (first.foldl op start) start) =
      op (first.foldl op start) (rest.foldl op start) := List.foldl_assoc
  have swapped : op (first.foldl op start) start = op start (first.foldl op start) :=
    Std.Commutative.comm _ _
  rw [List.foldl_append, ← joined, swapped, absorbed]

/-- What adds up over two lists adds up over all workers. -/
theorem foldl_workers {Worker : Type} {track : Worker → LatencyTracker} {latencies : Worker → List Nat}
    (op : Nat → Nat → Nat) (whole : List Nat → Nat) (field : LatencyTracker → Nat)
    (fits : ∀ worker, field (track worker) = whole (latencies worker))
    (append : ∀ first rest, whole (first ++ rest) = op (whole first) (whole rest)) (workers : List Worker) :
    (workers.map track).foldl (fun sum tracker => op sum (field tracker)) (whole []) =
      whole (workers.flatMap latencies) := by
  induction workers using List.reverseRecOn with
  | nil => rfl
  | append_singleton workers worker ih =>
      rw [List.map_append, List.foldl_append, ih, List.flatMap_append, append]
      simp [fits]

/-- The limit does not show in the least of some latencies. -/
theorem foldl_min_eq {latencies : List Nat} (filled : latencies ≠ [])
    (bounded : ∀ latency ∈ latencies, latency ≤ latencyLimit) :
    latencies.foldl min latencyLimit = latencies.min?.getD 0 := by
  have least : (latencyLimit :: latencies).min? = some (latencies.foldl min latencyLimit) := List.min?_cons'
  obtain ⟨member, below⟩ := List.min?_eq_some_iff.mp least
  have among : latencies.foldl min latencyLimit ∈ latencies := by
    rcases List.mem_cons.mp member with limit | among
    · -- Then all latencies are at the limit.
      obtain ⟨latency, there⟩ := List.exists_mem_of_ne_nil latencies filled
      have same : latency = latencies.foldl min latencyLimit :=
        Nat.le_antisymm ((bounded latency there).trans_eq limit.symm) (below latency (List.mem_cons_of_mem _ there))
      exact same ▸ there
    · exact among
  have known : latencies.min? = some (latencies.foldl min latencyLimit) :=
    List.min?_eq_some_iff.mpr ⟨among, fun latency there => below latency (List.mem_cons_of_mem _ there)⟩
  rw [known]
  rfl

theorem foldl_max_eq (latencies : List Nat) : latencies.foldl max 0 = latencies.max?.getD 0 := by
  cases latencies with
  | nil => rfl
  | cons first rest =>
      rw [List.max?_cons', List.foldl_cons, Nat.zero_max]
      rfl

section
variable {Worker : Type} {track : Worker → LatencyTracker} {latencies : Worker → List Nat}

/-- A summary shows all latencies, with the percentiles of the samples. -/
theorem merge_eq (shows : ∀ worker, (track worker).Shows (latencies worker)) (workers : List Worker)
    (bounded : ∀ latency ∈ workers.flatMap latencies, latency ≤ latencyLimit) :
    merge (workers.map track) =
      { LatencySummary.ofLatencies (workers.flatMap latencies) with
        percentiles := .ofSamples (workers.flatMap fun worker => (track worker).samples.toList) } := by
  have total := foldl_workers (fun sum next => min (sum + next) latencyLimit)
    (fun latencies => min latencies.sum latencyLimit) LatencyTracker.total (fun worker => (shows worker).total)
    (fun first rest => by simp only [List.sum_append_nat]; omega) workers
  have count := foldl_workers (· + ·) List.length LatencyTracker.count (fun worker => (shows worker).count)
    (fun first rest => List.length_append) workers
  have least := foldl_workers min (List.foldl min latencyLimit) LatencyTracker.least
    (fun worker => (shows worker).least) (foldl_append_of_idem (Nat.min_self latencyLimit)) workers
  have largest := foldl_workers max (List.foldl max 0) LatencyTracker.largest
    (fun worker => (shows worker).largest) (foldl_append_of_idem (Nat.max_self 0)) workers
  simp only [List.length_nil, List.foldl_nil, List.sum_nil, Nat.zero_min] at total count least largest
  simp only [merge, LatencySummary.ofLatencies, total, count, least, largest, List.flatMap_map]
  have extreme : (if (workers.flatMap latencies).length = 0 then 0
      else (workers.flatMap latencies).foldl min latencyLimit) = (workers.flatMap latencies).min?.getD 0 := by
    split
    · next none => rw [List.length_eq_zero_iff.mp none]; rfl
    · next some => exact foldl_min_eq (fun none => some (by rw [none]; rfl)) bounded
  rw [extreme, foldl_max_eq]

/-- The samples are among the latencies. -/
theorem samples_subset (shows : ∀ worker, (track worker).Shows (latencies worker)) (workers : List Worker) :
    ∀ sample ∈ workers.flatMap fun worker => (track worker).samples.toList, sample ∈ workers.flatMap latencies := by
  intro sample kept
  obtain ⟨worker, there, own⟩ := List.mem_flatMap.mp kept
  exact List.mem_flatMap.mpr ⟨worker, there, (shows worker).samples sample (Array.mem_toList_iff.mp own)⟩

/-- Where there are latencies there are samples. -/
theorem samples_ne_nil (shows : ∀ worker, (track worker).Shows (latencies worker)) {workers : List Worker}
    (filled : workers.flatMap latencies ≠ []) :
    (workers.flatMap fun worker => (track worker).samples.toList) ≠ [] := by
  obtain ⟨latency, there⟩ := List.exists_mem_of_ne_nil _ filled
  obtain ⟨worker, member, own⟩ := List.mem_flatMap.mp there
  have positive : 0 < (track worker).samples.size := by
    rw [(shows worker).size, Nat.lt_min]
    exact ⟨List.length_pos_of_mem own, by decide⟩
  have sample := Array.getElem_mem_toList positive
  exact List.ne_nil_of_mem (List.mem_flatMap.mpr ⟨worker, member, sample⟩)

/-- As long as no sample overflows, nothing is left out of the percentiles. -/
theorem merge_eq_ofLatencies (shows : ∀ worker, (track worker).Shows (latencies worker)) {workers : List Worker}
    (bounded : ∀ latency ∈ workers.flatMap latencies, latency ≤ latencyLimit)
    (few : ∀ worker ∈ workers, (latencies worker).length ≤ sampleLimit) :
    merge (workers.map track) = .ofLatencies (workers.flatMap latencies) := by
  have whole : (workers.flatMap fun worker => (track worker).samples.toList) = workers.flatMap latencies :=
    List.flatMap_congr fun worker there => (shows worker).whole (few worker there)
  rw [merge_eq shows workers bounded, whole]
  rfl

end

/-- The summary of latencies does not depend on their order. -/
theorem ofLatencies_eq_of_perm {latencies others : List Nat} (same : latencies.Perm others) :
    LatencySummary.ofLatencies latencies = .ofLatencies others := by
  have least : latencies.min? = others.min? := by
    cases known : latencies.min? with
    | none =>
        rw [List.min?_eq_none_iff.mp known] at same
        rw [← same.nil_eq, List.min?_nil]
    | some least =>
        obtain ⟨among, below⟩ := List.min?_eq_some_iff.mp known
        refine (List.min?_eq_some_iff.mpr ⟨same.mem_iff.mp among, fun other there => ?_⟩).symm
        exact below other (same.mem_iff.mpr there)
  have largest : latencies.max?.getD 0 = others.max?.getD 0 := by
    rw [← foldl_max_eq, ← foldl_max_eq, same.foldl_op_eq]
  simp only [LatencySummary.ofLatencies, same.sum_nat, same.length_eq, least, largest,
    Percentiles.ofSamples_eq_of_perm same]

/-- Count, extremes and total are exact, percentiles recorded and ordered, samples bounded and independent
of the split. -/
theorem summary_of_recorded {Source : Type} (draw : Nat → Source → Nat × Source)
    (workers : List (Source × List Nat))
    (bounded : ∀ latency ∈ workers.flatMap Prod.snd, latency ≤ latencyLimit) :
    let recorded := workers.flatMap Prod.snd
    let summary := merge (workers.map fun worker => (empty.recordAllBy draw worker.1 worker.2).1)
    let percentiles := summary.percentiles
    (summary.count = recorded.length ∧ summary.total = min recorded.sum latencyLimit ∧
      summary.least = recorded.min?.getD 0 ∧ summary.largest = recorded.max?.getD 0) ∧
    (percentiles.p50 ≤ percentiles.p90 ∧ percentiles.p90 ≤ percentiles.p99) ∧
    (0 < summary.count → ∀ percentile ∈ [percentiles.p50, percentiles.p90, percentiles.p99],
      percentile ∈ recorded ∧ summary.least ≤ percentile ∧ percentile ≤ summary.largest) ∧
    (∀ worker ∈ workers, ∀ before, before <+: worker.2 →
      let (tracker, source) := empty.recordAllBy draw worker.1 before
      tracker.samples.size = min before.length sampleLimit ∧
        (∀ sample ∈ tracker.samples, sample ∈ before) ∧
        ∀ latency, tracker.keep? draw latency source = some (tracker.keep draw latency source)) ∧
    ((∀ worker ∈ workers, worker.2.length ≤ sampleLimit) →
      (∀ (Other : Type) (drawn : Nat → Other → Nat × Other) (others : List (Other × List Nat)),
        (∀ worker ∈ others, worker.2.length ≤ sampleLimit) → (others.flatMap Prod.snd).Perm recorded →
          merge (others.map fun worker => (empty.recordAllBy drawn worker.1 worker.2).1) = summary) ∧
      (0 < summary.count →
        let sorted := recorded.mergeSort fun a b => a ≤ b
        sorted[recorded.length * 50 / 100]? = some percentiles.p50 ∧
        sorted[recorded.length * 90 / 100]? = some percentiles.p90 ∧
        sorted[recorded.length * 99 / 100]? = some percentiles.p99)) := by
  intro recorded summary percentiles
  have shows (worker : Source × List Nat) : (empty.recordAllBy draw worker.1 worker.2).1.Shows worker.2 :=
    shows_empty.recordAll worker.1 worker.2
  have merged := merge_eq shows workers bounded
  have picked : percentiles = .ofSamples (workers.flatMap fun worker =>
      (empty.recordAllBy draw worker.1 worker.2).1.samples.toList) := congrArg LatencySummary.percentiles merged
  have count : summary.count = recorded.length := congrArg LatencySummary.count merged
  have least : summary.least = recorded.min?.getD 0 := congrArg LatencySummary.least merged
  have largest : summary.largest = recorded.max?.getD 0 := congrArg LatencySummary.largest merged
  refine ⟨⟨count, congrArg LatencySummary.total merged, least, largest⟩, ?_, ?_, ?_, ?_⟩
  · rw [picked, Percentiles.ofSamples_eq]
    exact ⟨Percentiles.pick_mono _ (by decide), Percentiles.pick_mono _ (by decide)⟩
  · intro some percentile asked
    have filled : recorded ≠ [] := List.ne_nil_of_length_pos (count ▸ some)
    have among : percentile ∈ recorded := by
      rw [picked, Percentiles.ofSamples_eq] at asked
      refine samples_subset shows workers percentile ?_
      have pick_mem := Percentiles.pick_mem (samples_ne_nil shows filled)
      simp only [List.mem_cons, List.not_mem_nil, or_false] at asked
      rcases asked with rfl | rfl | rfl <;> exact pick_mem _
    refine ⟨among, ?_, ?_⟩
    · rw [least]
      exact List.min?_getD_le_of_mem among
    · rw [largest]
      exact List.le_max?_getD_of_mem among
  · intro worker _ before _
    have early : (empty.recordAllBy draw worker.1 before).1.Shows before := shows_empty.recordAll worker.1 before
    exact ⟨early.size, early.samples, fun latency => keep?_eq_keep _ latency _⟩
  · intro few
    have whole : summary = .ofLatencies recorded := merge_eq_ofLatencies shows bounded few
    refine ⟨?_, ?_⟩
    · intro Other drawn others also same
      have others_shows (worker : Other × List Nat) :
          (empty.recordAllBy drawn worker.1 worker.2).1.Shows worker.2 := shows_empty.recordAll worker.1 worker.2
      rw [merge_eq_ofLatencies others_shows (fun latency there => bounded latency (same.mem_iff.mp there)) also,
        ofLatencies_eq_of_perm same, whole]
    · intro some
      have filled : recorded ≠ [] := List.ne_nil_of_length_pos (count ▸ some)
      have same : percentiles = .ofSamples recorded := congrArg LatencySummary.percentiles whole
      rw [same, Percentiles.ofSamples_eq]
      exact ⟨Percentiles.getElem?_sorted filled (by decide), Percentiles.getElem?_sorted filled (by decide),
        Percentiles.getElem?_sorted filled (by decide)⟩

/-- Three latencies, of three workers and of one. -/
theorem summary_of_recorded_of_three :
    let workers : List (List UInt64 × List Nat) := [([7], [30, 10]), ([], [20]), ([], [])]
    let summary := merge (workers.map fun worker => (empty.recordAll worker.1 worker.2).1)
    (∀ latency ∈ workers.flatMap Prod.snd, latency ≤ latencyLimit) ∧
      summary.count = 3 ∧ summary.total = 60 ∧ summary.least = 10 ∧ summary.largest = 30 ∧
      merge [(empty.recordAll ([] : List UInt64) [10, 20, 30]).1] = summary := by
  intro workers summary
  have bounded : ∀ latency ∈ workers.flatMap Prod.snd, latency ≤ latencyLimit := by decide
  obtain ⟨⟨count, total, least, largest⟩, -, -, -, whole⟩ := summary_of_recorded Generator.below workers bounded
  refine ⟨bounded, count, total, least, largest, ?_⟩
  exact (whole (by decide)).1 (List UInt64) Generator.below [([], [10, 20, 30])] (by decide) (by decide)

end LatencyTracker
end SingleFlight.Simulation
