import Mathlib.Data.List.Induction
import SingleFlight.Proofs.Workshop.Steps

namespace SingleFlight

/-- The entries that a lookup works on, or ends with. -/
def Lookup.Phase.entries : Lookup.Phase → List EntryId
  | .finding | .finished (.error _) => []
  | .timing found | .judging found _ | .copying found | .stamping found _ => [found]
  | .swapping found candidate => [found, candidate]
  | .finished (.ok entry) => [entry]

/-- The entries that a fetch works on. -/
def Fetch.Phase.entries : Fetch.Phase → List EntryId
  | .looking inner => inner.entries
  | phase => phase.handed?.toList

/-- The entries that a guard or a fetch works on. -/
def Keeper.entries : Keeper → List EntryId
  | .guard live => [live.entry]
  | .spent => []
  | .fetch _ phase => phase.entries

/-- A lookup's candidate is one of its entries. -/
theorem Lookup.mem_entries_of_candidate {asked : Lookup} {phase : Lookup.Phase} {entry : EntryId}
    (candidate : (Call.lookup asked phase).candidate? = some entry) : entry ∈ phase.entries := by
  cases phase with
  | swapping found made =>
      obtain rfl : made = entry := by simpa [Call.candidate?] using candidate
      simp [Lookup.Phase.entries]
  | _ => cases candidate

/-- A lookup goes on with entries that are there. -/
theorem Lookup.entries_step (asked : Lookup) {phase : Lookup.Phase} (moment : Moment) (cache : Cache)
    (mapped : ∀ key entry, cache.store.lookup key = some entry → cache.heap.holds entry = true)
    (kept : ∀ entry ∈ phase.entries, cache.heap.holds entry = true) :
    ∀ entry ∈ (asked.step phase moment cache).1.entries,
      (asked.step phase moment cache).2.1.heap.holds entry = true := by
  have keeps : ∀ entry, cache.heap.holds entry = true →
      (asked.step phase moment cache).2.1.heap.holds entry = true := fun entry known =>
    ((Call.effect_step moment cache (.lookup asked phase)).keeps known).1
  -- Only a new entry has to be looked at: the others are found, or have been worked on before.
  suffices sources : ∀ entry ∈ (asked.step phase moment cache).1.entries,
      entry ∈ phase.entries ∨ (∃ key, cache.store.lookup key = some entry) ∨
        (asked.step phase moment cache).2.1.heap.holds entry = true by
    intro entry inside
    rcases sources entry inside with old | ⟨key, found⟩ | new
    · exact keeps entry (kept entry old)
    · exact keeps entry (mapped key entry found)
    · exact new
  have added (state : Entry) : (cache.heap.add state).holds cache.heap.next = true :=
    (Heap.holds_add_iff _ _ _).mpr (.inr rfl)
  intro entry inside
  cases phase with
  | finding =>
      simp only [step, find] at inside ⊢
      split at inside
      · next found there =>
          obtain rfl := List.mem_singleton.mp inside
          exact .inr (.inl ⟨asked.key, there⟩)
      · split at inside
        · cases inside
        · obtain rfl := List.mem_singleton.mp inside
          exact .inr (.inr (added _))
  | timing found =>
      simp only [step] at inside
      split at inside
      · cases inside
      · exact .inl inside
  | judging found now =>
      simp only [step] at inside
      split at inside <;> exact .inl inside
  | copying found => exact .inl inside
  | stamping found content =>
      simp only [step] at inside ⊢
      split at inside
      · cases inside
      · rcases List.mem_cons.mp inside with rfl | last
        · exact .inl List.mem_cons_self
        · obtain rfl := List.mem_singleton.mp last
          exact .inr (.inr (added _))
  | swapping found candidate =>
      simp only [step, swap] at inside
      split at inside
      · next current there =>
          split at inside
          · obtain rfl := List.mem_singleton.mp inside
            exact .inl (by simp [Lookup.Phase.entries])
          · obtain rfl := List.mem_singleton.mp inside
            exact .inr (.inl ⟨asked.key, there⟩)
      · obtain rfl := List.mem_singleton.mp inside
        exact .inl (by simp [Lookup.Phase.entries])
  | finished outcome => exact .inl inside

/-- A handling goes on with entries that are there. -/
theorem Keeper.Effect.entries {moment : Moment} {cache after : Cache} {keeper next : Keeper}
    {lock : Option Action} (effect : keeper.Effect moment cache lock next after)
    (mapped : ∀ key entry, cache.store.lookup key = some entry → cache.heap.holds entry = true)
    (kept : ∀ entry ∈ keeper.entries, cache.heap.holds entry = true) :
    ∀ entry ∈ next.entries, after.heap.holds entry = true := by
  intro entry inside
  cases effect with
  | @looked asked inner next goes =>
      have steps := asked.lookup.entries_step moment cache mapped kept entry
      rw [goes] at steps
      exact steps inside
  | @handed asked inner found goes =>
      have steps := asked.lookup.entries_step moment cache mapped kept entry
      rw [goes] at steps
      exact steps inside
  | missed => cases inside
  | granted => exact (Heap.holds_set _ _ _ _).trans (kept entry inside)
  | denied => exact (Heap.holds_set _ _ _ _).trans (kept entry inside)
  | committed => cases inside
  | dropped => cases inside
  | refused => cases inside
  | served => cases inside
  | completed => cases inside
  | broken => cases inside
  | released => cases inside
  | _ => exact kept entry inside

namespace Workshop

/-- The entries that a workshop knows of have all been made. -/
structure Known (workshop : Workshop) : Prop where
  mapped : ∀ key entry, workshop.traffic.lookup key = some entry →
    workshop.traffic.cache.heap.holds entry = true
  made : ∀ call ∈ workshop.traffic.calls, ∀ entry, call.candidate? = some entry →
    workshop.traffic.cache.heap.holds entry = true
  kept : ∀ keeper ∈ workshop.keepers, ∀ entry ∈ keeper.entries,
    workshop.traffic.cache.heap.holds entry = true

variable {workshop after : Workshop} {turn : Turn} {move? : Option Move}

/-- An entry that has been made stays made. -/
theorem Change.holds (change : workshop.Change turn move? after) {entry : EntryId}
    (known : workshop.traffic.cache.heap.holds entry = true) :
    after.traffic.cache.heap.holds entry = true := by
  cases change with
  | plain => exact workshop.traffic.holds_take _ known
  | guarded => exact (Heap.holds_set _ _ _ _).trans known
  | denied => exact (Heap.holds_set _ _ _ _).trans known
  | handled acts free place effect =>
      rcases effect.cache_cases with ⟨-, rfl⟩ | ⟨-, asked, inner, -, rfl⟩ | ⟨_, _, -, -, rfl⟩
      · exact known
      · exact ((Call.effect_step turn.moment workshop.traffic.cache
          (.lookup asked.lookup inner)).keeps known).1
      · exact (Heap.holds_set _ _ _ _).trans known
  | _ => exact known

namespace Known

/-- What a step of a call leaves behind a key has been made. -/
theorem mapped_effect (known : workshop.Known) {call next : Call} {moment : Moment} {cache : Cache}
    (effect : call.Effect moment workshop.traffic.cache next cache)
    (made : ∀ entry, call.candidate? = some entry →
      workshop.traffic.cache.heap.holds entry = true)
    {key : String} {entry : EntryId} (maps : cache.store.lookup key = some entry) :
    cache.heap.holds entry = true := by
  rcases effect.lookup_cases maps with old | ⟨-, ⟨-, new⟩ | candidate, -⟩
  · exact (effect.keeps (known.mapped key entry old)).1
  · exact new
  · exact (effect.keeps (made entry candidate)).1

theorem mapped_plain (known : workshop.Known) (move : Move)
    {key : String} {entry : EntryId} (maps : (workshop.traffic.take move).lookup key = some entry) :
    (workshop.traffic.take move).cache.heap.holds entry = true := by
  have change := workshop.traffic.change_take move
  generalize workshop.traffic.take move = after at change maps ⊢
  cases change with
  | @proceeded number call next cache place effect kind =>
      exact known.mapped_effect effect (known.made call (List.mem_of_getElem? place)) maps
  | operated => exact (Heap.holds_set _ _ _ _).trans (known.mapped key entry maps)
  | @evicted name expected removal =>
      have lookups := workshop.traffic.cache.store.lookup_evict name expected key
      rw [show (workshop.traffic.cache.store.evict name expected).2.lookup key = some entry from maps]
        at lookups
      split at lookups
      · cases lookups
      · exact known.mapped key entry lookups.symm
  | _ => exact known.mapped key entry maps

theorem made_plain (known : workshop.Known) (move : Move) {call : Call}
    (inside : call ∈ (workshop.traffic.take move).calls) {entry : EntryId}
    (candidate : call.candidate? = some entry) :
    (workshop.traffic.take move).cache.heap.holds entry = true := by
  have change := workshop.traffic.change_take move
  have keeps : workshop.traffic.cache.heap.holds entry = true →
      (workshop.traffic.take move).cache.heap.holds entry = true :=
    workshop.traffic.holds_take move
  generalize workshop.traffic.take move = after at change keeps inside ⊢
  cases change with
  | begun found none =>
      rcases List.mem_append.mp inside with old | new
      · exact known.made call old entry candidate
      · rw [List.mem_singleton.mp new, none] at candidate
        cases candidate
  | proceeded place effect kind =>
      rcases Traffic.mem_set_calls inside with rfl | ⟨other, -, there⟩
      · exact (effect.candidate_eq candidate).2.1
      · exact keeps (known.made call (List.mem_of_getElem? there) entry candidate)
  | _ => exact keeps (known.made call inside entry candidate)

/-- Every turn works on entries that have been made. -/
theorem change (known : workshop.Known) (change : workshop.Change turn move? after) :
    after.Known := by
  refine ⟨?_, ?_, ?_⟩
  · intro key entry maps
    cases change with
    | plain => exact known.mapped_plain _ maps
    | guarded => exact (Heap.holds_set _ _ _ _).trans (known.mapped key entry maps)
    | denied => exact (Heap.holds_set _ _ _ _).trans (known.mapped key entry maps)
    | handled acts free place effect =>
        rcases effect.cache_cases with ⟨-, rfl⟩ | ⟨-, asked, inner, rfl, rfl⟩ | ⟨_, _, -, -, rfl⟩
        · exact known.mapped key entry maps
        · exact known.mapped_effect (Call.effect_step turn.moment workshop.traffic.cache
            (.lookup asked.lookup inner)) (fun made candidate =>
              known.kept _ (List.mem_of_getElem? place) made (Lookup.mem_entries_of_candidate candidate)) maps
        · exact (Heap.holds_set _ _ _ _).trans (known.mapped key entry maps)
    | _ => exact known.mapped key entry maps
  · intro call inside entry candidate
    have keeps : workshop.traffic.cache.heap.holds entry = true →
      after.traffic.cache.heap.holds entry = true := change.holds
    cases change with
    | plain => exact known.made_plain _ inside candidate
    | _ => exact keeps (known.made call inside entry candidate)
  · intro keeper there entry inside
    obtain ⟨number, there⟩ := List.mem_iff_getElem?.mp there
    rcases change.keepers_cases there with ⟨old, -⟩ | ⟨live, request, rfl, shown, -, -⟩ |
      ⟨asked, rfl⟩ | ⟨old, lock, place, -, -, effect⟩
    · exact change.holds (known.kept keeper (List.mem_of_getElem? old) entry inside)
    · obtain rfl := List.mem_singleton.mp inside
      exact change.holds (holds_of_isShown shown).2
    · cases inside
    · exact effect.entries known.mapped (known.kept old (List.mem_of_getElem? place)) entry inside

/-- Every run from an empty store works on entries that have been made. -/
theorem run_opened (hash : String → Nat) (count : Nat) (positive : 0 < count) (ceiling : Duration)
    (turns : List Turn) : ((opened hash count positive ceiling).run turns).Known := by
  induction turns using List.reverseRecOn with
  | nil =>
      refine ⟨?_, by simp [opened, Traffic.opened], by simp [opened]⟩
      intro key entry maps
      rw [run_nil, opened, Traffic.lookup_opened] at maps
      cases maps
  | append_singleton turns turn ih =>
      rw [run_concat]
      exact ih.change (change_take _ turn)

end Known

end Workshop

end SingleFlight
