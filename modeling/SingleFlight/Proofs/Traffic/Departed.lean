import SingleFlight.Proofs.Traffic.Layout
import SingleFlight.Proofs.Traffic.Sound

namespace SingleFlight.Traffic

/-- The keys a move takes from their entries, with those. -/
def takenOut (traffic : Traffic) (move : Move) : List (String × EntryId) :=
  traffic.cache.store.segments.slots.filter fun slot =>
    (traffic.take move).lookup slot.1 != some slot.2

variable {traffic : Traffic} {key : String} {entry : EntryId}

theorem mem_takenOut_iff (inPlace : traffic.cache.store.segments.InPlace) {move : Move} :
    (key, entry) ∈ traffic.takenOut move ↔
      traffic.lookup key = some entry ∧ (traffic.take move).lookup key ≠ some entry := by
  rw [takenOut, List.mem_filter, inPlace.mem_slots_iff, bne_iff_ne]
  rfl

/-- A move that keeps what every key maps to takes out nothing. -/
theorem takenOut_eq_nil (inPlace : traffic.cache.store.segments.InPlace) {move : Move}
    (same : ∀ key, (traffic.take move).lookup key = traffic.lookup key) :
    traffic.takenOut move = [] := by
  refine List.eq_nil_iff_forall_not_mem.mpr fun slot inside => ?_
  obtain ⟨before, after⟩ := (mem_takenOut_iff inPlace).mp inside
  exact after ((same slot.1).trans before)

/-- A move that leaves one key absent and keeps the others takes out that one. -/
theorem takenOut_eq_singleton (inPlace : traffic.cache.store.segments.InPlace) {move : Move}
    (before : traffic.lookup key = some entry) (gone : (traffic.take move).lookup key = none)
    (same : ∀ other, other ≠ key → (traffic.take move).lookup other = traffic.lookup other) :
    traffic.takenOut move = [(key, entry)] := by
  refine List.perm_singleton.mp ((List.perm_ext_iff_of_nodup ?_ (List.nodup_singleton _)).mpr ?_)
  · exact inPlace.nodup_slots.filter _
  · rintro ⟨other, found⟩
    rw [mem_takenOut_iff inPlace, List.mem_singleton]
    constructor
    · rintro ⟨maps, moved⟩
      by_cases apart : other = key
      · rw [apart, before] at maps
        rw [apart, Option.some.inj maps]
      · exact absurd ((same other apart).trans maps) moved
    · rintro ⟨⟩
      exact ⟨before, by rw [gone]; simp⟩

/-- A visible entry is mapped after a move only where it was before. -/
theorem lookup_of_take (shown : traffic.isShown entry = true) {move : Move}
    (maps : (traffic.take move).lookup key = some entry) : traffic.lookup key = some entry := by
  have change := traffic.change_take move
  generalize traffic.take move = after at change maps
  cases change with
  | nothing => exact maps
  | begun => exact maps
  | operated => exact maps
  | evicted =>
      rw [lookup, Store.lookup_evict] at maps
      split at maps
      · cases maps
      · exact maps
  | proceeded place effect =>
      rcases effect.lookup_cases maps with before | ⟨-, ⟨new, -⟩ | candidate, -⟩
      · exact before
      · exact (Heap.ne_next_of_holds _ (holds_of_isShown shown) new).elim
      · exact (Sound.ne_of_shown (List.mem_of_getElem? place) candidate shown rfl).elim

/-- A visible entry is mapped after a run only where it was before. -/
theorem lookup_of_run (shown : traffic.isShown entry = true) {moves : List Move}
    (maps : (traffic.run moves).lookup key = some entry) :
    traffic.lookup key = some entry := by
  induction moves generalizing traffic with
  | nil => exact maps
  | cons move rest ih =>
      have later := ih ((traffic.change_take move).shown shown) maps
      exact lookup_of_take shown later

end SingleFlight.Traffic
