import SingleFlight.Proofs.Store.Placement
import SingleFlight.Proofs.Traffic.Basic

namespace SingleFlight
variable {start : Segments} {cache : Cache}

theorem Lookup.edited_step (edited : start.Edited cache.store.segments) (asked : Lookup)
    (phase : Lookup.Phase) (moment : Moment) :
    start.Edited (asked.step phase moment cache).2.1.store.segments := by
  cases phase with
  | finding =>
      simp only [step, find]
      split
      · exact edited
      · split
        · exact edited
        · exact edited.insert _ _
  | swapping found candidate =>
      simp only [step, swap]
      split
      · split
        · exact edited.insert _ _
        · exact edited
      · exact edited.insert _ _
  | timing _ | stamping _ _ => simp only [step]; split <;> exact edited
  | judging _ _ => simp only [step]; split <;> exact edited
  | copying _ | finished _ => exact edited

theorem Removal.edited_step (edited : start.Edited cache.store.segments) (phase : Removal.Phase) :
    start.Edited (step phase cache).2.store.segments := by
  cases phase with
  | taking name => exact edited.erase name
  | clearing numbers removed =>
      cases numbers with
      | nil => exact edited
      | cons number rest => exact edited.clearAt number
  | counting _ | finished _ => exact edited

theorem Store.edited_evict {store : Store} (edited : start.Edited store.segments) (key : String)
    (expected : EntryId) : start.Edited (store.evict key expected).2.segments := by
  unfold evict
  split
  · exact edited.erase key
  · exact edited

theorem Sweep.edited_step (edited : start.Edited cache.store.segments) (phase : Sweep.Phase)
    (moment : Moment) : start.Edited (step phase moment cache).2.1.store.segments := by
  cases phase with
  | removing progress key found rest => exact Store.edited_evict edited key found
  | visiting progress keys =>
      cases keys with
      | nil => exact edited
      | cons key rest => simp only [step]; split <;> exact edited
  | judging _ _ _ _ _ | stamping _ => simp only [step]; split <;> exact edited
  | starting | listing _ | timing _ _ _ _ | closing _ _ | publishing _ | counting _ | finished _ =>
      exact edited

theorem Call.edited_step (edited : start.Edited cache.store.segments) (call : Call)
    (moment : Moment) : start.Edited (call.step moment cache).2.store.segments := by
  cases call with
  | lookup asked phase => exact asked.edited_step edited phase moment
  | sweep phase => exact Sweep.edited_step edited phase moment
  | removal phase => exact Removal.edited_step edited phase
  | copying asked phase =>
      cases phase with
      | stamping content => simp only [step, Copying.step]; split <;> exact edited
      | reading | finished _ => exact edited

namespace Traffic
variable {traffic : Traffic}

theorem segments_onEntry (traffic : Traffic) (entry : EntryId) (change : Entry → Entry) :
    (traffic.onEntry entry change).cache.store.segments = traffic.cache.store.segments := by
  unfold onEntry
  split <;> rfl

theorem edited_take (edited : start.Edited traffic.cache.store.segments) (move : Move) :
    start.Edited (traffic.take move).cache.store.segments := by
  cases move with
  | mk action moment =>
      cases action with
      | begin task => simp only [take]; split <;> exact edited
      | proceed number =>
          simp only [take]
          split
          · exact edited
          · next call _ => exact call.edited_step edited moment
      | acquire _ _ _ | commit _ _ _ _ | release _ _ =>
          simp only [take]
          rwa [segments_onEntry]
      | evict key entry => exact Store.edited_evict edited key entry

theorem edited_run (edited : start.Edited traffic.cache.store.segments) (moves : List Move) :
    start.Edited (traffic.run moves).cache.store.segments := by
  induction moves generalizing traffic with
  | nil => exact edited
  | cons move rest ih => exact ih (edited_take edited move)

/-- Every run leaves each key in its place. -/
theorem inPlace_run (inPlace : traffic.cache.store.segments.InPlace) (moves : List Move) :
    (traffic.run moves).cache.store.segments.InPlace :=
  (edited_run .unchanged moves).inPlace inPlace

end Traffic

/-- Traffic leaves each key in its place. -/
theorem Cache.Reachable.inPlace (reachable : cache.Reachable) : cache.store.segments.InPlace := by
  obtain ⟨hash, count, positive, ceiling, -, moves, rfl⟩ := reachable
  exact Traffic.inPlace_run (Segments.inPlace_empty hash count positive) moves

end SingleFlight
