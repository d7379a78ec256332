import SingleFlight.Proofs.Store.Undisturbed
import SingleFlight.Proofs.Traffic.Layout
import SingleFlight.Proofs.Traffic.Sound

namespace SingleFlight

namespace Traffic
variable {traffic : Traffic} {entry : EntryId} {move : Move} {moves : List Move}

/-- A lock operation leaves the store alone. -/
theorem store_take_of_target (target : move.target? = some entry) :
    (traffic.take move).cache.store = traffic.cache.store := by
  have kept (name : EntryId) (change : Entry → Entry) :
      (traffic.onEntry name change).cache.store = traffic.cache.store := by
    unfold onEntry
    split <;> rfl
  obtain ⟨action, moment⟩ := move
  cases action with
  | acquire caller name request => exact kept name _
  | commit caller name content tag => exact kept name _
  | release caller name => exact kept name _
  | _ => cases target

/-- Lock operations on one entry leave the store and all other entries alone. -/
theorem run_of_target (target : ∀ move ∈ moves, Move.target? move = some entry) :
    (traffic.run moves).cache.store = traffic.cache.store ∧
      ∀ other, other ≠ entry → (traffic.run moves).state other = traffic.state other := by
  induction moves generalizing traffic with
  | nil => exact ⟨rfl, fun _ _ => rfl⟩
  | cons move rest ih =>
      have own := target move List.mem_cons_self
      have others : ∀ later ∈ rest, Move.target? later = some entry := fun later inside =>
        target later (List.mem_cons_of_mem move inside)
      rw [run_cons]
      obtain ⟨store, states⟩ := ih others
      refine ⟨store.trans (store_take_of_target own), fun other apart => ?_⟩
      rw [states other apart, state_take_of_target own, if_neg fun same => apart same.2]

end Traffic

namespace Lookup
variable {asked : Lookup} {content : Option String} {now : Instant} {cache after : Cache}

/-- A lookup has mapped its key to a new entry with some content. -/
structure Installs (asked : Lookup) (content : Option String) (now : Instant) (cache after : Cache) :
    Prop where
  unseen : cache.heap.holds cache.heap.next = false
  maps : after.store.lookup asked.key = some cache.heap.next
  state : after.heap.get cache.heap.next =
    { ttl := asked.ttl
      maxLockHold := cache.store.maxLockHold
      content := content
      tag := asked.tag
      updated := now
      hold := none
      gateOpen := content.isSome }
  others : ∀ key, key ≠ asked.key → after.store.lookup key = cache.store.lookup key
  entries : ∀ entry, cache.heap.holds entry = true →
    after.heap.holds entry = true ∧ after.heap.get entry = cache.heap.get entry
  ceiling : after.store.maxLockHold = cache.store.maxLockHold
  evictions : after.store.evictions = cache.store.evictions
  lastSweep : after.store.lastSweep = cache.store.lastSweep
  sweeps : after.store.sweeps = cache.store.sweeps

/-- The next identity has not been given out. -/
theorem unseen_next (heap : Heap) : heap.holds heap.next = false := by
  simp [Heap.holds, Heap.next]

/-- Only the entry that is made and put in place has changed. -/
theorem installs_add (asked : Lookup) (content : Option String) (now : Instant) (cache : Cache)
    {store : Store} (same : ∃ created replaced, store = { cache.store with
      segments := cache.store.segments.insert asked.key cache.heap.next
      created := created
      replaced := replaced }) :
    asked.Installs content now cache
      ⟨cache.heap.add (Entry.seeded content asked.tag asked.ttl cache.store.maxLockHold now), store⟩ := by
  obtain ⟨created, replaced, rfl⟩ := same
  exact {
    unseen := unseen_next cache.heap
    maps := cache.store.segments.lookup_insert_self _ _
    state := by rw [Heap.get_add_next]; rfl
    others := fun key apart => cache.store.segments.lookup_insert_of_ne apart _
    entries := fun entry known =>
      ⟨(Heap.holds_add_iff _ _ _).mpr (.inl known), Heap.get_add_of_holds _ known _⟩
    ceiling := rfl
    evictions := rfl
    lastSweep := rfl
    sweeps := rfl }

/-- Nothing done to an old entry changes the store or another entry. -/
def Isolates (after : Cache) (old : EntryId) : Prop :=
  ∀ calls moves, (∀ move ∈ moves, Move.target? move = some old) →
    let later := (Traffic.mk after calls).run moves
    later.cache.store = after.store ∧ ∀ entry, entry ≠ old → later.state entry = after.heap.get entry

/-- A lone lookup makes, keeps or replaces the entry of its key, and isolates one it replaces. -/
theorem lookup_replaces_abandoned (reachable : cache.Reachable) (key : String)
    (condition : Option String) (ttl : Duration) (moment : Moment) :
    let asked : Lookup := ⟨key, Tag.normalized condition, ttl⟩
    let result := asked.procedure.undisturbed moment .finding cache
    let after := result.2.1
    let new := cache.heap.next
    (∀ fault, moment.monotonic = .error fault → result = (.finished (.error fault), cache, [])) ∧
    ∀ now, moment.monotonic = .ok now →
      (cache.store.lookup key = none →
        result.1 = .finished (.ok new) ∧ asked.Installs none now cache after ∧
          after.store.created = cache.store.created + 1 ∧
          after.store.replaced = cache.store.replaced ∧
          after.store.size = cache.store.size + 1) ∧
      (∀ old, cache.store.lookup key = some old → (cache.heap.get old).isAbandoned now = false →
        result = (.finished (.ok old), cache, [])) ∧
      ∀ old, cache.store.lookup key = some old → (cache.heap.get old).isAbandoned now = true →
        result.1 = .finished (.ok new) ∧
          asked.Installs (cache.heap.get old).content now cache after ∧
          after.heap.get old = cache.heap.get old ∧
          after.store.created = cache.store.created ∧
          after.store.replaced = cache.store.replaced + 1 ∧
          after.store.size = cache.store.size ∧ new ≠ old ∧ Isolates after old := by
  intro asked result after new
  refine ⟨fun fault unread => asked.undisturbed_unread unread, fun now read => ⟨?_, ?_, ?_⟩⟩
  · intro absent
    have whole := asked.undisturbed_absent absent read
    have made : after = ⟨cache.heap.add (Entry.fresh asked.tag asked.ttl cache.store.maxLockHold now),
        cache.store.create asked.key cache.heap.next⟩ := congrArg (·.2.1) whole
    rw [made]
    refine ⟨congrArg Prod.fst whole, installs_add asked none now cache ⟨_, _, rfl⟩, rfl, rfl, ?_⟩
    exact cache.store.segments.size_insert_of_absent absent _
  · intro old there kept
    exact asked.undisturbed_kept there read kept
  · intro old there abandoned
    have inOrder := reachable.inOrder
    have known := inOrder.known key old there
    have ceiling := inOrder.ceiling key old there
    have whole := asked.undisturbed_replaced there read abandoned
    simp only [ceiling] at whole
    have made : after = ⟨cache.heap.add (Entry.seeded (cache.heap.get old).content asked.tag asked.ttl
        cache.store.maxLockHold now), cache.store.replace asked.key cache.heap.next⟩ :=
      congrArg (·.2.1) whole
    have installs : asked.Installs (cache.heap.get old).content now cache after := by
      rw [made]
      exact installs_add asked _ now cache ⟨_, _, rfl⟩
    refine ⟨congrArg Prod.fst whole, installs, (installs.entries old known).2, ?_, ?_, ?_,
      (Heap.ne_next_of_holds _ known).symm, fun calls moves target => Traffic.run_of_target target⟩
    · rw [made]
      rfl
    · rw [made]
      rfl
    · rw [made]
      have present : cache.store.segments.lookup key ≠ none := by
        rw [show cache.store.segments.lookup key = some old from there]
        simp
      exact reachable.inPlace.size_insert_of_present present _

/-- A producer has committed, has got the lock again, and has died. -/
def deserted : List Move :=
  [.timed 0 (.begin (.lookup ⟨"k", none, ⟨5⟩⟩)), .timed 0 (.proceed 0),
    .timed 0 (.acquire ⟨1⟩ ⟨0⟩ .forced), .timed 1 (.commit ⟨1⟩ ⟨0⟩ "old" none),
    .timed 1 (.acquire ⟨1⟩ ⟨0⟩ .forced)]

/-- At the ceiling a lookup serves a copy that the dead producer cannot reach. -/
theorem lookup_replaces_abandoned_of_deserted :
    let cache := ((Traffic.opened (fun _ => 0) 1 Nat.one_pos ⟨9⟩).run deserted).cache
    let asked : Lookup := ⟨"k", Tag.normalized (some "v2"), ⟨7⟩⟩
    let result := asked.procedure.undisturbed ⟨.ok ⟨10⟩, .ok ⟨0⟩⟩ .finding cache
    result.1 = .finished (.ok ⟨1⟩) ∧ asked.Installs (some "old") ⟨10⟩ cache result.2.1 ∧
      Isolates result.2.1 ⟨0⟩ := by
  intro cache asked result
  have reachable : cache.Reachable := ⟨fun _ => 0, 1, Nat.one_pos, ⟨9⟩, by decide, deserted, rfl⟩
  have there : cache.store.lookup "k" = some ⟨0⟩ := by decide +kernel
  have abandoned : (cache.heap.get ⟨0⟩).isAbandoned ⟨10⟩ = true := by decide +kernel
  have content : (cache.heap.get ⟨0⟩).content = some "old" := by decide +kernel
  have next : cache.heap.next = ⟨1⟩ := by decide +kernel
  clear_value cache
  obtain ⟨-, read⟩ :=
    lookup_replaces_abandoned reachable "k" (some "v2") ⟨7⟩ ⟨.ok ⟨10⟩, .ok ⟨0⟩⟩
  obtain ⟨-, -, replaced⟩ := read ⟨10⟩ rfl
  obtain ⟨given, installs, -, -, -, -, -, isolates⟩ := replaced ⟨0⟩ there abandoned
  rw [next] at given
  rw [content] at installs
  exact ⟨given, installs, isolates⟩

end Lookup

end SingleFlight
