import SingleFlight.Proofs.Workshop.Locks

namespace SingleFlight

/-- A handling of a fetch leaves it the same fetch. -/
theorem Keeper.Effect.same_fetch {moment : Moment} {cache after : Cache} {asked later : Fetch}
    {phase next : Fetch.Phase} {lock : Option Action}
    (effect : (Keeper.fetch asked phase).Effect moment cache lock (.fetch later next) after) :
    asked = later := by
  cases effect <;> rfl

/-- A fetch is handed the entry that its lookup ends with. -/
theorem Keeper.Effect.handed_cases {moment : Moment} {cache after : Cache} {asked : Fetch}
    {phase next : Fetch.Phase} {lock : Option Action}
    (effect : (Keeper.fetch asked phase).Effect moment cache lock (.fetch asked next) after)
    {entry : EntryId} (handed : next.handed? = some entry) :
    phase.handed? = some entry ∨
      ∃ inner, phase = .looking inner ∧
        (asked.lookup.step inner moment cache).1 = .finished (.ok entry) := by
  cases effect with
  | @handed _ inner found goes =>
      obtain rfl := Option.some.inj handed
      exact .inr ⟨inner, rfl, goes⟩
  | looked => cases handed
  | missed => cases handed
  | refused => cases handed
  | served => cases handed
  | completed => cases handed
  | broken => cases handed
  | released => cases handed
  | _ => exact .inl handed

/-- A fetch at the gate was there before, or was denied the lock. -/
theorem Keeper.Effect.waiting_cases {moment : Moment} {cache after : Cache} {keeper : Keeper}
    {asked : Fetch} {entry : EntryId} {reader : Reader} {lock : Option Action}
    (effect : keeper.Effect moment cache lock (.fetch asked (.waiting entry reader)) after) :
    after = cache ∧ (∃ before, keeper = .fetch asked (.waiting entry before)) ∨
      keeper = .fetch asked (.acquiring entry) ∧
        after = cache.setEntry entry (cache.heap.get entry) ∧
        (cache.heap.get entry).isHeldBy asked.caller = false := by
  cases effect with
  | nothing => exact .inl ⟨rfl, reader, rfl⟩
  | denied refused =>
      have kept := Entry.acquire_of_not_held (by rw [refused]; simp)
      exact .inr ⟨rfl, by rw [kept.1], kept.2⟩
  | waited => exact .inl ⟨rfl, _, rfl⟩

namespace Workshop
variable {hash : String → Nat} {count : Nat} {positive : 0 < count} {ceiling : Duration}
  {turns : List Turn} {turn : Turn} {number : Nat} {asked : Fetch} {phase : Fetch.Phase}
  {entry : EntryId}

/-- The entry of a fetch is the one its own lookup has ended with. -/
theorem handed_by_lookup
    (there : ((opened hash count positive ceiling).run turns).Stands number asked phase)
    (handed : phase.handed? = some entry) :
    ∃ passed turn inner, passed ++ [turn] <+: turns ∧
      ((opened hash count positive ceiling).run passed).Stands number asked (.looking inner) ∧
      (asked.lookup.step inner turn.moment
        ((opened hash count positive ceiling).run passed).traffic.cache).1 =
          .finished (.ok entry) := by
  induction turns using List.reverseRecOn generalizing phase with
  | nil => cases there
  | append_singleton turns turn ih =>
      have earlier {phase : Fetch.Phase} (handed : phase.handed? = some entry)
          (there : ((opened hash count positive ceiling).run turns).Stands number asked phase) :
          ∃ passed last inner, passed ++ [last] <+: turns ++ [turn] ∧
            ((opened hash count positive ceiling).run passed).Stands number asked (.looking inner) ∧
            (asked.lookup.step inner last.moment
              ((opened hash count positive ceiling).run passed).traffic.cache).1 =
                .finished (.ok entry) := by
        obtain ⟨passed, last, inner, inside, looks⟩ := ih there handed
        exact ⟨passed, last, inner, inside.trans (List.prefix_append _ _), looks⟩
      rw [run_concat] at there
      rcases (change_take _ turn).keepers_cases there with ⟨old, -⟩ | ⟨_, _, other, -⟩ |
        ⟨_, other⟩ | ⟨old, lock, place, -, -, effect⟩
      · exact earlier handed old
      · cases other
      · cases other
        cases handed
      · cases old with
        | fetch before stood =>
            obtain rfl := effect.same_fetch
            rcases effect.handed_cases handed with kept | ⟨inner, rfl, found⟩
            · exact earlier kept place
            · exact ⟨turns, turn, inner, List.prefix_rfl, place, found⟩
        | _ => cases effect

/-- A thread that waits at a gate does not hold the lock. -/
theorem not_held_of_waiting {reader : Reader}
    (there : ((opened hash count positive ceiling).run turns).Stands number asked
      (.waiting entry reader)) :
    (((opened hash count positive ceiling).run turns).state entry).isHeldBy asked.caller =
      false := by
  induction turns using List.reverseRecOn generalizing reader with
  | nil => cases there
  | append_singleton turns turn ih =>
      have known := Known.run_opened hash count positive ceiling turns
      rw [run_concat] at there ⊢
      generalize (opened hash count positive ceiling).run turns = before at there known ih ⊢
      have change := before.change_take turn
      rcases change.keepers_cases there with ⟨old, whole⟩ | ⟨live, request, other, -⟩ |
        ⟨begun, other⟩ | ⟨old, lock, place, -, -, effect⟩
      · by_cases handled : turn.act.number? = some number
        · rw [whole handled]
          exact ih old
        · have made := known.kept _ (List.mem_of_getElem? old) entry (List.mem_singleton_self _)
          rcases change.state_cases made with ⟨move, moves, -, state⟩ | ⟨-, state⟩
          · -- Whoever makes a move meanwhile is another thread: this one is in the wait.
            rw [moves] at change
            have other : move.action.caller? ≠ some asked.caller := fun own =>
              handled (change.number_of_occupies own old (by simp [Keeper.occupies,
                Fetch.Phase.isInside]))
            rw [state, Move.isHeldBy_applied other]
            exact ih old
          · rw [state]
            exact ih old
      · cases other
      · cases other
      · show ((before.take turn).traffic.cache.heap.get entry).isHeldBy asked.caller = false
        rcases effect.waiting_cases with ⟨same, earlier, rfl⟩ | ⟨rfl, same, free⟩
        · rw [same]
          exact ih place
        · have made := known.kept _ (List.mem_of_getElem? place) entry (List.mem_singleton_self _)
          rw [same, Cache.setEntry, Heap.get_set_self made]
          exact free

/-- A fetch that has been handed an entry works on it. -/
theorem mem_entries_of_handed (handed : phase.handed? = some entry) : entry ∈ phase.entries := by
  cases phase with
  | looking inner => cases handed
  | _ => simp [Fetch.Phase.entries, handed]

/-- A turn after which a fetch is over has ended it. -/
theorem effect_of_ended {workshop : Workshop} {ending : Ending} (running : phase.ending? = none)
    (there : workshop.Stands number asked phase)
    (ended : (workshop.take turn).Stands number asked (.finished ending)) :
    ∃ lock, (Keeper.fetch asked phase).Effect turn.moment workshop.traffic.cache lock
      (.fetch asked (.finished ending)) (workshop.take turn).traffic.cache := by
  rcases (workshop.change_take turn).keepers_cases ended with ⟨old, -⟩ | ⟨_, _, other, -⟩ |
    ⟨_, other⟩ | ⟨old, lock, place, -, -, effect⟩
  · rw [there] at old
    cases old
    cases running
  · cases other
  · cases other
  · rw [there] at place
    cases place
    exact ⟨lock, effect⟩

/-- A fetch that drops its guard returns no content of its own. -/
theorem foreign_of_releasing {ending : Ending}
    (there : ((opened hash count positive ceiling).run turns).Stands number asked
      (.releasing entry ending)) :
    ∀ content, ending ≠ .fetched (.produced content) := by
  induction turns using List.reverseRecOn with
  | nil => cases there
  | append_singleton turns turn ih =>
      rw [run_concat] at there
      generalize (opened hash count positive ceiling).run turns = before at there ih
      rcases (before.change_take turn).keepers_cases there with ⟨old, -⟩ | ⟨_, _, other, -⟩ |
        ⟨_, other⟩ | ⟨old, lock, place, -, -, effect⟩
      · exact ih old
      · cases other
      · cases other
      · generalize (before.take turn).traffic.cache = cache at effect
        cases effect with
        | nothing => exact ih place
        | failed foreign => exact foreign

namespace Known
variable {workshop : Workshop} {ending : Ending}

/-- A fetch ends with the lock only at its holder's commit without a reading. -/
theorem left_iff (known : workshop.Known)
    (waits : ∀ reader, workshop.Stands number asked (.waiting entry reader) →
      (workshop.state entry).isHeldBy asked.caller = false)
    (there : workshop.Stands number asked phase) (handed : phase.handed? = some entry)
    (ended : (workshop.take turn).Stands number asked (.finished ending)) :
    ((workshop.take turn).state entry).isHeldBy asked.caller = true ↔
      (workshop.state entry).isHeldBy asked.caller = true ∧
        (∃ content, phase = .committing entry content) ∧
        ∃ fault, turn.moment.monotonic = .error fault ∧ ending = .crashed fault.message := by
  have made := known.kept _ (List.mem_of_getElem? there) entry (mem_entries_of_handed handed)
  have running : phase.ending? = none := by
    cases phase with
    | finished other => cases handed
    | _ => rfl
  obtain ⟨lock, effect⟩ := effect_of_ended running there ended
  show ((workshop.take turn).traffic.cache.heap.get entry).isHeldBy asked.caller = true ↔ _
  generalize (workshop.take turn).traffic.cache = cache at effect ⊢
  cases effect with
  | nothing => cases running
  | missed => cases handed
  | @refused _ found fault fails =>
      obtain rfl := Option.some.inj handed
      have refused : ((workshop.traffic.cache.heap.get found).acquire asked.caller
          asked.options.request turn.moment.monotonic).1.map Acquisition.held ≠ .ok true := by
        simp [fails, Except.map]
      obtain ⟨same, free⟩ := Entry.acquire_of_not_held refused
      rw [Cache.setEntry, Heap.get_set_self made, same, free]
      simp
  | @served _ found reader =>
      obtain rfl := Option.some.inj handed
      have free : (workshop.traffic.cache.heap.get found).isHeldBy asked.caller = false :=
        waits reader there
      rw [free]
      simp
  | @completed _ found content outcome returns =>
      obtain rfl := Option.some.inj handed
      rw [Cache.setEntry, Heap.get_set_self made, Entry.isHeldBy_commit _ _ returns]
      simp
  | @broken _ found content fault fails =>
      obtain rfl := Option.some.inj handed
      obtain ⟨unread, held, kept⟩ := Entry.commit_of_fault _ _ fails
      rw [Cache.setEntry, Heap.get_set_self made]
      exact ⟨fun _ => ⟨held, ⟨content, rfl⟩, fault, unread, rfl⟩, fun _ => kept⟩
  | @released _ found =>
      obtain rfl := Option.some.inj handed
      rw [Cache.setEntry, Heap.get_set_self made, Entry.isHeldBy_release]
      simp

/-- A fetch returns its own content after a commit, in effect or lost. -/
theorem committed_of_produced (known : workshop.Known) {content : String}
    (foreign : ∀ entry ending, workshop.Stands number asked (.releasing entry ending) →
      ending ≠ .fetched (.produced content))
    (there : workshop.Stands number asked phase) (running : phase.ending? = none)
    (ended : (workshop.take turn).Stands number asked (.finished (.fetched (.produced content)))) :
    ∃ entry, phase = .committing entry content ∧
      ((workshop.state entry).isHeldBy asked.caller = false ∧
          (workshop.take turn).state entry = workshop.state entry ∨
        (workshop.state entry).isHeldBy asked.caller = true ∧
          ∃ now, turn.moment.monotonic = .ok now ∧ (workshop.take turn).state entry =
            { workshop.state entry with
              content := some content, tag := asked.options.tag, updated := now, hold := none,
              gateOpen := true }) := by
  obtain ⟨lock, effect⟩ := effect_of_ended running there ended
  have state (entry : EntryId) : (workshop.take turn).state entry =
    (workshop.take turn).traffic.cache.heap.get entry := rfl
  generalize (workshop.take turn).traffic.cache = cache at effect state
  cases effect with
  | nothing => cases running
  | served apart => exact absurd rfl (apart content)
  | released => exact absurd rfl (foreign _ _ there)
  | @completed _ entry _ outcome returns =>
      refine ⟨entry, rfl, ?_⟩
      have made := known.kept _ (List.mem_of_getElem? there) entry (List.mem_singleton_self _)
      rw [state, Cache.setEntry, Heap.get_set_self made]
      show (workshop.state entry).isHeldBy asked.caller = false ∧
          ((workshop.state entry).commit asked.caller content asked.options.tag
            turn.moment.monotonic).2 = workshop.state entry ∨ _
      rcases (workshop.state entry).commit_cases asked.caller content asked.options.tag
        turn.moment.monotonic with ⟨free, same⟩ | ⟨-, fault, -, same⟩ | ⟨held, now, read, same⟩
      · exact .inl ⟨free, by rw [same]⟩
      · rw [show (workshop.traffic.cache.heap.get entry).commit _ _ _ _ = _ from same] at returns
        cases returns
      · exact .inr ⟨held, now, read, congrArg Prod.snd same⟩

end Known

/-- A fetch leaves its lock behind exactly at a commit that could not read the clock. -/
theorem lock_left_iff {ending : Ending}
    (there : ((opened hash count positive ceiling).run turns).Stands number asked phase)
    (handed : phase.handed? = some entry)
    (ended : ((opened hash count positive ceiling).run (turns ++ [turn])).Stands number asked
      (.finished ending)) :
    (((opened hash count positive ceiling).run (turns ++ [turn])).state entry).isHeldBy
        asked.caller = true ↔
      (((opened hash count positive ceiling).run turns).state entry).isHeldBy asked.caller = true ∧
        (∃ content, phase = .committing entry content) ∧
        ∃ fault, turn.moment.monotonic = .error fault ∧ ending = .crashed fault.message := by
  have known := Known.run_opened hash count positive ceiling turns
  rw [run_concat] at ended ⊢
  exact known.left_iff (fun _ waits => not_held_of_waiting waits) there handed ended

/-- A thread fetches "k" and its producer has made "x". -/
def rendering : List Turn :=
  [.timed 0 (.fetch ⟨⟨1⟩, "k", .standard ⟨5⟩⟩), .timed 0 (.handle 0 .step),
    .timed 0 (.handle 0 .step), .timed 0 (.handle 0 (.produce (.content "x") .zero))]

/-- The next step of the fetch, at a time beyond the platform. -/
def unreadable : Turn := ⟨.handle 0 .step, ⟨.error .instantBeyondPlatform, .ok ⟨0⟩⟩⟩

theorem lock_left_by_broken_commit :
    (((opened (fun _ => 0) 1 Nat.one_pos ⟨9⟩).run (rendering ++ [unreadable])).state ⟨0⟩).isHeldBy
      ⟨1⟩ = true := by
  have there : ((opened (fun _ => 0) 1 Nat.one_pos ⟨9⟩).run rendering).Stands 0
      ⟨⟨1⟩, "k", .standard ⟨5⟩⟩ (.committing ⟨0⟩ "x") := by rfl
  have ended : ((opened (fun _ => 0) 1 Nat.one_pos ⟨9⟩).run (rendering ++ [unreadable])).Stands 0
      ⟨⟨1⟩, "k", .standard ⟨5⟩⟩
      (.finished (.crashed ClockFault.instantBeyondPlatform.message)) := by rfl
  exact (lock_left_iff there rfl ended).mpr ⟨by decide +kernel, ⟨"x", rfl⟩, _, rfl, rfl⟩

/-- A fetch does not give the lock back on every way out. -/
theorem not_always_given_back :
    ¬ ∀ hash count, ∀ positive : 0 < count, ∀ ceiling turns turn number asked phase entry ending,
      (∀ passed ∈ turns.inits,
        ((opened hash count positive ceiling).run passed).Stands number asked (.acquiring entry) →
        (((opened hash count positive ceiling).run passed).state entry).isHeldBy asked.caller =
          false) →
      ((opened hash count positive ceiling).run turns).Stands number asked phase →
      phase.handed? = some entry →
      ((opened hash count positive ceiling).run (turns ++ [turn])).Stands number asked
        (.finished ending) →
      (((opened hash count positive ceiling).run (turns ++ [turn])).state entry).isHeldBy
        asked.caller = false := by
  intro always
  have free : ∀ passed ∈ rendering.inits,
      ((opened (fun _ => 0) 1 Nat.one_pos ⟨9⟩).run passed).Stands 0 ⟨⟨1⟩, "k", .standard ⟨5⟩⟩
        (.acquiring ⟨0⟩) →
      (((opened (fun _ => 0) 1 Nat.one_pos ⟨9⟩).run passed).state ⟨0⟩).isHeldBy ⟨1⟩ = false := by
    intro passed inside there
    simp only [rendering, List.inits, List.map_cons, List.map_nil, List.mem_cons, List.not_mem_nil,
      or_false] at inside
    rcases inside with rfl | rfl | rfl | rfl | rfl
    · rfl
    · rfl
    · rfl
    · cases there
    · cases there
  have left := always (fun _ => 0) 1 Nat.one_pos ⟨9⟩ rendering unreadable 0
    ⟨⟨1⟩, "k", .standard ⟨5⟩⟩ (.committing ⟨0⟩ "x") ⟨0⟩
    (.crashed ClockFault.instantBeyondPlatform.message) free (by rfl) rfl (by rfl)
  revert left
  decide +kernel

/-- A fetch that returns a content as its own has committed it, exactly if it kept the lock. -/
theorem produced_spec {content : String}
    (there : ((opened hash count positive ceiling).run turns).Stands number asked phase)
    (running : phase.ending? = none)
    (ended : ((opened hash count positive ceiling).run (turns ++ [turn])).Stands number asked
      (.finished (.fetched (.produced content)))) :
    ∃ entry, phase = .committing entry content ∧
      let before := ((opened hash count positive ceiling).run turns).state entry
      let after := ((opened hash count positive ceiling).run (turns ++ [turn])).state entry
      let lost := (opened hash count positive ceiling).Lost (·.givesBack · ⟨asked.caller, entry⟩)
        number ⟨asked.caller, entry⟩ turns
      (¬ lost → ∃ now, turn.moment.monotonic = .ok now ∧ after =
        { before with
          content := some content, tag := asked.options.tag, updated := now, hold := none,
          gateOpen := true }) ∧
      (lost → after = before) := by
  have known := Known.run_opened hash count positive ceiling turns
  have live (entry : EntryId) (committing : phase = .committing entry content) :
      ((opened hash count positive ceiling).run turns).Guarded number ⟨asked.caller, entry⟩ := by
    rw [Guarded, there, committing]
    rfl
  rw [run_concat] at ended ⊢
  obtain ⟨entry, committing, commits⟩ := known.committed_of_produced
    (fun _ _ releases => foreign_of_releasing releases content) there running ended
  have holds := isHeldBy_iff_not_lost (live entry committing)
  refine ⟨entry, committing, ?_⟩
  intro before after lost
  rcases commits with ⟨free, same⟩ | ⟨held, now, read, written⟩
  · have gone : lost := by
      by_contra kept
      rw [holds.mpr kept] at free
      cases free
    exact ⟨fun kept => absurd gone kept, fun _ => same⟩
  · exact ⟨fun _ => ⟨now, read, written⟩, fun gone => absurd gone (holds.mp held)⟩

theorem produced_spec_of_rendering :
    let after := ((opened (fun _ => 0) 1 Nat.one_pos ⟨9⟩).run
      (rendering ++ [.timed 1 (.handle 0 .step)])).state ⟨0⟩
    after.content = some "x" ∧ after.updated = ⟨1⟩ := by
  intro after
  have there : ((opened (fun _ => 0) 1 Nat.one_pos ⟨9⟩).run rendering).Stands 0
      ⟨⟨1⟩, "k", .standard ⟨5⟩⟩ (.committing ⟨0⟩ "x") := by rfl
  have ended : ((opened (fun _ => 0) 1 Nat.one_pos ⟨9⟩).run
      (rendering ++ [.timed 1 (.handle 0 .step)])).Stands 0 ⟨⟨1⟩, "k", .standard ⟨5⟩⟩
      (.finished (.fetched (.produced "x"))) := by rfl
  obtain ⟨entry, committing, took, -⟩ := produced_spec there rfl ended
  cases committing
  have live : ((opened (fun _ => 0) 1 Nat.one_pos ⟨9⟩).run rendering).Guarded 0 ⟨⟨1⟩, ⟨0⟩⟩ := by rfl
  obtain ⟨now, read, written⟩ := took ((isHeldBy_iff_not_lost live).mp (by decide +kernel))
  cases read
  exact ⟨congrArg Entry.content written, congrArg Entry.updated written⟩

/-- The producer of a fetch of "k" fetches "k" too. -/
def nesting : List Turn :=
  [.timed 0 (.fetch ⟨⟨1⟩, "k", .standard ⟨5⟩⟩), .timed 0 (.handle 0 .step),
    .timed 0 (.handle 0 .step), .timed 0 (.fetch ⟨⟨1⟩, "k", .standard ⟨5⟩⟩),
    .timed 0 (.handle 1 .step), .timed 0 (.handle 1 .step), .timed 0 (.handle 1 .step),
    .timed 0 (.handle 1 .step), .timed 0 (.handle 1 (.produce (.content "inner") .zero)),
    .timed 0 (.handle 1 .step), .timed 0 (.handle 0 (.produce (.content "outer") .zero))]

/-- A nested fetch gives the lock back, and the outer commit is lost. -/
theorem not_always_committed :
    ¬ ∀ hash count, ∀ positive : 0 < count, ∀ ceiling turns turn number asked phase content,
      ((opened hash count positive ceiling).run turns).Stands number asked phase →
      phase.ending? = none →
      ((opened hash count positive ceiling).run (turns ++ [turn])).Stands number asked
        (.finished (.fetched (.produced content))) →
      ∃ entry now, phase.handed? = some entry ∧ turn.moment.monotonic = .ok now ∧
        (((opened hash count positive ceiling).run (turns ++ [turn])).state entry).content =
          some content ∧
        (((opened hash count positive ceiling).run (turns ++ [turn])).state entry).tag =
          asked.options.tag ∧
        (((opened hash count positive ceiling).run (turns ++ [turn])).state entry).updated = now := by
  intro always
  obtain ⟨entry, now, handed, -, written, -⟩ := always (fun _ => 0) 1 Nat.one_pos ⟨9⟩ nesting
    (.timed 0 (.handle 0 .step)) 0 ⟨⟨1⟩, "k", .standard ⟨5⟩⟩ (.committing ⟨0⟩ "outer") "outer"
    (by rfl) rfl (by rfl)
  cases handed
  revert written
  decide +kernel

end Workshop

end SingleFlight
