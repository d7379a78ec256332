import Mathlib.Data.List.Induction
import SingleFlight.Proofs.Registry.Frames
import SingleFlight.Proofs.Registry.Names
import SingleFlight.Proofs.Traffic.Basic

namespace SingleFlight

namespace Bureau
variable {bureau after : Bureau} {move : BureauMove}

/-- What holds of the registry and of the fetches under way at every moment. -/
structure Sound (bureau : Bureau) : Prop where
  registry : bureau.registry.Orderly bureau.stores.length
  below : ∀ frame ∈ bureau.frames.tail, frame.isProducing = true
  honest : ∀ frame ∈ bureau.frames, frame.isRefused = false

/-- The fetches are stacked as they should be after a move. -/
theorem Sound.frames (sound : bureau.Sound) {frames : List Frame}
    (change : FrameChange bureau.registry.enabled bureau.frames frames) :
    (∀ frame ∈ frames.tail, frame.isProducing = true) ∧ ∀ frame ∈ frames, frame.isRefused = false := by
  obtain ⟨-, below, honest⟩ := sound
  cases change with
  | same => exact ⟨below, honest⟩
  | pushed frame calling fresh =>
      constructor
      · intro other listed
        cases stack : bureau.frames with
        | nil =>
            rw [stack] at listed
            cases listed
        | cons top rest =>
            rw [stack] at listed calling below
            rcases List.mem_cons.mp listed with rfl | deeper
            · exact calling
            · exact below other deeper
      · intro other listed
        rcases List.mem_cons.mp listed with rfl | before
        · rcases fresh with rfl | ⟨-, number, fetch, rfl⟩ <;> rfl
        · exact honest other before
  | moved stack follows =>
      rw [stack] at below honest
      refine ⟨below, ?_⟩
      intro other listed
      rcases List.mem_cons.mp listed with rfl | before
      · exact follows.not_refused (honest _ List.mem_cons_self)
      · exact honest other (List.mem_cons_of_mem _ before)
  | popped stack =>
      rw [stack] at below honest
      exact ⟨fun other listed => below other (List.mem_of_mem_tail listed),
        fun other listed => honest other (List.mem_cons_of_mem _ listed)⟩

/-- Every move keeps what holds at every moment. -/
theorem Sound.effect (sound : bureau.Sound) (effect : Effect bureau move after) : after.Sound := by
  obtain ⟨below, honest⟩ := sound.frames effect.frames
  refine ⟨?_, below, honest⟩
  rw [effect.length_stores]
  have before := sound.registry
  cases effect with
  | registered known => exact before.register _ known
  | redirected set => exact (before.setDefault set).1
  | enabled | disabled => exact ⟨before.known, before.blank, before.named⟩
  | cleared | framed | stepped => exact before

/-- Only a registration brings a default. -/
theorem Sound.defaultName_effect (sound : bureau.Sound) (effect : Effect bureau move after) :
    after.registry.defaultName = none ↔
      bureau.registry.defaultName = none ∧ ∀ name store, move ≠ .register name store := by
  cases effect with
  | @registered name store known =>
      constructor
      · intro none
        cases first : bureau.registry.defaultName <;> simp [Registry.register, first] at none
      · rintro ⟨-, other⟩
        exact absurd rfl (other name store)
  | redirected set => simpa using (sound.registry.setDefault set).2
  | framed plain => exact (and_iff_left plain).symm
  | enabled | disabled | cleared | stepped => simp [Registry.enable, Registry.disable]

section
variable {heap : Heap} {stores : List Store} {moves earlier later : List BureauMove}

/-- Moves that can be made, and one more after them. -/
theorem admitsAll_concat {moves : List BureauMove}
    (legal : bureau.admitsAll (moves ++ [move]) = true) :
    bureau.admitsAll moves = true ∧ (bureau.run moves).admits move = true := by
  rw [admitsAll_append, Bool.and_eq_true] at legal
  simpa [admitsAll] using legal

/-- What holds at every moment holds at the start. -/
theorem sound_opened (heap : Heap) (stores : List Store) : (opened heap stores).Sound where
  registry := ⟨by rintro number ⟨⟩, fun _ => rfl, by rintro name ⟨⟩⟩
  below := by rintro frame ⟨⟩
  honest := by rintro frame ⟨⟩

theorem sound_run (legal : (opened heap stores).admitsAll moves = true) :
    ((opened heap stores).run moves).Sound := by
  induction moves using List.reverseRecOn with
  | nil => exact sound_opened heap stores
  | append_singleton earlier move ih =>
      obtain ⟨before, admitted⟩ := admitsAll_concat legal
      rw [run_concat]
      exact (ih before).effect (effect_take admitted)

/-- There is no default exactly if nothing has been registered. -/
theorem defaultName_run (legal : (opened heap stores).admitsAll moves = true) :
    ((opened heap stores).run moves).registry.defaultName = none ↔
      ∀ name store, .register name store ∉ moves := by
  induction moves using List.reverseRecOn with
  | nil => simp [run, opened, Registry.empty]
  | append_singleton earlier move ih =>
      obtain ⟨before, admitted⟩ := admitsAll_concat legal
      rw [run_concat, (sound_run before).defaultName_effect (effect_take admitted), ih before]
      simp only [List.mem_append, List.mem_singleton, not_or, forall_and, ne_eq, eq_comm]

end

/-- A call that fails with an error of the registry changes nothing. -/
theorem Sound.take_of_refused (sound : bureau.Sound) {error : RegistryError}
    (refused : bureau.refusal? move = some error) : bureau.take move = bureau := by
  cases move with
  | register | enable | disable | destroy | expire | produced => cases refused
  | setDefault name =>
      cases set : bureau.registry.setDefault name with
      | ok next => simp [refusal?, set] at refused
      | error other => simp [Bureau.take, set]
  | resolve name => rfl
  | fetch asked =>
      cases way : bureau.route asked with
      | refused other => simp [Bureau.take, begin, way]
      | bypass | through => simp [refusal?, way] at refused
  | proceed moment =>
      simp only [refusal?] at refused
      split at refused
      · next stack =>
          have honest := sound.honest _ (stack ▸ List.mem_cons_self)
          cases honest
      · cases refused

/-- While caching is off every fetch goes past the caches. -/
theorem begin_of_disabled (off : bureau.registry.enabled = false) (asked : Inquiry) :
    bureau.take (.fetch asked) = { bureau with frames := .bypass :: bureau.frames } := by
  simp [take, begin, route, Registry.route, off]

end Bureau

/-- A fetch past the caches stays in its place until it is over. -/
theorem FrameChange.above {caching : Bool} {frames after base upper : List Frame}
    (change : FrameChange caching frames after) (stack : frames = upper ++ .bypass :: base)
    (deep : base.length < after.length) :
    ∃ upper, after = upper ++ .bypass :: base := by
  cases change with
  | same => exact ⟨upper, stack⟩
  | pushed frame => exact ⟨frame :: upper, by rw [stack]; rfl⟩
  | moved top follows =>
      rw [top] at stack
      cases upper with
      | nil => cases stack
      | cons first others =>
          obtain ⟨-, rfl⟩ := List.cons.inj stack
          exact ⟨_ :: others, rfl⟩
  | popped top =>
      rw [top] at stack
      cases upper with
      | nil =>
          obtain ⟨-, rfl⟩ := List.cons.inj stack
          exact absurd deep (Nat.lt_irrefl _)
      | cons first others =>
          obtain ⟨-, rfl⟩ := List.cons.inj stack
          exact ⟨others, rfl⟩

namespace Bureau
variable {bureau : Bureau} {move : BureauMove}

/-- A fetch past the caches stays while moves are made inside it. -/
theorem above_run {base : List Frame} {inside : List BureauMove}
    (top : bureau.frames = .bypass :: base) (legal : bureau.admitsAll inside = true)
    (within : ∀ part rest, inside = part ++ rest → base.length < (bureau.run part).frames.length) :
    ∃ upper, (bureau.run inside).frames = upper ++ .bypass :: base := by
  induction inside using List.reverseRecOn with
  | nil => exact ⟨[], top⟩
  | append_singleton earlier move ih =>
      obtain ⟨before, admitted⟩ := admitsAll_concat legal
      obtain ⟨upper, stack⟩ := ih before fun part rest same =>
        within part (rest ++ [move]) (by rw [same, List.append_assoc])
      have deep := within (earlier ++ [move]) [] (List.append_nil _).symm
      rw [run_concat] at deep ⊢
      exact (effect_take admitted).frames.above stack deep

/-- Caching is off, all lookups are over, and some stores are empty. -/
structure Muted (numbers : List Nat) (bureau : Bureau) : Prop where
  off : bureau.registry.enabled = false
  past : ∀ frame ∈ bureau.frames, frame.isPast = true
  bare : ∀ number ∈ numbers, IsBare bureau.stores number

/-- Where calls are made, the lookups of all fetches under way are over. -/
theorem Sound.past (sound : bureau.Sound) (calling : bureau.isCalling = true) :
    ∀ frame ∈ bureau.frames, frame.isPast = true := by
  intro frame listed
  cases stack : bureau.frames with
  | nil =>
      rw [stack] at listed
      cases listed
  | cons top rest =>
      rw [isCalling, stack] at calling
      have below := sound.below
      rw [stack] at listed below
      rcases List.mem_cons.mp listed with rfl | deeper
      · exact Frame.isPast_of_isProducing calling
      · exact Frame.isPast_of_isProducing (below frame deeper)

/-- Turning caching off empties every registered store. -/
theorem Sound.muted (sound : bureau.Sound) (calling : bureau.isCalling = true) :
    (bureau.take .disable).Muted bureau.registry.targets := by
  rw [Bureau.take, clearAll_eq]
  refine ⟨rfl, sound.past calling, ?_⟩
  intro number named
  exact IsBare.of_cleared named (sound.registry.known number named)

end Bureau

/-- The lookups stay over, and no new one begins while caching is off. -/
theorem FrameChange.past {frames after : List Frame} (change : FrameChange false frames after)
    (past : ∀ frame ∈ frames, frame.isPast = true) : ∀ frame ∈ after, frame.isPast = true := by
  cases change with
  | same => exact past
  | pushed top calling fresh =>
      obtain rfl : top = .bypass := fresh.resolve_right fun through => Bool.false_ne_true through.1
      intro frame listed
      rcases List.mem_cons.mp listed with rfl | before
      · rfl
      · exact past frame before
  | moved stack follows =>
      rw [stack] at past
      intro frame listed
      rcases List.mem_cons.mp listed with rfl | before
      · exact follows.past (past _ List.mem_cons_self)
      · exact past frame (List.mem_cons_of_mem _ before)
  | popped stack =>
      rw [stack] at past
      exact fun frame listed => past frame (List.mem_cons_of_mem _ listed)

namespace Bureau
variable {bureau after : Bureau} {move : BureauMove} {numbers : List Nat}

/-- While caching is off no lookup puts anything in. -/
theorem Muted.stores_effect (muted : bureau.Muted numbers) (effect : Effect bureau move after) :
    after.stores = bureau.stores ∨
      after.stores = clearedAmong bureau.stores bureau.registry.targets := by
  cases effect with
  | registered | redirected | enabled | framed => exact .inl rfl
  | disabled | cleared => exact .inr rfl
  | @stepped number fetch phase rest store moment stack found =>
      have past : phase.isPast = true :=
        muted.past (.through number fetch phase) (stack ▸ List.mem_cons_self)
      left
      simp only [fetch.store_step_of_past past]
      obtain ⟨bound, rfl⟩ := List.getElem?_eq_some_iff.mp found
      exact List.set_getElem_self bound

/-- Until caching is turned on again, everything stays so. -/
theorem Muted.effect (muted : bureau.Muted numbers) (effect : Effect bureau move after)
    (off : move ≠ .enable) : after.Muted numbers := by
  have change := effect.frames
  rw [muted.off] at change
  have stores := muted.stores_effect effect
  refine ⟨?_, change.past muted.past, ?_⟩
  · cases effect with
    | enabled => exact absurd rfl off
    | redirected set => exact (Registry.enabled_of_setDefault set).trans muted.off
    | disabled => rfl
    | registered | cleared | framed | stepped => exact muted.off
  · intro number named
    rcases stores with same | cleared
    · rw [same]
      exact muted.bare number named
    · rw [cleared]
      exact (muted.bare number named).cleared _

theorem Muted.run (muted : bureau.Muted numbers) {moves : List BureauMove}
    (legal : bureau.admitsAll moves = true) (off : .enable ∉ moves) : (bureau.run moves).Muted numbers := by
  induction moves generalizing bureau with
  | nil => exact muted
  | cons move rest ih =>
      rw [admitsAll, Bool.and_eq_true] at legal
      rw [List.mem_cons, not_or] at off
      exact ih (muted.effect (effect_take legal.1) (Ne.symm off.1)) legal.2 off.2

end Bureau

namespace Bureau

section
variable {heap : Heap} {stores : List Store} {moves : List BureauMove}

/-- Defaults are registered names, failing and disabled calls change nothing, and no store fills while
caching is off. -/
theorem registry_discipline (legal : (opened heap stores).admitsAll moves = true) :
    let start := opened heap stores
    let bureau := start.run moves
    let unnamed := ∀ name store, .register name store ∉ moves
    ((bureau.registry.defaultName = none ↔ unnamed) ∧
      (∀ name, bureau.registry.defaultName = some name →
        (bureau.registry.strategy name).isSome = true) ∧
      ∀ error, bureau.registry.resolve none = .error error ↔ error = .empty ∧ unnamed) ∧
    (∀ move error, bureau.refusal? move = some error → bureau.take move = bureau) ∧
    (∀ earlier asked inside later, moves = earlier ++ .fetch asked :: (inside ++ later) →
      let outer := start.run earlier
      let begun := outer.take (.fetch asked)
      outer.registry.enabled = false →
        begun = { outer with frames := .bypass :: outer.frames } ∧
        ((∀ part rest, inside = part ++ rest →
            outer.frames.length < (begun.run part).frames.length) →
          (begun.run inside).frames.length = outer.frames.length + 1 →
          ∀ production elapsed, (begun.run inside).take (.produced production elapsed) =
            { begun.run inside with frames := outer.frames })) ∧
    ∀ earlier later, moves = earlier ++ .disable :: later → .enable ∉ later →
      ∀ number ∈ (start.run earlier).registry.targets, ∃ store, bureau.stores[number]? = some store ∧
        store.isEmpty = true ∧ ∀ key, store.lookup key = none := by
  intro start bureau unnamed
  have sound : bureau.Sound := sound_run legal
  have blank : bureau.registry.defaultName = none ↔ unnamed := defaultName_run legal
  refine ⟨⟨blank, sound.registry.named, ?_⟩, fun move error => sound.take_of_refused, ?_, ?_⟩
  · intro error
    rw [sound.registry.resolve_none, blank]
  · rintro earlier asked inside later rfl outer begun off
    have opens : begun = { outer with frames := .bypass :: outer.frames } := begin_of_disabled off asked
    refine ⟨opens, ?_⟩
    intro within ends production elapsed
    have inner : begun.admitsAll inside = true := by
      rw [admitsAll_append, admitsAll, admitsAll_append] at legal
      simp only [Bool.and_eq_true] at legal
      exact legal.2.2.1
    obtain ⟨upper, stack⟩ := above_run (by rw [opens]) inner within
    rw [stack, List.length_append, List.length_cons] at ends
    obtain rfl : upper = [] := List.length_eq_zero_iff.mp (by omega)
    rw [take, produced, stack]
    rfl
  · rintro earlier later rfl off number named
    rw [admitsAll_append, admitsAll] at legal
    simp only [Bool.and_eq_true] at legal
    obtain ⟨before, calling, after⟩ := legal
    have muted : ((start.run earlier).take .disable).Muted (start.run earlier).registry.targets :=
      (sound_run before).muted calling
    have ends : bureau = ((start.run earlier).take .disable).run later := run_append start earlier _
    obtain ⟨store, found, bare⟩ := (muted.run after off).bare number named
    exact ⟨store, ends ▸ found, bare, Store.lookup_of_isEmpty bare⟩

end

/-- An inquiry by a thread for the key of a page. -/
def inquiry (thread : Nat) : Inquiry := ⟨none, ⟨thread⟩, "page", none, ⟨5⟩, false⟩

/-- A producer turns caching off, fetches past the caches and asks for a missing default. -/
def straddling : List BureauMove :=
  let moment : Moment := ⟨.ok ⟨1⟩, .error .wallBeyondPlatform⟩
  [.resolve none, .register "memory" 0, .enable, .fetch (inquiry 1), .proceed moment, .proceed moment,
    .disable, .fetch (inquiry 2), .setDefault "disk", .produced (.content "inner") ⟨0⟩,
    .produced (.content "outer") ⟨0⟩, .proceed moment, .proceed moment]

/-- The late commit reaches its entry, but the store stays empty. -/
theorem registry_discipline_of_straddling :
    let store := (Traffic.opened (fun _ => 0) 1 Nat.one_pos ⟨9⟩).cache.store
    let start := opened .empty [store]
    let bureau := start.run straddling
    let outer := start.run (straddling.take 7)
    let inner := (outer.take (.fetch (inquiry 2))).run [.setDefault "disk"]
    start.admitsAll straddling = true ∧ bureau.registry.defaultName = some "memory" ∧
      (bureau.heap.get ⟨0⟩).content = some "outer" ∧
      (∃ store, bureau.stores[0]? = some store ∧ store.isEmpty = true ∧ store.lookup "page" = none) ∧
      outer.take (.setDefault "disk") = outer ∧
      inner.take (.produced (.content "inner") ⟨0⟩) = { inner with frames := outer.frames } := by
  intro store start bureau outer inner
  have legal : start.admitsAll straddling = true := by decide +kernel
  have committed : (bureau.heap.get ⟨0⟩).content = some "outer" := by decide +kernel
  have default : bureau.registry.defaultName = some "memory" := by decide +kernel
  have named : 0 ∈ (start.run (straddling.take 6)).registry.targets := by decide +kernel
  have refused : outer.refusal? (.setDefault "disk") = some (.unknownStrategy "disk") := by
    decide +kernel
  have early : start.admitsAll (straddling.take 7) = true := by decide +kernel
  have off : outer.registry.enabled = false := by decide +kernel
  have begun : outer.frames.length < ((outer.take (.fetch (inquiry 2))).run []).frames.length := by
    decide +kernel
  have deeper : outer.frames.length < inner.frames.length := by decide +kernel
  have level : inner.frames.length = outer.frames.length + 1 := by decide +kernel
  obtain ⟨-, -, aside, empties⟩ := registry_discipline legal
  obtain ⟨-, unchanged, -, -⟩ := registry_discipline early
  obtain ⟨held, found, bare, absent⟩ := empties (straddling.take 6) (straddling.drop 7) rfl
    (by simp [straddling]) 0 named
  obtain ⟨-, leaves⟩ :=
    aside (straddling.take 7) (inquiry 2) [.setDefault "disk"] (straddling.drop 9) rfl off
  refine ⟨legal, default, committed, ⟨held, found, bare, absent "page"⟩, unchanged _ _ refused, ?_⟩
  apply leaves
  · intro part rest same
    rcases List.singleton_eq_append_iff.mp same with ⟨rfl, -⟩ | ⟨rfl, -⟩
    · exact begun
    · exact deeper
  · exact level

end Bureau

end SingleFlight
