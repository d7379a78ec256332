import SingleFlight.Proofs.Traffic.Condemned
import SingleFlight.Proofs.Traffic.Conservation
import SingleFlight.Proofs.Traffic.Returns

namespace SingleFlight

/-- Whether a move is a lookup's of a key, or changes no key. -/
def Move.asksFor (move : Move) (key : String) : Bool :=
  match move.action with
  | .begin (.lookup asked) => asked.key == key
  | .begin .sweep | .begin (.removal _) | .evict _ _ => false
  | .begin (.copying _) | .proceed _ | .acquire _ _ _ | .commit _ _ _ _ | .release _ _ => true

namespace Cache

/-- Nothing has been done for a key. -/
structure IsOpen (start now : Cache) (key : String) : Prop where
  maps : now.store.lookup key = start.store.lookup key
  created : now.store.created = start.store.created
  replaced : now.store.replaced = start.store.replaced

/-- A key maps to the only new entry that was made for it or put in place. -/
structure Decided (start now : Cache) (key : String) (entry : EntryId) : Prop where
  maps : now.store.lookup key = some entry
  apart : start.store.lookup key ≠ some entry
  new : start.heap.holds entry = false
  created : now.store.created = start.store.created +
    if start.store.lookup key = none then 1 else 0
  replaced : now.store.replaced = start.store.replaced +
    if start.store.lookup key = none then 0 else 1

/-- The key has changed once at most. -/
def ChangesOnce (start now : Cache) (key : String) : Prop :=
  start.IsOpen now key ∨ ∃ entry, start.Decided now key entry

variable {start now : Cache} {key : String} {entry : EntryId}

theorem IsOpen.congr {later : Cache} (isOpen : start.IsOpen now key) (same : later.store = now.store) :
    start.IsOpen later key :=
  ⟨same ▸ isOpen.maps, same ▸ isOpen.created, same ▸ isOpen.replaced⟩

theorem Decided.congr {later : Cache} (decided : start.Decided now key entry)
    (same : later.store = now.store) : start.Decided later key entry :=
  ⟨same ▸ decided.maps, decided.apart, decided.new, same ▸ decided.created, same ▸ decided.replaced⟩

theorem ChangesOnce.congr {later : Cache} (once : start.ChangesOnce now key)
    (same : later.store = now.store) : start.ChangesOnce later key := by
  rcases once with isOpen | ⟨entry, decided⟩
  · exact .inl (isOpen.congr same)
  · exact .inr ⟨entry, decided.congr same⟩

/-- A key maps to what it did at first, or to the new entry. -/
theorem ChangesOnce.cases_of_maps (once : start.ChangesOnce now key)
    (maps : now.store.lookup key = some entry) :
    start.store.lookup key = some entry ∨ start.Decided now key entry := by
  rcases once with isOpen | ⟨other, decided⟩
  · exact .inl (isOpen.maps.symm.trans maps)
  · obtain rfl := Option.some.inj (decided.maps.symm.trans maps)
    exact .inr decided

/-- A key that maps to what it did at first has not changed. -/
theorem ChangesOnce.isOpen (once : start.ChangesOnce now key)
    (same : now.store.lookup key = start.store.lookup key) : start.IsOpen now key := by
  rcases once with isOpen | ⟨entry, decided⟩
  · exact isOpen
  · exact absurd (same.symm.trans decided.maps) decided.apart

/-- A key that maps to nothing has mapped to nothing at first. -/
theorem ChangesOnce.absent (once : start.ChangesOnce now key)
    (absent : now.store.lookup key = none) : start.store.lookup key = none := by
  rcases once with isOpen | ⟨entry, decided⟩
  · exact isOpen.maps.symm.trans absent
  · rw [decided.maps] at absent
    cases absent

/-- An entry that is made for an absent key decides it. -/
theorem ChangesOnce.create (once : start.ChangesOnce now key)
    (absent : now.store.lookup key = none) (new : start.heap.holds entry = false) (heap : Heap) :
    start.Decided ⟨heap, now.store.create key entry⟩ key entry := by
  have first := once.absent absent
  have isOpen := once.isOpen (absent.trans first.symm)
  refine ⟨by simp [Store.lookup_create], by simp [first], new, ?_, ?_⟩
  · simp [Store.create, isOpen.created, first]
  · simp [Store.create, isOpen.replaced, first]

/-- An entry put in place of the first one decides the key. -/
theorem ChangesOnce.replace (once : start.ChangesOnce now key) {first : EntryId}
    (before : start.store.lookup key = some first) (maps : now.store.lookup key = some first)
    (known : start.heap.holds first = true) (new : start.heap.holds entry = false) :
    start.Decided ⟨now.heap, now.store.replace key entry⟩ key entry := by
  have isOpen := once.isOpen (maps.trans before.symm)
  refine ⟨by simp [Store.lookup_replace], fun same => ?_, new, ?_, ?_⟩
  · obtain rfl := Option.some.inj (before.symm.trans same)
    rw [known] at new
    cases new
  · simp [Store.replace, isOpen.created, before]
  · simp [Store.replace, isOpen.replaced, before]

end Cache

namespace Lookup

/-- A lookup copies only its key's first entry, and returns only the new one. -/
def Phase.Agrees (phase : Phase) (start now : Cache) (key : String) : Prop :=
  match phase with
  | .finding | .finished (.error _) => True
  | .timing found | .judging found _ =>
    start.store.lookup key = some found ∨ start.Decided now key found
  | .copying found | .stamping found _ => start.store.lookup key = some found
  | .swapping found candidate =>
    start.store.lookup key = some found ∧ start.heap.holds candidate = false
  | .finished (.ok entry) => start.Decided now key entry

/-- What a lookup has found stays right while the key stays decided. -/
theorem Phase.Agrees.mono {phase : Phase} {start now later : Cache} {key : String}
    (agrees : phase.Agrees start now key)
    (keeps : ∀ entry, start.Decided now key entry → start.Decided later key entry) :
    phase.Agrees start later key := by
  cases phase with
  | timing found => exact agrees.imp_right (keeps found)
  | judging found time => exact agrees.imp_right (keeps found)
  | finished outcome =>
      cases outcome with
      | error fault => trivial
      | ok entry => exact keeps entry agrees
  | _ => exact agrees

/-- A lookup's step changes its key once at most, if only the first entry is judged abandoned. -/
theorem agrees_step {start cache : Cache} {asked : Lookup} {phase : Phase} (moment : Moment)
    (there : ∀ found, start.store.lookup asked.key = some found → start.heap.holds found = true)
    (new : start.heap.holds cache.heap.next = false) (once : start.ChangesOnce cache asked.key)
    (agrees : phase.Agrees start cache asked.key)
    (judged : ∀ found now, phase = .judging found now →
      ((cache.heap.get found).isAbandoned now = true ↔ start.store.lookup asked.key = some found)) :
    start.ChangesOnce (asked.step phase moment cache).2.1 asked.key ∧
      (asked.step phase moment cache).1.Agrees start (asked.step phase moment cache).2.1 asked.key ∧
      ∀ entry, start.Decided cache asked.key entry →
        start.Decided (asked.step phase moment cache).2.1 asked.key entry := by
  cases phase with
  | finding =>
      simp only [step, find]
      split
      · next found maps => exact ⟨once, once.cases_of_maps maps, fun _ decided => decided⟩
      · next absent =>
          split
          · exact ⟨once, trivial, fun _ decided => decided⟩
          · next now read =>
              have decided := once.create absent new (cache.heap.add
                (Entry.fresh asked.tag asked.ttl cache.store.maxLockHold now))
              refine ⟨.inr ⟨_, decided⟩, decided, fun entry before => ?_⟩
              rw [before.maps] at absent
              cases absent
  | timing found =>
      simp only [step]
      split
      · exact ⟨once, trivial, fun _ decided => decided⟩
      · exact ⟨once, agrees, fun _ decided => decided⟩
  | judging found now =>
      have decides := judged found now rfl
      simp only [step]
      split
      · next abandoned => exact ⟨once, decides.mp abandoned, fun _ decided => decided⟩
      · next fresh =>
          have apart := mt decides.mpr fresh
          exact ⟨once, agrees.resolve_left apart, fun _ decided => decided⟩
  | copying found => exact ⟨once, agrees, fun _ decided => decided⟩
  | stamping found content =>
      simp only [step]
      split
      · exact ⟨once, trivial, fun _ decided => decided⟩
      · exact ⟨once.congr rfl, ⟨agrees, new⟩, fun _ decided => decided.congr rfl⟩
  | swapping found candidate =>
      obtain ⟨first, hidden⟩ := agrees
      simp only [step, swap]
      split
      · next current maps =>
          split
          · next same =>
              subst same
              have decided := once.replace first maps (there current first) hidden
              refine ⟨.inr ⟨candidate, decided⟩, decided, fun entry before => ?_⟩
              exact absurd (first.trans (maps.symm.trans before.maps)) before.apart
          · next other =>
              have apart : start.store.lookup asked.key ≠ some current := fun same =>
                other (Option.some.inj (same.symm.trans first))
              exact ⟨once, (once.cases_of_maps maps).resolve_left apart, fun _ decided => decided⟩
      · next absent =>
          rw [once.absent absent] at first
          cases first
  | finished outcome => exact ⟨once, agrees, fun _ decided => decided⟩

end Lookup

namespace Call

/-- A call that is over is going to judge nothing. -/
theorem reading_of_isOver {call : Call} (isOver : call.isOver = true) : call.reading? = none := by
  unfold Call.isOver at isOver
  split at isOver <;> first | rfl | cases isOver

/-- A call belongs to the lookups of a key, or changes no key. -/
def Agrees (call : Call) (start now : Cache) (key : String) : Prop :=
  match call with
  | .lookup asked phase => asked.key = key ∧ phase.Agrees start now key
  | .copying _ _ => True
  | .sweep _ | .removal _ => False

theorem Agrees.mono {call : Call} {start now later : Cache} {key : String}
    (agrees : call.Agrees start now key)
    (keeps : ∀ entry, start.Decided now key entry → start.Decided later key entry) :
    call.Agrees start later key := by
  cases call with
  | lookup asked phase => exact ⟨agrees.1, agrees.2.mono keeps⟩
  | copying asked phase => trivial
  | sweep phase => exact agrees
  | removal phase => exact agrees

/-- A call that is over does nothing. -/
theorem step_of_isOver {call : Call} (isOver : call.isOver = true) (moment : Moment) (cache : Cache) :
    call.step moment cache = (call, cache) := by
  unfold Call.isOver at isOver
  split at isOver
  · rfl
  · rfl
  · rfl
  · rfl
  · cases isOver

/-- The making of a copy leaves the store alone. -/
theorem store_step_copying (asked : Copying) (phase : Copying.Phase) (moment : Moment)
    (cache : Cache) : (step (.copying asked phase) moment cache).2.store = cache.store := by
  cases phase with
  | stamping content => simp only [step, Copying.step]; split <;> rfl
  | _ => rfl

/-- A call's step changes the key once at most, and stays right. -/
theorem agrees_step {start cache : Cache} {key : String} {call : Call} (moment : Moment)
    (there : ∀ found, start.store.lookup key = some found → start.heap.holds found = true)
    (new : start.heap.holds cache.heap.next = false) (once : start.ChangesOnce cache key)
    (agrees : call.Agrees start cache key)
    (judged : ∀ asked found now, call = .lookup asked (.judging found now) →
      ((cache.heap.get found).isAbandoned now = true ↔ start.store.lookup key = some found)) :
    start.ChangesOnce (call.step moment cache).2 key ∧
      (call.step moment cache).1.Agrees start (call.step moment cache).2 key ∧
      ∀ entry, start.Decided cache key entry → start.Decided (call.step moment cache).2 key entry := by
  cases call with
  | lookup asked phase =>
      obtain ⟨rfl, agrees⟩ := agrees
      obtain ⟨once, next, keeps⟩ := Lookup.agrees_step moment there new once agrees
        fun found now same => judged asked found now (by rw [same])
      exact ⟨once, ⟨rfl, next⟩, keeps⟩
  | copying asked phase =>
      have same := store_step_copying asked phase moment cache
      exact ⟨once.congr same, trivial, fun _ decided => decided.congr same⟩
  | sweep phase => exact agrees.elim
  | removal phase => exact agrees.elim

end Call

namespace Traffic

/-- A move judges an entry at a reading. -/
def judges (traffic : Traffic) (move : Move) (found : EntryId) (now : Instant) : Prop :=
  ∃ number asked, move.proceeds number = true ∧
    traffic.calls[number]? = some (.lookup asked (.judging found now))

/-- The lookups of a key that have come along since the start agree. -/
structure Agrees (start traffic : Traffic) (key : String) : Prop where
  once : start.cache.ChangesOnce traffic.cache key
  calls : ∀ number call, start.calls.length ≤ number → traffic.calls[number]? = some call →
    call.Agrees start.cache traffic.cache key
  past : ∀ number call, number < start.calls.length → traffic.calls[number]? = some call →
    call.isOver = true

variable {start traffic : Traffic} {key : String} {moves : List Move} {move : Move}

namespace Agrees

/-- A move that changes neither the store nor a call keeps the agreement. -/
theorem congr (agrees : start.Agrees traffic key) {after : Traffic}
    (store : after.cache.store = traffic.cache.store) (calls : after.calls = traffic.calls) :
    start.Agrees after key where
  once := agrees.once.congr store
  calls number call late place :=
    (agrees.calls number call late (calls ▸ place)).mono fun _ decided => decided.congr store
  past number call early place := agrees.past number call early (calls ▸ place)

/-- A call for the key, or one that changes none, keeps the agreement. -/
theorem begun (agrees : start.Agrees traffic key) {call : Call}
    (begins : call.Agrees start.cache traffic.cache key)
    (later : start.calls.length ≤ traffic.calls.length) :
    start.Agrees ⟨traffic.cache, traffic.calls ++ [call]⟩ key where
  once := agrees.once
  calls number other late place := by
    rw [List.getElem?_append] at place
    split at place
    · exact agrees.calls number other late place
    · rwa [List.mem_singleton.mp (List.mem_of_getElem? place)]
  past number other early place := by
    rw [List.getElem?_append_left (early.trans_le later)] at place
    exact agrees.past number other early place

/-- A move keeps the agreement if only the key's first entry is judged abandoned. -/
theorem take (agrees : start.Agrees traffic key) (asks : move.asksFor key = true)
    (there : ∀ found, start.lookup key = some found → start.cache.heap.holds found = true)
    (new : start.cache.heap.holds traffic.cache.heap.next = false)
    (later : start.calls.length ≤ traffic.calls.length)
    (judged : ∀ found now, traffic.judges move found now →
      ((traffic.state found).isAbandoned now = true ↔ start.lookup key = some found)) :
    start.Agrees (traffic.take move) key := by
  obtain ⟨action, moment⟩ := move
  cases action with
  | begin task =>
      simp only [Traffic.take]
      split
      · refine agrees.begun ?_ later
        cases task with
        | lookup asked => exact ⟨by simpa [Move.asksFor] using asks, trivial⟩
        | copying asked => trivial
        | sweep => cases asks
        | removal asked => cases asks
      · exact agrees
  | proceed number =>
      cases place : traffic.calls[number]? with
      | none => exact agrees.congr (by simp [Traffic.take, place]) (by simp [Traffic.take, place])
      | some call =>
          rw [take_proceed place]
          by_cases late : start.calls.length ≤ number
          · obtain ⟨once, next, keeps⟩ := Call.agrees_step moment there new agrees.once
              (agrees.calls number call late place) fun asked found now same =>
                judged found now ⟨number, asked, by simp [Move.proceeds], by rw [place, same]⟩
            refine ⟨once, fun _ other late known => ?_, fun _ other early known => ?_⟩
            · rcases set_calls_cases known with ⟨rfl, rfl⟩ | ⟨-, old⟩
              · exact next
              · exact (agrees.calls _ other late old).mono keeps
            · rcases set_calls_cases known with ⟨rfl, -⟩ | ⟨-, old⟩
              · exact absurd early (Nat.not_lt.mpr late)
              · exact agrees.past _ other early old
          · have isOver := agrees.past number call (Nat.not_le.mp late) place
            obtain ⟨bound, rfl⟩ := List.getElem?_eq_some_iff.mp place
            rw [Call.step_of_isOver isOver]
            exact agrees.congr rfl (by simp)
  | evict name entry => cases asks
  | acquire _ _ _ | commit _ _ _ _ | release _ _ =>
      simp only [Traffic.take]
      refine agrees.congr ?_ (calls_onEntry _ _ _)
      unfold onEntry
      split <;> rfl

/-- When all calls are over, the lookups to come agree. -/
theorem outset (settled : ∀ call ∈ start.calls, call.isOver = true) : start.Agrees start key where
  once := .inl ⟨rfl, rfl, rfl⟩
  calls _ _ late place := absurd (List.getElem?_eq_some_iff.mp place).1 (Nat.not_lt.mpr late)
  past _ _ _ place := settled _ (List.mem_of_getElem? place)

/-- Moves keep the agreement if only the key's first entry is judged abandoned. -/
theorem run (sound : start.Sound) (settled : ∀ call ∈ start.calls, call.isOver = true)
    (asks : ∀ move ∈ moves, Move.asksFor move key = true)
    (judged : ∀ passed move, passed ++ [move] <+: moves → start.Agrees (start.run passed) key →
      ∀ found now, (start.run passed).judges move found now →
        (((start.run passed).state found).isAbandoned now = true ↔ start.lookup key = some found)) :
    start.Agrees (start.run moves) key := by
  induction moves using List.reverseRecOn with
  | nil => exact .outset settled
  | append_singleton moves move ih =>
      have agrees := ih (fun other inside => asks other (List.mem_append_left _ inside))
        fun passed other inside => judged passed other (inside.trans (List.prefix_append _ _))
      rw [run_append, run_cons, run_nil]
      refine agrees.take (asks move (by simp)) (fun found maps => ?_) ?_
        (start.length_calls_run moves) (judged moves move List.prefix_rfl agrees)
      · exact holds_of_isShown (sound.mapped key found maps)
      · by_contra known
        rw [Bool.not_eq_false] at known
        exact Heap.ne_next_of_holds _ (holds_run known moves) rfl

end Agrees

end Traffic

end SingleFlight
