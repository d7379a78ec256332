import SingleFlight.Proofs.Traffic.Layout

namespace SingleFlight

/-- The entries that a removal has taken out and not counted yet. -/
def Removal.Phase.uncounted : Removal.Phase → Nat
  | .clearing _ removed | .counting removed => removed
  | .taking _ | .finished _ => 0

namespace Store
variable {store : Store}

theorem lookup_ne_none_iff (key : String) : store.lookup key ≠ none ↔ store.contains key = true := by
  rw [contains, Option.isSome_iff_ne_none]

/-- An entry that is taken out of its key is counted at once. -/
theorem evict_balance (inPlace : store.segments.InPlace) (key : String) (expected : EntryId) :
    (store.evict key expected).2.size + (store.evict key expected).2.evictions =
        store.size + store.evictions ∧
      (store.evict key expected).2.created = store.created ∧
      (store.evict key expected).2.replaced = store.replaced := by
  unfold evict
  split
  · next current =>
      have present : store.segments.lookup key ≠ none := by
        rw [show store.segments.lookup key = some expected from current]
        simp
      have smaller := inPlace.size_erase_of_present present
      refine ⟨?_, rfl, rfl⟩
      simp only [size]
      omega
  · exact ⟨rfl, rfl, rfl⟩

end Store

namespace Call

/-- The entries that a call has taken out and not counted yet. -/
def uncounted : Call → Nat
  | .removal phase => phase.uncounted
  | .lookup _ _ | .sweep _ | .copying _ _ => 0

/-- Whether a call has taken entries out and not counted them yet. -/
def isHalfDone (call : Call) : Bool := call.uncounted != 0

/-- Whether a call is about to find its key absent at first. -/
def misses (call : Call) (store : Store) : Bool :=
  match call with
  | .lookup asked .finding => !store.contains asked.key
  | _ => false

/-- Whether the next step of a call puts a copy in place. -/
def replaces (call : Call) (store : Store) : Bool :=
  match call with
  | .lookup asked (.swapping found _) =>
    store.lookup asked.key = none || store.lookup asked.key = some found
  | _ => false

/-- Whether a call is about to put a copy in place of nothing. -/
def revives (call : Call) (store : Store) : Bool :=
  match call with
  | .lookup asked (.swapping _ _) => !store.contains asked.key
  | _ => false

/-- No step leads to a first look, so a call misses once. -/
theorem misses_step (call : Call) (moment : Moment) (cache : Cache) (store : Store) :
    (call.step moment cache).1.misses store = false := by
  cases call with
  | lookup asked phase =>
      cases phase <;> simp only [step, Lookup.step, Lookup.find, Lookup.swap] <;> repeat' split
      all_goals rfl
  | sweep _ | removal _ | copying _ _ => rfl

/-- A lookup that puts its copy in place is over. -/
theorem over_of_replaces {call : Call} {cache : Cache} (replaces : call.replaces cache.store = true)
    (moment : Moment) :
    ∃ asked outcome, (call.step moment cache).1 = .lookup asked (.finished outcome) := by
  unfold Call.replaces at replaces
  split at replaces
  · next asked found candidate =>
      simp only [step, Lookup.step, Lookup.swap]
      repeat' split
      all_goals exact ⟨asked, _, rfl⟩
  · cases replaces

/-- What a step of a call does to the books of a store. -/
structure Accounts (call next : Call) (before after : Store) : Prop where
  balance : after.size + after.evictions + next.uncounted =
    before.size + before.evictions + call.uncounted +
      ((call.misses before).toNat + (call.revives before).toNat)
  created : after.created = before.created + (call.misses before).toNat
  replaced : after.replaced = before.replaced + (call.replaces before).toNat

variable {moment : Moment} {cache : Cache}

/-- A step that changes neither the map nor the counters. -/
theorem Accounts.idle {call next : Call} {before after : Store}
    (misses : call.misses before = false)
    (replaces : call.replaces before = false) (revives : call.revives before = false)
    (uncounted : next.uncounted = call.uncounted)
    (same : after.segments = before.segments ∧ after.created = before.created ∧
      after.replaced = before.replaced ∧ after.evictions = before.evictions) :
    Accounts call next before after := by
  obtain ⟨segments, created, replaced, evictions⟩ := same
  refine ⟨?_, by simp [created, misses], by simp [replaced, replaces]⟩
  simp [Store.size, segments, evictions, uncounted, misses, revives]

theorem accounts_lookup (inPlace : cache.store.segments.InPlace) {now : Instant}
    (read : moment.monotonic = .ok now) (asked : Lookup) (phase : Lookup.Phase) :
    Accounts (.lookup asked phase) (step (.lookup asked phase) moment cache).1 cache.store
      (step (.lookup asked phase) moment cache).2.store := by
  cases phase with
  | finding =>
      simp only [step, Lookup.step, Lookup.find]
      split
      · next found there =>
          have known : cache.store.contains asked.key = true := by simp [Store.contains, there]
          exact .idle (by simp [misses, known]) rfl rfl rfl ⟨rfl, rfl, rfl, rfl⟩
      · next absent =>
          have unknown : cache.store.contains asked.key = false := by simp [Store.contains, absent]
          rw [read]
          refine ⟨?_, by simp [misses, unknown, Store.create],
            by simp [replaces, Store.create]⟩
          have larger := cache.store.segments.size_insert_of_absent absent cache.heap.next
          simp only [Store.create, Store.size, uncounted, misses, revives, unknown, larger,
            Bool.not_false, Bool.toNat_true, Bool.toNat_false]
          omega
  | swapping found candidate =>
      simp only [step, Lookup.step, Lookup.swap]
      split
      · next current there =>
          have known : cache.store.contains asked.key = true := by simp [Store.contains, there]
          split
          · next same =>
              subst same
              have present : cache.store.segments.lookup asked.key ≠ none := by
                rw [show cache.store.segments.lookup asked.key = some current from there]
                simp
              refine ⟨?_, by simp [misses, Store.replace],
                by simp [replaces, Store.replace, there]⟩
              simp [Store.replace, Store.size, uncounted, misses, revives, known,
                inPlace.size_insert_of_present present]
          · next other =>
              exact .idle rfl (by simp [replaces, there, other])
                (by simp [revives, known]) rfl ⟨rfl, rfl, rfl, rfl⟩
      · next absent =>
          have unknown : cache.store.contains asked.key = false := by simp [Store.contains, absent]
          refine ⟨?_, by simp [misses, Store.replace],
            by simp [replaces, Store.replace, absent]⟩
          have larger := cache.store.segments.size_insert_of_absent absent candidate
          simp only [Store.replace, Store.size, uncounted, misses, revives, unknown, larger,
            Bool.not_false, Bool.toNat_true, Bool.toNat_false]
          omega
  | timing found =>
      simp only [step, Lookup.step, read]
      exact .idle rfl rfl rfl rfl ⟨rfl, rfl, rfl, rfl⟩
  | judging found now =>
      simp only [step, Lookup.step]
      split <;> exact .idle rfl rfl rfl rfl ⟨rfl, rfl, rfl, rfl⟩
  | copying found => exact .idle rfl rfl rfl rfl ⟨rfl, rfl, rfl, rfl⟩
  | stamping found content =>
      simp only [step, Lookup.step, read]
      exact .idle rfl rfl rfl rfl ⟨rfl, rfl, rfl, rfl⟩
  | finished outcome => exact .idle rfl rfl rfl rfl ⟨rfl, rfl, rfl, rfl⟩

theorem accounts_sweep (inPlace : cache.store.segments.InPlace) (phase : Sweep.Phase) :
    Accounts (.sweep phase) (step (.sweep phase) moment cache).1 cache.store
      (step (.sweep phase) moment cache).2.store := by
  cases phase with
  | removing progress key found rest =>
      obtain ⟨balance, created, replaced⟩ := Store.evict_balance inPlace key found
      exact ⟨balance, created, replaced⟩
  | visiting progress keys =>
      cases keys with
      | nil => exact .idle rfl rfl rfl rfl ⟨rfl, rfl, rfl, rfl⟩
      | cons key rest =>
          simp only [step, Sweep.step]
          split <;> exact .idle rfl rfl rfl rfl ⟨rfl, rfl, rfl, rfl⟩
  | judging progress key found now rest =>
      simp only [step, Sweep.step]
      split <;> exact .idle rfl rfl rfl rfl ⟨rfl, rfl, rfl, rfl⟩
  | stamping progress =>
      simp only [step, Sweep.step]
      split <;> exact .idle rfl rfl rfl rfl ⟨rfl, rfl, rfl, rfl⟩
  | _ => exact .idle rfl rfl rfl rfl ⟨rfl, rfl, rfl, rfl⟩

theorem accounts_removal (inPlace : cache.store.segments.InPlace) (phase : Removal.Phase) :
    Accounts (.removal phase) (step (.removal phase) moment cache).1 cache.store
      (step (.removal phase) moment cache).2.store := by
  cases phase with
  | taking name =>
      cases known : cache.store.contains name with
      | true =>
          have present := (Store.lookup_ne_none_iff name).mpr known
          have smaller := inPlace.size_erase_of_present present
          refine ⟨?_, rfl, rfl⟩
          simp only [step, Removal.step, Store.take, known, Store.size, uncounted,
            Removal.Phase.uncounted, misses, revives, if_true, Bool.toNat_false]
          omega
      | false =>
          have absent : cache.store.segments.lookup name = none := by
            simpa [Store.contains, Store.lookup] using known
          refine ⟨?_, rfl, rfl⟩
          simp [step, Removal.step, Store.take, known, Store.size, uncounted,
            Removal.Phase.uncounted, misses, revives,
            cache.store.segments.size_erase_of_absent absent]
  | clearing segments removed =>
      cases segments with
      | nil => exact .idle rfl rfl rfl rfl ⟨rfl, rfl, rfl, rfl⟩
      | cons number rest =>
          have smaller := cache.store.segments.size_clearAt number
          refine ⟨?_, rfl, rfl⟩
          simp only [step, Removal.step, Store.size, uncounted, Removal.Phase.uncounted, misses,
            revives, Bool.toNat_false]
          omega
  | counting removed =>
      refine ⟨?_, rfl, rfl⟩
      simp only [step, Removal.step, Store.countEvictions, Store.size, uncounted,
        Removal.Phase.uncounted, misses, revives, Bool.toNat_false]
      omega
  | finished removed => exact .idle rfl rfl rfl rfl ⟨rfl, rfl, rfl, rfl⟩

/-- A step counts a replacement when it puts a copy in place. -/
theorem replaced_step (call : Call) (moment : Moment) (cache : Cache) :
    (call.step moment cache).2.store.replaced =
      cache.store.replaced + (call.replaces cache.store).toNat := by
  cases call with
  | lookup asked phase =>
      cases phase with
      | swapping found candidate =>
          simp only [step, Lookup.step, Lookup.swap]
          split
          · next current there =>
              split
              · next same => simp [Store.replace, replaces, there, same]
              · next other => simp [replaces, there, other]
          · next absent => simp [Store.replace, replaces, absent]
      | _ =>
          simp only [step, Lookup.step, Lookup.find]
          repeat' split
          all_goals rfl
  | sweep phase =>
      cases phase with
      | removing progress key found rest => simp only [step, Sweep.step, Store.evict]; split <;> rfl
      | visiting progress keys => cases keys <;> simp only [step, Sweep.step] <;> [skip; split] <;> rfl
      | judging _ _ _ _ _ | stamping _ => simp only [step, Sweep.step]; split <;> rfl
      | _ => rfl
  | removal phase =>
      cases phase with
      | clearing segments removed => cases segments <;> rfl
      | _ => rfl
  | copying asked phase =>
      cases phase with
      | stamping content => simp only [step, Copying.step]; split <;> rfl
      | _ => rfl

/-- A step of a call whose reading comes through keeps the books. -/
theorem accounts_step (inPlace : cache.store.segments.InPlace) {now : Instant}
    (read : moment.monotonic = .ok now) (call : Call) :
    Accounts call (call.step moment cache).1 cache.store (call.step moment cache).2.store := by
  cases call with
  | lookup asked phase => exact accounts_lookup inPlace read asked phase
  | sweep phase => exact accounts_sweep inPlace phase
  | removal phase => exact accounts_removal inPlace phase
  | copying asked phase =>
      cases phase with
      | reading => exact .idle rfl rfl rfl rfl ⟨rfl, rfl, rfl, rfl⟩
      | stamping content =>
          simp only [step, Copying.step, read]
          exact .idle rfl rfl rfl rfl ⟨rfl, rfl, rfl, rfl⟩
      | finished outcome => exact .idle rfl rfl rfl rfl ⟨rfl, rfl, rfl, rfl⟩

end Call

namespace Traffic

/-- The entries that calls have taken out and not counted yet. -/
def uncounted (traffic : Traffic) : Nat := (traffic.calls.map Call.uncounted).sum

/-- Whether a move is a step of a call of some kind. -/
def happens (kind : Call → Store → Bool) (traffic : Traffic) (move : Move) : Bool :=
  match move.action with
  | .proceed number => (traffic.calls[number]?).any fun call => kind call traffic.cache.store
  | _ => false

/-- How many moves of a run are steps of a kind. -/
def tally (kind : Call → Store → Bool) (traffic : Traffic) : List Move → Nat
  | [] => 0
  | move :: rest => (traffic.happens kind move).toNat + (traffic.take move).tally kind rest

/-- What a run does to the books of a store. -/
structure Accounts (before after : Traffic) (misses replaces revives : Nat) : Prop where
  balance : after.cache.store.size + after.cache.store.evictions + after.uncounted =
    before.cache.store.size + before.cache.store.evictions + before.uncounted + (misses + revives)
  created : after.cache.store.created = before.cache.store.created + misses
  replaced : after.cache.store.replaced = before.cache.store.replaced + replaces

/-- After a step of a call its own weight is added up anew. -/
theorem sum_map_set (weight : Call → Nat) {calls : List Call} {number : Nat} {call : Call}
    (known : calls[number]? = some call) (next : Call) :
    ((calls.set number next).map weight).sum + weight call =
      (calls.map weight).sum + weight next := by
  induction calls generalizing number with
  | nil => cases known
  | cons first rest ih =>
      cases number with
      | zero =>
          obtain rfl : first = call := by simpa using known
          simp only [List.set_cons_zero, List.map_cons, List.sum_cons]
          omega
      | succ number =>
          have added := ih (by simpa using known)
          simp only [List.set_cons_succ, List.map_cons, List.sum_cons]
          omega

variable {traffic : Traffic}

/-- A move that changes neither the store nor what is uncounted. -/
theorem Accounts.idle {after : Traffic} (store : after.cache.store = traffic.cache.store)
    (uncounted : after.uncounted = traffic.uncounted) : traffic.Accounts after 0 0 0 :=
  ⟨by rw [store, uncounted]; rfl, by rw [store]; rfl, by rw [store]; rfl⟩

theorem accounts_onEntry (traffic : Traffic) (entry : EntryId) (change : Entry → Entry) :
    traffic.Accounts (traffic.onEntry entry change) 0 0 0 := by
  unfold onEntry
  split
  · exact .idle rfl rfl
  · exact .idle rfl rfl

/-- A move whose reading comes through keeps the books. -/
theorem accounts_take (inPlace : traffic.cache.store.segments.InPlace) {move : Move}
    (readable : move.instant? ≠ none) :
    traffic.Accounts (traffic.take move) (traffic.happens Call.misses move).toNat
      (traffic.happens Call.replaces move).toNat (traffic.happens Call.revives move).toNat := by
  obtain ⟨action, moment⟩ := move
  cases action with
  | begin task =>
      simp only [take, happens, Bool.toNat_false]
      split
      · refine .idle rfl ?_
        cases task with
        | removal asked => cases asked <;> simp [uncounted, Task.start, Call.uncounted,
            Removal.start, Removal.Phase.uncounted]
        | _ => simp [uncounted, Task.start, Call.uncounted]
      · exact .idle rfl rfl
  | proceed number =>
      simp only [take, happens]
      cases known : traffic.calls[number]? with
      | none => exact .idle rfl rfl
      | some call =>
          have read : ∃ now, moment.monotonic = .ok now := by
            cases shown : moment.monotonic with
            | error fault => simp [Move.instant?, shown, Except.toOption] at readable
            | ok now => exact ⟨now, rfl⟩
          obtain ⟨now, read⟩ := read
          have step := Call.accounts_step inPlace read call
          have counted := sum_map_set Call.uncounted known (call.step moment traffic.cache).1
          refine ⟨?_, step.created, step.replaced⟩
          have balance := step.balance
          simp only [uncounted, Option.any_some]
          omega
  | acquire caller entry request =>
      simp only [take, happens, Bool.toNat_false]
      exact traffic.accounts_onEntry entry _
  | commit caller entry content tag =>
      simp only [take, happens, Bool.toNat_false]
      exact traffic.accounts_onEntry entry _
  | release caller entry =>
      simp only [take, happens, Bool.toNat_false]
      exact traffic.accounts_onEntry entry _
  | evict key entry =>
      obtain ⟨balance, created, replaced⟩ := Store.evict_balance inPlace key entry
      refine ⟨?_, created, replaced⟩
      simp only [take, happens, uncounted, Bool.toNat_false]
      omega

/-- A move counts a replacement if it puts a copy in place. -/
theorem replaced_take (move : Move) : (traffic.take move).cache.store.replaced =
    traffic.cache.store.replaced + (traffic.happens Call.replaces move).toNat := by
  obtain ⟨action, moment⟩ := move
  cases action with
  | begin task => simp only [take]; split <;> rfl
  | proceed number =>
      simp only [take, happens]
      cases traffic.calls[number]? with
      | none => rfl
      | some call => exact call.replaced_step moment traffic.cache
  | acquire _ _ _ | commit _ _ _ _ | release _ _ =>
      simp only [take, onEntry]
      split <;> rfl
  | evict key entry => simp only [take, Store.evict]; split <;> rfl

/-- A run whose readings come through keeps the books. -/
theorem accounts_run (inPlace : traffic.cache.store.segments.InPlace) {moves : List Move}
    (readable : ∀ move ∈ moves, move.instant? ≠ none) :
    traffic.Accounts (traffic.run moves) (traffic.tally Call.misses moves)
      (traffic.tally Call.replaces moves) (traffic.tally Call.revives moves) := by
  induction moves generalizing traffic with
  | nil => exact .idle rfl rfl
  | cons move rest ih =>
      have first := accounts_take inPlace (readable move List.mem_cons_self)
      have later := ih ((edited_take .unchanged move).inPlace inPlace) fun other there =>
        readable other (List.mem_cons_of_mem move there)
      obtain ⟨balance, created, replaced⟩ := later
      refine ⟨?_, ?_, ?_⟩
      · rw [run_cons, balance, first.balance]
        simp only [tally]
        omega
      · rw [run_cons, created, first.created, tally, Nat.add_assoc]
      · rw [run_cons, replaced, first.replaced, tally, Nat.add_assoc]

/-- The replacements are counted also if readings fail. -/
theorem replaced_run (moves : List Move) : (traffic.run moves).cache.store.replaced =
    traffic.cache.store.replaced + traffic.tally Call.replaces moves := by
  induction moves generalizing traffic with
  | nil => rfl
  | cons move rest ih => rw [run_cons, ih, replaced_take, tally, Nat.add_assoc]

/-- An empty store has balanced books. -/
theorem books_opened (hash : String → Nat) (count : Nat) (positive : 0 < count)
    (ceiling : Duration) :
    let start := opened hash count positive ceiling
    start.cache.store.size = 0 ∧ start.cache.store.evictions = 0 ∧ start.uncounted = 0 ∧
      start.cache.store.created = 0 ∧ start.cache.store.replaced = 0 := by
  refine ⟨?_, rfl, rfl, rfl, rfl⟩
  simp [opened, Store.size, Segments.size_eq_sum, Segments.empty]

/-- Nothing is left to be counted if no call is half done. -/
theorem uncounted_eq_zero {traffic : Traffic}
    (whole : ∀ call ∈ traffic.calls, call.isHalfDone = false) : traffic.uncounted = 0 := by
  rw [uncounted, List.sum_eq_zero]
  intro count inside
  obtain ⟨call, there, rfl⟩ := List.mem_map.mp inside
  simpa [Call.isHalfDone] using whole call there

/-- Entries made balance entries left and taken out, up to copies in place of nothing. -/
theorem entries_conserved (hash : String → Nat) (count : Nat) (positive : 0 < count)
    (ceiling : Duration) {moves : List Move} (readable : ∀ move ∈ moves, move.instant? ≠ none) :
    let start := opened hash count positive ceiling
    let traffic := start.run moves
    let store := traffic.cache.store
    let revived := start.tally Call.revives moves
    store.size + store.evictions + traffic.uncounted = store.created + revived ∧
      store.replaced = start.tally Call.replaces moves ∧
      store.created = start.tally Call.misses moves ∧
      ((∀ call ∈ traffic.calls, call.isHalfDone = false) →
        store.size + store.evictions = store.created + revived ∧
          ((store.created : Int) - store.evictions = store.size ↔ revived = 0)) := by
  intro start traffic store revived
  obtain ⟨empty, none, nothing, unmade, unreplaced⟩ := books_opened hash count positive ceiling
  have placed : start.cache.store.segments.InPlace := Segments.inPlace_empty hash count positive
  have accounts := accounts_run placed readable
  have created : store.created = start.tally Call.misses moves := by
    rw [accounts.created, unmade, Nat.zero_add]
  have balance : store.size + store.evictions + traffic.uncounted = store.created + revived := by
    rw [created, accounts.balance, empty, none, nothing]
    omega
  refine ⟨balance, by rw [accounts.replaced, unreplaced, Nat.zero_add], created, fun whole => ?_⟩
  rw [uncounted_eq_zero whole, Nat.add_zero] at balance
  exact ⟨balance, by omega⟩

/-- A copy comes in place of an entry evicted meanwhile. -/
theorem entries_conserved_after_revival :
    let start := opened (fun _ => 0) 1 Nat.one_pos ⟨9⟩
    let moves : List Move :=
      [.timed 0 (.begin (.lookup ⟨"k", none, ⟨5⟩⟩)), .timed 0 (.proceed 0),
        .timed 0 (.acquire ⟨1⟩ ⟨0⟩ .forced), .timed 9 (.begin (.lookup ⟨"k", none, ⟨5⟩⟩)),
        .timed 9 (.proceed 1), .timed 9 (.proceed 1), .timed 9 (.proceed 1), .timed 9 (.proceed 1),
        .timed 9 (.proceed 1), .timed 9 (.evict "k" ⟨0⟩), .timed 9 (.proceed 1)]
    let store := (start.run moves).cache.store
    start.tally Call.revives moves = 1 ∧ store.size + store.evictions = store.created + 1 ∧
      ¬ (store.created : Int) - store.evictions = store.size := by
  intro start moves store
  have readable : ∀ move ∈ moves, move.instant? ≠ none := by decide
  have revived : start.tally Call.revives moves = 1 := by decide +kernel
  have whole : ∀ call ∈ (start.run moves).calls, call.isHalfDone = false := by decide +kernel
  -- With the moves in sight, each comparison would run them again; what is known of them is enough.
  clear_value moves
  obtain ⟨-, -, -, settled⟩ := entries_conserved (fun _ => 0) 1 Nat.one_pos ⟨9⟩ readable
  obtain ⟨balance, alone⟩ := settled whole
  refine ⟨revived, balance.trans (congrArg (store.created + ·) revived), fun same => ?_⟩
  exact absurd (revived.symm.trans (alone.mp same)) Nat.one_ne_zero

end Traffic

end SingleFlight
