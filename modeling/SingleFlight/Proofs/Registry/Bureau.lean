import SingleFlight.Proofs.Store.Placement
import SingleFlight.Proofs.Store.Undisturbed
import SingleFlight.Registry
import SingleFlight.Store.Removal

namespace SingleFlight

/-- A fetch under way: past the caches, or through a store. -/
inductive Frame where
  | bypass
  | through (store : Nat) (fetch : Fetch) (phase : Fetch.Phase)

/-- Whether the producer of a fetch runs. -/
def Frame.isProducing : Frame → Bool
  | .bypass | .through _ _ (.producing _) => true
  | .through _ _ _ => false

/-- What a caller asks of a registry when it fetches. -/
structure Inquiry where
  name : Option String
  caller : ThreadId
  key : String
  condition : Option String
  ttl : Duration
  forceRefresh : Bool
  deriving DecidableEq, Repr

/-- A registry, its stores, and the fetches under way, innermost first. -/
structure Bureau where
  registry : Registry Nat
  heap : Heap
  stores : List Store
  frames : List Frame

/-- A call to the registry, or what becomes of the innermost fetch. -/
inductive BureauMove where
  | register (name : String) (store : Nat)
  | setDefault (name : String)
  | resolve (name : Option String)
  | enable
  | disable
  | destroy
  | fetch (asked : Inquiry)
  | proceed (moment : Moment)
  | expire
  | produced (production : Production) (elapsed : Duration)

namespace Bureau

/-- A registry that knows no store yet. -/
def opened (heap : Heap) (stores : List Store) : Bureau := ⟨.empty, heap, stores, []⟩

/-- Where the clock is not looked at. -/
def unread : Moment := ⟨.error .instantBeyondPlatform, .error .wallBeyondPlatform⟩

/-- Empties the store of a number. -/
def clear (bureau : Bureau) (number : Nat) : Bureau :=
  match bureau.stores[number]? with
  | none => bureau
  | some store =>
    let (_, cache, _) := Removal.procedure.undisturbed unread
      (Removal.all.start store.segments.count) ⟨bureau.heap, store⟩
    { bureau with heap := cache.heap, stores := bureau.stores.set number cache.store }

/-- Empties the registered stores in the order of their names. -/
def clearAll (bureau : Bureau) : Bureau := bureau.registry.targets.foldl clear bureau

/-- The way that a fetch goes, as the registry stands. -/
def route (bureau : Bureau) (asked : Inquiry) : Route Nat :=
  bureau.registry.route asked.name asked.condition asked.ttl asked.forceRefresh

/-- Sets out with a fetch, unless it is refused. -/
def begin (bureau : Bureau) (asked : Inquiry) : Bureau :=
  match bureau.route asked with
  | .bypass => { bureau with frames := .bypass :: bureau.frames }
  | .refused _ => bureau
  | .through number options =>
    let fetch : Fetch := ⟨asked.caller, asked.key, options⟩
    { bureau with frames := .through number fetch Fetch.start :: bureau.frames }

/-- The next step of the fetch on top. One that is over goes. -/
def proceed (bureau : Bureau) (moment : Moment) : Bureau :=
  match bureau.frames with
  | .through _ _ (.finished _) :: rest => { bureau with frames := rest }
  | .through number fetch phase :: rest =>
    match bureau.stores[number]? with
    | none => bureau
    | some store =>
      let (next, cache, _) := fetch.step phase moment ⟨bureau.heap, store⟩
      { bureau with
        heap := cache.heap
        stores := bureau.stores.set number cache.store
        frames := .through number fetch next :: rest }
  | _ => bureau

/-- The time of the fetch on top to wait is up. -/
def expire (bureau : Bureau) : Bureau :=
  match bureau.frames with
  | .through number fetch phase :: rest =>
    { bureau with frames := .through number fetch (Fetch.expire phase) :: rest }
  | _ => bureau

/-- The innermost producer ends; past the caches its fetch does too. -/
def produced (bureau : Bureau) (production : Production) (elapsed : Duration) : Bureau :=
  match bureau.frames with
  | .through number fetch phase :: rest =>
    let (next, _) := fetch.afterProduction production elapsed phase
    { bureau with frames := .through number fetch next :: rest }
  | .bypass :: rest => { bureau with frames := rest }
  | [] => bureau

/-- What a move leaves. -/
def take (bureau : Bureau) : BureauMove → Bureau
  | .register name store => { bureau with registry := (bureau.registry.register name store).2 }
  | .setDefault name =>
    match bureau.registry.setDefault name with
    | .ok registry => { bureau with registry }
    | .error _ => bureau
  | .resolve _ => bureau
  | .enable => { bureau with registry := bureau.registry.enable }
  | .disable => clearAll { bureau with registry := bureau.registry.disable }
  | .destroy => bureau.clearAll
  | .fetch asked => bureau.begin asked
  | .proceed moment => bureau.proceed moment
  | .expire => bureau.expire
  | .produced production elapsed => bureau.produced production elapsed

/-- What moves one after the other leave. -/
def run (bureau : Bureau) (moves : List BureauMove) : Bureau := moves.foldl take bureau

/-- The error of the registry that a call fails with, at once or at its end. -/
def refusal? (bureau : Bureau) : BureauMove → Option RegistryError
  | .setDefault name =>
    match bureau.registry.setDefault name with
    | .ok _ => none
    | .error error => some error
  | .resolve name =>
    match bureau.registry.resolve name with
    | .ok _ => none
    | .error error => some error
  | .fetch asked =>
    match bureau.route asked with
    | .refused error => some error
    | .bypass | .through _ _ => none
  | .proceed _ =>
    match bureau.frames with
    | .through _ _ (.finished (.failed (.strategy error))) :: _ => some error
    | _ => none
  | .register _ _ | .enable | .disable | .destroy | .expire | .produced _ _ => none

-- The fetches of one thread stand inside each other. One goes on alone, and other calls come only where its
-- producer runs.

/-- Whether no fetch is under way, or the innermost producer runs. -/
def isCalling (bureau : Bureau) : Bool := bureau.frames.head?.all Frame.isProducing

/-- Whether a move can be made. -/
def admits (bureau : Bureau) : BureauMove → Bool
  | .register _ store => bureau.isCalling && decide (store < bureau.stores.length)
  | .setDefault _ | .resolve _ | .enable | .disable | .destroy | .fetch _ => bureau.isCalling
  | .proceed _ | .expire => bureau.frames.head?.any fun frame => !frame.isProducing
  | .produced _ _ => bureau.frames.head?.any Frame.isProducing

/-- Whether moves can be made one after the other. -/
def admitsAll (bureau : Bureau) : List BureauMove → Bool
  | [] => true
  | move :: rest => bureau.admits move && (bureau.take move).admitsAll rest

theorem run_append (bureau : Bureau) (first rest : List BureauMove) :
    bureau.run (first ++ rest) = (bureau.run first).run rest := List.foldl_append

theorem run_concat (bureau : Bureau) (moves : List BureauMove) (move : BureauMove) :
    bureau.run (moves ++ [move]) = (bureau.run moves).take move := bureau.run_append moves [move]

theorem admitsAll_append (bureau : Bureau) (first rest : List BureauMove) :
    bureau.admitsAll (first ++ rest) =
      (bureau.admitsAll first && (bureau.run first).admitsAll rest) := by
  induction first generalizing bureau with
  | nil => rfl
  | cons move first ih => rw [List.cons_append, admitsAll, ih, admitsAll, Bool.and_assoc]; rfl

end Bureau

/-- A store with nothing in it, what it held counted as removed. -/
def Store.cleared (store : Store) : Store := store.emptied.countEvictions store.size

/-- No key maps to anything in an empty store. -/
theorem Store.lookup_of_isEmpty {store : Store} (bare : store.isEmpty = true) (key : String) :
    store.lookup key = none := by
  have inside : store.segments.table key ∈ store.segments.tables.toList := by
    simp [Segments.table]
  have blank : store.segments.table key = [] := by
    simpa using List.all_eq_true.mp bare _ inside
  rw [lookup, Segments.lookup, blank]
  rfl

theorem Segments.isEmpty_empty (hash : String → Nat) (count : Nat) (positive : 0 < count) :
    (empty hash count positive).isEmpty = true := by
  apply List.all_eq_true.mpr
  intro table inside
  rw [empty, Array.toList_replicate] at inside
  rw [List.eq_of_mem_replicate inside]
  rfl

/-- A cleared store is empty. -/
theorem Store.isEmpty_cleared (store : Store) : store.cleared.isEmpty = true :=
  Segments.isEmpty_empty _ _ store.segments.positive

/-- The stores of a program once those of some numbers have been cleared. -/
def clearedAmong (stores : List Store) (numbers : List Nat) : List Store :=
  numbers.foldl (fun stores number => stores.modify number Store.cleared) stores

namespace Bureau

/-- Clearing changes one store, and no entry. -/
theorem clear_eq (bureau : Bureau) (number : Nat) :
    bureau.clear number = { bureau with stores := bureau.stores.modify number Store.cleared } := by
  unfold clear
  rw [List.modify_eq_set_getElem?]
  cases found : bureau.stores[number]? with
  | none => rfl
  | some store =>
      have reached : Removal.procedure.undisturbed unread (Removal.all.start store.segments.count)
          ⟨bureau.heap, store⟩ = (.finished store.size, ⟨bureau.heap, store.cleared⟩, []) :=
        @Removal.undisturbed_all unread ⟨bureau.heap, store⟩
      simp only [reached]
      rfl

/-- Clearing some stores leaves the registry, the entries and the fetches under way. -/
theorem foldl_clear_eq (numbers : List Nat) (bureau : Bureau) :
    numbers.foldl clear bureau = { bureau with stores := clearedAmong bureau.stores numbers } := by
  induction numbers generalizing bureau with
  | nil => rfl
  | cons number rest ih => rw [List.foldl_cons, ih, clear_eq]; rfl

theorem clearAll_eq (bureau : Bureau) :
    bureau.clearAll = { bureau with stores := clearedAmong bureau.stores bureau.registry.targets } :=
  foldl_clear_eq _ bureau

end Bureau

/-- A store of a number, and it is empty. -/
def IsBare (stores : List Store) (number : Nat) : Prop :=
  ∃ store, stores[number]? = some store ∧ store.isEmpty = true

namespace IsBare
variable {stores : List Store} {number : Nat}

/-- Clearing any store leaves an empty one empty. -/
theorem modify (bare : IsBare stores number) (other : Nat) :
    IsBare (stores.modify other Store.cleared) number := by
  obtain ⟨store, found, empty⟩ := bare
  by_cases own : other = number
  · exact ⟨store.cleared, by simp [found, own], store.isEmpty_cleared⟩
  · exact ⟨store, by simp [found, own], empty⟩

theorem cleared (bare : IsBare stores number) (numbers : List Nat) :
    IsBare (clearedAmong stores numbers) number := by
  induction numbers generalizing stores with
  | nil => exact bare
  | cons first rest ih => exact ih (bare.modify first)

/-- A store that is cleared is empty. -/
theorem of_cleared {numbers : List Nat} (named : number ∈ numbers) (known : number < stores.length) :
    IsBare (clearedAmong stores numbers) number := by
  induction numbers generalizing stores with
  | nil => cases named
  | cons first rest ih =>
      rcases List.mem_cons.mp named with rfl | later
      · have there : stores[number]? = some stores[number] := List.getElem?_eq_getElem known
        have bare : IsBare (stores.modify number Store.cleared) number :=
          ⟨stores[number].cleared, by simp [there], stores[number].isEmpty_cleared⟩
        exact bare.cleared rest
      · exact ih later (by rwa [List.length_modify])

end IsBare

theorem length_clearedAmong (numbers : List Nat) (stores : List Store) :
    (clearedAmong stores numbers).length = stores.length := by
  induction numbers generalizing stores with
  | nil => rfl
  | cons first rest ih => exact (ih (stores.modify first Store.cleared)).trans (List.length_modify ..)

end SingleFlight
